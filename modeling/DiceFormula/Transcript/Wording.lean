import DiceFormula.Decimal.Writing
import DiceFormula.Expr.Basic
import DiceFormula.Text.LetterCase

namespace DiceFormula

open Decimal (writeWhole)

def joinComma (parts : List String) : String := String.intercalate ", " parts

def showInts (values : List Int) : String := joinComma (values.map writeWhole)

def Expr.describe (e : Expr) (result : Int) : String :=
  let shown := writeWhole result
  match e with
  | .atom (.number value) => "Number literal: " ++ writeWhole value
  | .atom (.dice pool) => s!"Dice expression: {pool.render} = {shown}"
  | .atom (.conditional pool check) =>
    let written := (Atom.conditional pool check).render
    s!"Conditional dice: {written} = {shown}"
  | .atom (.reroll pool kind check) =>
    let written := (Atom.reroll pool kind check).render
    s!"Reroll dice: {written} = {shown}"
  | .group _ => s!"Parenthetical expression = {shown}"
  | .binary operator _ _ => s!"Binary operation: {operator.symbol} = {shown}"

def Expr.activity : Expr → Except RollFault String
  | .atom (.number _) => .ok "Processing NumberLiteral node"
  | .atom (.dice pool) => .ok s!"Rolling {pool.count} dice with {pool.sides} sides each"
  | .atom (.conditional _ check) =>
    let symbol := check.comparison.symbol
    .ok s!"Counting successes where each die roll {symbol} {check.threshold}"
  | .atom (.reroll _ kind check) =>
    .ok s!"Rerolling ({kind.name}) dice that meet condition {check.render}"
  | .group _ => .ok "Processing Parentheses node"
  | .binary operator _ _ =>
    match operator.name? with
    | some name => .ok s!"Performing {name} operation"
    | none => .error (.unnamedOperator operator.symbol)

namespace Wording

def tokens (texts : List String) : String :=
  "Tokenized expression into: " ++ joinComma texts

def tokensInDetail (texts : List String) : String :=
  joinComma ((texts.zipIdx 1).map fun (text, number) => s!"{number}. \"{text}\"")

def parsing (description : String) : String :=
  s!"Parsed tokens into AST: {description}"

def parsingInDetail (count : Int) : String :=
  s!"Abstract syntax tree contains {count} nodes"

def dice (e : Expr) (rolls : List Int) (total : Int) : String :=
  let written := e.render
  let shown := showInts rolls
  s!"Rolled {written}: {shown} (total: {total})"

def diceInDetail (rolls : List Int) : String :=
  let shown := joinComma ((rolls.zipIdx 1).map fun (roll, number) => s!"die {number}: {roll}")
  s!"Individual rolls: [{shown}]"

def conditional (pool : Pool) (check : Check) (successes : Int) : String :=
  let dice := pool.render
  let condition := check.render
  s!"Evaluated {dice} with condition {condition}: {successes} successes"

def conditionalInDetail (rolls : List Int) : String :=
  let shown := showInts rolls
  s!"Rolls: {shown}"

def reroll (pool : Pool) (check : Check) (total count : Int) : String :=
  let dice := pool.render
  let condition := check.render
  s!"Rolled {dice} with rerolls on {condition}: {total} ({count} rerolls)"

def rerollInDetail (kind : RerollKind) (all finals : List Int) : String :=
  let drawn := showInts all
  let kept := showInts finals
  s!"All rolls: [{drawn}] | Final values: [{kept}] | Reroll type: {kind.name}"

def parentheses (value : Int) : String :=
  "Evaluated parenthetical expression: " ++ writeWhole value

def operation (operator : Operator) (left right result : Int) : String :=
  String.intercalate " "
    [writeWhole left, operator.symbol, writeWhole right, "=", writeWhole result]

def operationInDetail (operator : Operator) (left right : Int) : String :=
  let name := Text.capitalize (operator.name?.getD operator.symbol)
  name ++ " of " ++ writeWhole left ++ " and " ++ writeWhole right

def finalResult (value : Int) : String := "Final result: " ++ writeWhole value

end Wording

end DiceFormula
