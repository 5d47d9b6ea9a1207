import DiceFormula.Expr.Basic
import DiceFormula.Fault
import DiceFormula.Token.Form
import DiceFormula.Token.Scan

namespace DiceFormula

/-- What waits for its right operand at one level of nesting: a sum and, within it, a product. -/
structure Level where
  sum : Option (Expr × Operator)
  product : Option (Expr × Operator)

structure Group where
  opening : Token
  around : Level

namespace Level

def start : Level := ⟨none, none⟩

end Level

def complete (waiting : Option (Expr × Operator)) (right : Expr) : Expr :=
  match waiting with
  | some (left, operator) => .binary operator left right
  | none => right

/-- Reports a token that cannot follow an operand. The innermost open group is blamed first. -/
def cannotFollow (groups : List Group) (token : Token) : ParseFault :=
  match groups with
  | group :: _ => ⟨.unmatchedOpening, group.opening.position, some group.opening.text⟩
  | [] => ⟨.unexpectedToken token.text, token.position, some token.text⟩

mutual

def parseOperand (stop : Int) (groups : List Group) (level : Level) :
    List Token → Except ParseFault Expr
  | [] => .error ⟨.unexpectedEnd, stop, none⟩
  | token :: rest =>
    match token.lexeme with
    | .atom atom => parseOperator stop groups level.sum (complete level.product (.atom atom)) rest
    | .operator operator =>
      .error ⟨.unexpectedOperator operator.symbol, token.position, some token.text⟩
    | .paren false =>
      if groups.isEmpty then .error ⟨.unmatchedClosing, token.position, some token.text⟩
      else .error ⟨.valueMissing, token.position, some token.text⟩
    | .paren true =>
      if (rest.head?.map Token.lexeme) = some (.paren false) then
        .error ⟨.emptyGroup, token.position, some "()"⟩
      else if deepestNesting ≤ groups.length then
        .error ⟨.nestedTooDeep, token.position, some token.text⟩
      else parseOperand stop (⟨token, level⟩ :: groups) .start rest

def parseOperator (stop : Int) (groups : List Group) (sum : Option (Expr × Operator))
    (term : Expr) : List Token → Except ParseFault Expr
  | [] =>
    match groups with
    | group :: _ => .error ⟨.unmatchedOpening, group.opening.position, some group.opening.text⟩
    | [] => .ok (complete sum term)
  | token :: rest =>
    match token.lexeme with
    | .operator operator =>
      if operator.isAdditive then
        parseOperand stop groups ⟨some (complete sum term, operator), none⟩ rest
      else if operator.isMultiplicative then
        parseOperand stop groups ⟨sum, some (term, operator)⟩ rest
      else .error (cannotFollow groups token)
    | .paren false =>
      match groups with
      | group :: outer =>
        parseOperator stop outer group.around.sum
          (complete group.around.product (.group (complete sum term))) rest
      | [] => .error ⟨.unmatchedClosing, token.position, some token.text⟩
    | .atom _ | .paren true => .error (cannotFollow groups token)

end

/-- Reads all the tokens as one formula, products binding closer than sums. -/
def Expr.ofTokens (tokens : List Token) : Except ParseFault Expr :=
  match tokens with
  | [] => .error ⟨.empty, 0, none⟩
  | first :: rest =>
    let last := (first :: rest).getLast (List.cons_ne_nil first rest)
    match first.lexeme, last.lexeme with
    | .operator _, _ => .error ⟨.leadingOperator, first.position, some first.text⟩
    | _, .operator _ => .error ⟨.trailingOperator, last.position, some last.text⟩
    | _, _ => parseOperand last.stop [] .start (first :: rest)

def scanText (limit : Int) (text : String) : Except Fault (List Token) :=
  (tokenize limit text).mapError .scan

def parseTokens (tokens : List Token) : Except Fault Expr :=
  (Expr.ofTokens tokens).mapError .parse

def Expr.ofText (limit : Int) (text : String) : Except Fault Expr := do
  parseTokens (← scanText limit text)

end DiceFormula
