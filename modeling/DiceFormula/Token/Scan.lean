import DiceFormula.Fault
import DiceFormula.Text.Numeral
import DiceFormula.Token.Form

namespace DiceFormula

def readNumeral (digits : List Char) : Except ScanFault Nat :=
  match Text.readNumeral? digits with
  | some value => .ok value
  | none => .error .numeralTooLong

def readPool (position : Nat) (count sides : List Char) : Except ScanFault Pool := do
  let count ← if count.isEmpty then pure 1 else readNumeral count
  let sides ← readNumeral sides
  if count = 0 then throw (.rejected position (.countNotPositive count))
  if sides = 0 then throw (.rejected position (.sidesNotPositive sides))
  if mostDice < count then throw (.rejected position (.tooManyDice count))
  if mostSides < sides then throw (.rejected position (.tooManySides sides))
  return ⟨count, sides⟩

def readThreshold (position : Nat) (pool : Pool) (digits : List Char) : Except ScanFault Int := do
  let threshold ← readNumeral digits
  if threshold < 1 ∨ pool.sides < threshold then
    throw (.rejected position (.thresholdOutside threshold pool.sides.toNat))
  return threshold

def Form.lexeme (position : Nat) : Form → Except ScanFault Lexeme
  | number digits => do
    let value ← readNumeral digits
    return .atom (.number value)
  | operator op => .ok (.operator op)
  | paren isOpen => .ok (.paren isOpen)
  | dice count _ sides suffix => do
    let pool ← readPool position count sides
    match suffix with
    | .plain => return .atom (.dice pool)
    | .conditional comparison digits =>
      let threshold ← readThreshold position pool digits
      return .atom (.conditional pool ⟨comparison, threshold⟩)
    | .reroll kind comparison digits =>
      let threshold ← readThreshold position pool digits
      return .atom (.reroll pool kind ⟨comparison.getD .equal, threshold⟩)

def scanFrom (position : Nat) (cs : List Char) : Except ScanFault (List Token) :=
  match cs with
  | [] => .ok []
  | c :: tail =>
    match _read : Form.read? (c :: tail) with
    | none => .error (.unreadable position (String.ofList (c :: tail)))
    | some (form, rest) => do
      let lexeme ← form.lexeme position
      let tokens ← scanFrom (position + form.text.length) rest
      return ⟨String.ofList form.text, position, lexeme⟩ :: tokens
termination_by cs.length
decreasing_by exact Form.length_rest_lt _read

def condense (text : String) : String :=
  String.ofList (Text.condense text.toList)

def defaultLengthLimit : Int := 1000

/-- The text as it stands is measured, blanks included. -/
def checkLength (limit : Int) (text : String) : Except ScanFault Unit :=
  if limit < text.length then .error (.tooLong text.length limit) else .ok ()

def tokenize (limit : Int) (text : String) : Except ScanFault (List Token) := do
  checkLength limit text
  scanFrom 0 (Text.condense text.toList)

end DiceFormula
