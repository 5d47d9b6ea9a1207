import DiceFormula.Text.Numeral
import DiceFormula.Text.Quoted

namespace DiceFormula

structure Diagnosis where
  code : String
  detail : String
  deriving DecidableEq

def Diagnosis.message (diagnosis : Diagnosis) : String :=
  let code := diagnosis.code
  let detail := diagnosis.detail
  s!"[{code}] {detail}"

inductive DiceFault
  | countNotPositive (count : Nat)
  | sidesNotPositive (sides : Nat)
  | tooManyDice (count : Nat)
  | tooManySides (sides : Nat)
  | thresholdOutside (threshold sides : Nat)
  deriving DecidableEq

/-- Why a text gives no tokens. Positions count the characters of the condensed text. -/
inductive ScanFault
  | tooLong (length : Nat) (limit : Int)
  | unreadable (position : Nat) (fragment : String)
  | rejected (position : Nat) (fault : DiceFault)
  | numeralTooLong
  deriving DecidableEq

def mostDice : Nat := 1000

def mostSides : Nat := 10000

def DiceFault.detail : DiceFault → String
  | countNotPositive count => s!"Dice count must be a positive integer, got {count}"
  | sidesNotPositive sides => s!"Dice sides must be a positive integer, got {sides}"
  | tooManyDice count => s!"Too many dice ({count}, maximum {mostDice})"
  | tooManySides sides => s!"Too many sides ({sides}, maximum {mostSides})"
  | thresholdOutside threshold sides => s!"Threshold {threshold} must be between 1 and {sides}"

/-- A numeral that is too long is a failure of the machinery and carries no diagnosis. -/
def ScanFault.diagnosis? : ScanFault → Option Diagnosis
  | tooLong length limit =>
    some ⟨"VALIDATION_ERROR", s!"Expression too long ({length} characters, maximum {limit})"⟩
  | unreadable position fragment =>
    some ⟨"TOKENIZATION_ERROR",
      s!"Invalid dice expression syntax at position {position}: '{fragment}'"⟩
  | rejected _ fault => some ⟨"VALIDATION_ERROR", fault.detail⟩
  | numeralTooLong => none

inductive ParseCause
  | empty
  | leadingOperator
  | trailingOperator
  | unexpectedEnd
  | emptyGroup
  | nestedTooDeep
  | unmatchedOpening
  | unmatchedClosing
  | valueMissing
  | unexpectedOperator (symbol : String)
  | unexpectedToken (text : String)
  deriving DecidableEq

structure ParseFault where
  cause : ParseCause
  position : Int
  token : Option String
  deriving DecidableEq

def deepestNesting : Nat := 50

def ParseCause.summary : ParseCause → String
  | empty => "Empty expression"
  | leadingOperator => "Expression cannot start with an operator"
  | trailingOperator => "Expression cannot end with an operator"
  | unexpectedEnd => "Unexpected end of expression"
  | emptyGroup => "Empty parenthesis group"
  | nestedTooDeep => s!"Parentheses nested deeper than {deepestNesting} levels"
  | unmatchedOpening => "Unmatched opening parenthesis"
  | unmatchedClosing => "Unmatched closing parenthesis"
  | valueMissing => "Expected a value before closing parenthesis"
  | unexpectedOperator symbol => s!"Unexpected operator '{symbol}'"
  | unexpectedToken text => s!"Unexpected token '{text}'"

def ParseFault.diagnosis (fault : ParseFault) : Diagnosis :=
  let summary := fault.cause.summary
  let position := fault.position
  ⟨"PARSE_ERROR", s!"{summary} (position {position})"⟩

inductive RollFault
  | unknownComparison (symbol : String)
  | unknownOperator (symbol : String)
  | divisionByZero (dividend : Int)
  | divisorAlwaysZero
  | rerollsExhausted (limit : Int)
  /-- The result of an operation was to be described and has too many digits. -/
  | resultTooLong
  | sidesTooLarge
  | unnamedOperator (symbol : String)
  deriving DecidableEq

namespace RollFault

/-- The last three are failures of the machinery and carry no diagnosis. Neither does a division
    whose dividend cannot be written. -/
def diagnosis? : RollFault → Option Diagnosis
  | unknownComparison symbol => some ⟨"EVALUATION_ERROR", s!"Unknown comparison operator: {symbol}"⟩
  | unknownOperator symbol => some ⟨"EVALUATION_ERROR", s!"Unknown operator: {symbol}"⟩
  | divisionByZero dividend =>
    if Text.isWritable dividend then
      some ⟨"EVALUATION_ERROR", s!"Division by zero ({dividend} / 0)"⟩
    else none
  | divisorAlwaysZero => some ⟨"EVALUATION_ERROR", "Division by zero: divisor is always 0"⟩
  | rerollsExhausted limit =>
    some ⟨"MAX_REROLLS_EXCEEDED", s!"Maximum rerolls exceeded ({limit}) for a single die"⟩
  | resultTooLong => none
  | sidesTooLarge => none
  | unnamedOperator _ => none

end RollFault

inductive Fault
  | scan (fault : ScanFault)
  | parse (fault : ParseFault)
  | roll (fault : RollFault)
  | unknownFormat (format : String)
  deriving DecidableEq

def Fault.diagnosis? : Fault → Option Diagnosis
  | scan fault => fault.diagnosis?
  | parse fault => some fault.diagnosis
  | roll fault => fault.diagnosis?
  | unknownFormat _ => none

def unknownFormatMessage (format : String) : String :=
  "Unknown explanation format: " ++ Text.quoted format

end DiceFormula
