import DiceFormula.Fault

namespace DiceFormula

/-- The four arithmetic operators. A tree built by hand may name any other. -/
inductive Operator
  | add
  | subtract
  | multiply
  | divide
  | other (symbol : String)
  deriving DecidableEq

namespace Operator

def symbol : Operator → String
  | add => "+"
  | subtract => "-"
  | multiply => "*"
  | divide => "/"
  | other symbol => symbol

def ofSymbol (symbol : String) : Operator :=
  if symbol = "+" then add
  else if symbol = "-" then subtract
  else if symbol = "*" then multiply
  else if symbol = "/" then divide
  else other symbol

def name? : Operator → Option String
  | add => some "addition"
  | subtract => some "subtraction"
  | multiply => some "multiplication"
  | divide => some "division"
  | other _ => none

def isAdditive : Operator → Bool
  | add | subtract => true
  | _ => false

def isMultiplicative : Operator → Bool
  | multiply | divide => true
  | _ => false

/-- Division goes to the floor. -/
def apply : Operator → Int → Int → Except RollFault Int
  | add, left, right => .ok (left + right)
  | subtract, left, right => .ok (left - right)
  | multiply, left, right => .ok (left * right)
  | divide, left, right =>
    if right = 0 then .error (.divisionByZero left) else .ok (left.fdiv right)
  | other symbol, _, _ => .error (.unknownOperator symbol)

theorem symbol_ofSymbol (text : String) : (ofSymbol text).symbol = text := by
  unfold ofSymbol
  split
  · simp_all [symbol]
  split
  · simp_all [symbol]
  split
  · simp_all [symbol]
  split <;> simp_all [symbol]

end Operator

end DiceFormula
