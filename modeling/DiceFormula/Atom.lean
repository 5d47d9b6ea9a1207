import DiceFormula.Fault

namespace DiceFormula

/-- The comparisons a die is held against. Equality has two spellings, which stay apart. -/
inductive Comparison
  | greater
  | greaterOrEqual
  | less
  | lessOrEqual
  | equal
  | doubledEqual
  | other (symbol : String)
  deriving DecidableEq

namespace Comparison

def symbol : Comparison → String
  | greater => ">"
  | greaterOrEqual => ">="
  | less => "<"
  | lessOrEqual => "<="
  | equal => "="
  | doubledEqual => "=="
  | other symbol => symbol

def ofSymbol (symbol : String) : Comparison :=
  if symbol = ">" then greater
  else if symbol = ">=" then greaterOrEqual
  else if symbol = "<" then less
  else if symbol = "<=" then lessOrEqual
  else if symbol = "=" then equal
  else if symbol = "==" then doubledEqual
  else other symbol

def holds : Comparison → Int → Int → Except RollFault Bool
  | greater, value, threshold => .ok (value > threshold)
  | greaterOrEqual, value, threshold => .ok (value ≥ threshold)
  | less, value, threshold => .ok (value < threshold)
  | lessOrEqual, value, threshold => .ok (value ≤ threshold)
  | equal, value, threshold => .ok (value = threshold)
  | doubledEqual, value, threshold => .ok (value = threshold)
  | other symbol, _, _ => .error (.unknownComparison symbol)

theorem symbol_ofSymbol (text : String) : (ofSymbol text).symbol = text := by
  unfold ofSymbol
  split
  · simp_all [symbol]
  split
  · simp_all [symbol]
  split
  · simp_all [symbol]
  split
  · simp_all [symbol]
  split
  · simp_all [symbol]
  split <;> simp_all [symbol]

end Comparison

structure Pool where
  count : Int
  sides : Int
  deriving DecidableEq

structure Check where
  comparison : Comparison
  threshold : Int
  deriving DecidableEq

/-- Exploding dice add up, the other two keep the last face. -/
inductive RerollKind
  | exploding
  | once
  | recursive
  deriving DecidableEq

inductive Atom
  | number (value : Int)
  | dice (pool : Pool)
  | conditional (pool : Pool) (check : Check)
  | reroll (pool : Pool) (kind : RerollKind) (check : Check)
  deriving DecidableEq

def Check.holds (check : Check) (face : Int) : Except RollFault Bool :=
  check.comparison.holds face check.threshold

def RerollKind.name : RerollKind → String
  | exploding => "exploding"
  | once => "once"
  | recursive => "recursive"

def RerollKind.letter : RerollKind → String
  | exploding => ""
  | once => "o"
  | recursive => "r"

def Pool.render (pool : Pool) : String :=
  s!"{pool.count}d{pool.sides}"

def Check.render (check : Check) : String :=
  check.comparison.symbol ++ toString check.threshold

def Check.renderTerse (check : Check) : String :=
  if check.comparison = .equal then toString check.threshold else check.render

def Atom.render : Atom → String
  | .number value => toString value
  | .dice pool => pool.render
  | .conditional pool check => pool.render ++ check.render
  | .reroll pool kind check => pool.render ++ "r" ++ kind.letter ++ check.renderTerse

end DiceFormula
