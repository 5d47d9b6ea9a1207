import DiceFormula.Expr.Basic

namespace DiceFormula

/-- The least and the greatest value. Trees built by hand may turn them round. -/
structure Bounds where
  min : Int
  max : Int
  deriving DecidableEq

namespace Bounds

def around (first : Int) (others : List Int) : Bounds :=
  ⟨others.foldl Min.min first, others.foldl Max.max first⟩

/-- The divisors at which a quotient may be extreme: the two ends, and the units that lie within. -/
def divisors (right : Bounds) : List Int :=
  [right.min, right.max].filter (· ≠ 0) ++
    (if right.min ≤ -1 ∧ 0 ≤ right.max then [-1] else []) ++
    (if right.min ≤ 0 ∧ 1 ≤ right.max then [1] else [])

def combine (operator : Operator) (left right : Bounds) : Except RollFault Bounds :=
  match operator with
  | .add => .ok ⟨left.min + right.min, left.max + right.max⟩
  | .subtract => .ok ⟨left.min - right.max, left.max - right.min⟩
  | .multiply =>
    .ok (around (left.min * right.min)
      [left.min * right.max, left.max * right.min, left.max * right.max])
  | .divide =>
    match right.divisors with
    | [] => .error .divisorAlwaysZero
    | first :: others =>
      .ok (around (left.min.fdiv first)
        (others.map left.min.fdiv ++ (first :: others).map left.max.fdiv))
  | .other symbol => .error (.unknownOperator symbol)

end Bounds

/-- Rerolls without a true maximum are taken to reach so many times the plain one. -/
def Atom.bounds (multiplier : Int) : Atom → Bounds
  | .number value => ⟨value, value⟩
  | .dice pool => ⟨pool.count, pool.count * pool.sides⟩
  | .conditional pool _ => ⟨0, pool.count⟩
  | .reroll pool .once _ => ⟨pool.count, pool.count * pool.sides⟩
  | .reroll pool _ _ => ⟨pool.count, pool.count * pool.sides * multiplier⟩

namespace Expr

mutual

def bounds (multiplier : Int) : Expr → Except RollFault Bounds
  | atom a => .ok (a.bounds multiplier)
  | group inner => inner.bounds multiplier
  | binary operator left right => do
    let first ← (binary operator left right).spine.1.bounds multiplier
    chainBounds multiplier first (binary operator left right).spine.2
termination_by e => e.size
decreasing_by
  · simp [size]
  · exact size_first_lt operator left right
  · exact chainSize_lt operator left right

def chainBounds (multiplier : Int) (left : Bounds) : List Link → Except RollFault Bounds
  | [] => .ok left
  | link :: rest => do
    let right ← link.right.bounds multiplier
    let both ← Bounds.combine link.operator left right
    chainBounds multiplier both rest
termination_by links => chainSize links
decreasing_by
  all_goals rw [chainSize_cons]
  all_goals omega

end

end Expr

end DiceFormula
