import DiceFormula.Proofs.Expr.Extremes
import DiceFormula.Proofs.Expr.Parts
import DiceFormula.Proofs.Expr.Recursion
import DiceFormula.Proofs.Run

namespace DiceFormula

namespace Bounds

variable {operator : Operator} {left right both wideLeft wideRight : Bounds}

/-- The bounds are not turned round, and the wide ones leave out nothing of them. -/
structure Widened (narrow wide : Bounds) : Prop where
  ordered : narrow.min ≤ narrow.max
  least : wide.min ≤ narrow.min
  most : narrow.max ≤ wide.max

theorem Widened.wideOrdered {narrow wide : Bounds} (widened : narrow.Widened wide) :
    wide.min ≤ wide.max :=
  Int.le_trans widened.least (Int.le_trans widened.ordered widened.most)

theorem Widened.mem {narrow wide : Bounds} (widened : narrow.Widened wide) {value : Int}
    (inside : value ∈ narrow) : value ∈ wide :=
  ⟨Int.le_trans widened.least inside.1, Int.le_trans inside.2 widened.most⟩

theorem results_mono (leftWidened : left.Widened wideLeft)
    (rightWidened : right.Widened wideRight) :
    results operator left right ⊆ results operator wideLeft wideRight := by
  rintro value ⟨a, inLeft, b, inRight, applied⟩
  exact ⟨a, leftWidened.mem inLeft, b, rightWidened.mem inRight, applied⟩

theorem known_of_combine (combined : combine operator left right = .ok both) :
    operator.isAdditive = true ∨ operator.isMultiplicative = true := by
  cases operator with
  | add => exact .inl rfl
  | subtract => exact .inl rfl
  | multiply => exact .inr rfl
  | divide => exact .inr rfl
  | other symbol => cases combined

/-- The ends of the bounds are values of the operation, and remain values of it when its operands
    may take more values. So no divisor is lost, wherever the wider ones lie. -/
theorem combine_widened (leftWidened : left.Widened wideLeft)
    (rightWidened : right.Widened wideRight) (combined : combine operator left right = .ok both) :
    ∃ wide, combine operator wideLeft wideRight = .ok wide ∧ both.Widened wide := by
  have known := known_of_combine combined
  have least : both.min ∈ results operator left right :=
    IsEnd.mem_results known leftWidened.ordered rightWidened.ordered combined (.inl rfl)
  have most : both.max ∈ results operator left right :=
    IsEnd.mem_results known leftWidened.ordered rightWidened.ordered combined (.inr rfl)
  have ordered : both.min ≤ both.max := (results_subset combined both.min least).2
  obtain ⟨a, inLeft, b, inRight, applied⟩ := results_mono leftWidened rightWidened least
  obtain ⟨wide, combinedWide, atLeast⟩ := apply_mem_combine inLeft inRight applied
  have atMost : both.max ∈ wide :=
    results_subset combinedWide both.max (results_mono leftWidened rightWidened most)
  exact ⟨wide, combinedWide, ordered, atLeast.1, atMost.2⟩

end Bounds

theorem Atom.widened_bounds {a : Atom}
    (real : ∀ pool, a.pool? = some pool → 1 ≤ pool.count ∧ 1 ≤ pool.sides)
    {multiplier larger : Int} (positive : 1 ≤ multiplier) (larger_le : multiplier ≤ larger) :
    (a.bounds multiplier).Widened (a.bounds larger) := by
  have plain {pool : Pool} (has : a.pool? = some pool) :
      1 ≤ pool.count ∧ pool.count ≤ pool.count * pool.sides := by
    obtain ⟨count, sides⟩ := real pool has
    exact ⟨count, le_mul_of_one_le_right (by omega) sides⟩
  have raised {pool : Pool} (has : a.pool? = some pool) :
      Bounds.Widened ⟨pool.count, pool.count * pool.sides * multiplier⟩
        ⟨pool.count, pool.count * pool.sides * larger⟩ := by
    obtain ⟨count, most⟩ := plain has
    have ceiling : pool.count * pool.sides ≤ pool.count * pool.sides * multiplier :=
      le_mul_of_one_le_right (by omega) positive
    exact ⟨Int.le_trans most ceiling, Int.le_refl _,
      Int.mul_le_mul_of_nonneg_left larger_le (by omega)⟩
  cases a with
  | number value => exact ⟨Int.le_refl _, Int.le_refl _, Int.le_refl _⟩
  | dice pool => exact ⟨(plain rfl).2, Int.le_refl _, Int.le_refl _⟩
  | conditional pool check =>
    have natural : 0 ≤ pool.count := Int.le_trans Int.one_nonneg (plain rfl).1
    exact ⟨natural, Int.le_refl _, Int.le_refl _⟩
  | reroll pool kind check =>
    cases kind with
    | once => exact ⟨(plain rfl).2, Int.le_refl _, Int.le_refl _⟩
    | exploding => exact raised rfl
    | recursive => exact raised rfl

namespace Expr

/-- Where there are bounds, a larger multiplier gives bounds too, and wider ones: it never makes a
    divisor that is always zero of one that is not. -/
theorem bounds_widened (e : Expr)
    (real : ∀ pool ∈ e.pools, 1 ≤ pool.count ∧ 1 ≤ pool.sides) (multiplier larger : Int)
    (positive : 1 ≤ multiplier) (larger_le : multiplier ≤ larger) (narrow : Bounds)
    (bounded : e.bounds multiplier = .ok narrow) :
    ∃ wide, e.bounds larger = .ok wide ∧ narrow.min ≤ narrow.max ∧ wide.min ≤ wide.max ∧
      wide.min ≤ narrow.min ∧ narrow.max ≤ wide.max := by
  suffices widened : ∃ wide, e.bounds larger = .ok wide ∧ narrow.Widened wide by
    obtain ⟨wide, boundedWide, widened⟩ := widened
    exact ⟨wide, boundedWide, widened.ordered, widened.wideOrdered, widened.least, widened.most⟩
  induction e generalizing narrow with
  | atom a =>
    rw [bounds] at bounded ⊢
    cases bounded
    exact ⟨_, rfl, Atom.widened_bounds (fun pool has => real pool (mem_pools_atom has)) positive
      larger_le⟩
  | group inner ih =>
    rw [bounds] at bounded ⊢
    exact ih real narrow bounded
  | binary operator left right leftIh rightIh =>
    rw [pools_binary, List.forall_mem_append] at real
    rw [bounds_binary] at bounded ⊢
    obtain ⟨leftBounds, leftBounded, bounded⟩ := ok_of_bind bounded
    obtain ⟨rightBounds, rightBounded, combined⟩ := ok_of_bind bounded
    obtain ⟨wideLeft, leftWide, leftWidened⟩ := leftIh real.1 leftBounds leftBounded
    obtain ⟨wideRight, rightWide, rightWidened⟩ := rightIh real.2 rightBounds rightBounded
    rw [leftWide, rightWide]
    exact Bounds.combine_widened leftWidened rightWidened combined

theorem bounds_widened_across_zero :
    let divisor : Expr := .group (.binary .subtract
      (.atom (.reroll ⟨1, 2⟩ .exploding ⟨.equal, 2⟩)) (.atom (.number 5)))
    let e : Expr := .binary .divide (.atom (.number 7)) divisor
    divisor.bounds 1 = .ok ⟨-4, -3⟩ ∧ divisor.bounds 3 = .ok ⟨-4, 1⟩ ∧
      e.bounds 1 = .ok ⟨-3, -2⟩ ∧ e.bounds 3 = .ok ⟨-7, 7⟩ ∧ (-7 : Int) ≤ -3 ∧ (-2 : Int) ≤ 7 := by
  intro divisor e
  have narrow : e.bounds 1 = .ok ⟨-3, -2⟩ := by decide +kernel
  have computed : e.bounds 3 = .ok ⟨-7, 7⟩ := by decide +kernel
  obtain ⟨wide, bounded, _, _, least, most⟩ :=
    bounds_widened e (by decide) 1 3 (by decide) (by decide) _ narrow
  rw [computed] at bounded
  cases bounded
  exact ⟨by decide +kernel, by decide +kernel, narrow, computed, least, most⟩

end Expr

end DiceFormula
