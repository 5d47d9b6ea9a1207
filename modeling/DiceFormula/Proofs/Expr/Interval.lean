import DiceFormula.Expr.Bounds
import Mathlib.Algebra.Order.Ring.Int
import Mathlib.Order.Interval.Set.UnorderedInterval

namespace DiceFormula

theorem le_fdiv_iff {quotient dividend divisor : Int} (positive : 0 < divisor) :
    quotient ≤ dividend.fdiv divisor ↔ quotient * divisor ≤ dividend := by
  rw [Int.fdiv_eq_ediv_of_nonneg _ (Int.le_of_lt positive)]
  exact Int.le_ediv_iff_mul_le positive

theorem fdiv_le_fdiv {low high divisor : Int} (positive : 0 < divisor) (ordered : low ≤ high) :
    low.fdiv divisor ≤ high.fdiv divisor := by
  rw [le_fdiv_iff positive]
  exact Int.le_trans ((le_fdiv_iff positive).mp (Int.le_refl _)) ordered

theorem fdiv_antitone {dividend low high : Int} (positive : 0 < low) (ordered : low ≤ high)
    (dividendNonneg : 0 ≤ dividend) : dividend.fdiv high ≤ dividend.fdiv low := by
  have highPositive : 0 < high := Int.lt_of_lt_of_le positive ordered
  have quotientNonneg : 0 ≤ dividend.fdiv high :=
    Int.fdiv_nonneg dividendNonneg (Int.le_of_lt highPositive)
  rw [le_fdiv_iff positive]
  calc dividend.fdiv high * low ≤ dividend.fdiv high * high :=
        Int.mul_le_mul_of_nonneg_left ordered quotientNonneg
    _ ≤ dividend := (le_fdiv_iff highPositive).mp (Int.le_refl _)

theorem fdiv_monotone {dividend low high : Int} (positive : 0 < low) (ordered : low ≤ high)
    (dividendNegative : dividend < 0) : dividend.fdiv low ≤ dividend.fdiv high := by
  have quotientNegative : dividend.fdiv low < 0 :=
    Int.fdiv_neg_of_neg_of_pos dividendNegative positive
  rw [le_fdiv_iff (Int.lt_of_lt_of_le positive ordered)]
  calc dividend.fdiv low * high ≤ dividend.fdiv low * low :=
        Int.mul_le_mul_of_nonpos_left (Int.le_of_lt quotientNegative) ordered
    _ ≤ dividend := (le_fdiv_iff positive).mp (Int.le_refl _)

theorem fdiv_mem_uIcc_dividend {low value high divisor : Int} (nonzero : divisor ≠ 0)
    (above : low ≤ value) (below : value ≤ high) :
    value.fdiv divisor ∈ Set.uIcc (low.fdiv divisor) (high.fdiv divisor) := by
  rw [Set.mem_uIcc]
  rcases Int.lt_or_gt_of_ne nonzero with negative | positive
  · right
    have positive : 0 < -divisor := Int.neg_pos_of_neg negative
    simp only [← Int.neg_fdiv_neg _ divisor]
    exact ⟨fdiv_le_fdiv positive (Int.neg_le_neg below),
      fdiv_le_fdiv positive (Int.neg_le_neg above)⟩
  · left
    exact ⟨fdiv_le_fdiv positive above, fdiv_le_fdiv positive below⟩

theorem fdiv_mem_uIcc_divisor {dividend low divisor high : Int} (above : low ≤ divisor)
    (below : divisor ≤ high) (oneSide : 0 < low ∨ high < 0) :
    dividend.fdiv divisor ∈ Set.uIcc (dividend.fdiv low) (dividend.fdiv high) := by
  have positiveSide {dividend low divisor high : Int} (above : low ≤ divisor)
      (below : divisor ≤ high) (positive : 0 < low) :
      dividend.fdiv divisor ∈ Set.uIcc (dividend.fdiv low) (dividend.fdiv high) := by
    rw [Set.mem_uIcc]
    have middle : 0 < divisor := Int.lt_of_lt_of_le positive above
    rcases Int.lt_or_le dividend 0 with negative | nonneg
    · exact .inl ⟨fdiv_monotone positive above negative, fdiv_monotone middle below negative⟩
    · exact .inr ⟨fdiv_antitone middle below nonneg, fdiv_antitone positive above nonneg⟩
  rcases oneSide with positive | negative
  · exact positiveSide above below positive
  · rw [Set.uIcc_comm, ← Int.neg_fdiv_neg _ divisor, ← Int.neg_fdiv_neg _ low,
      ← Int.neg_fdiv_neg _ high]
    exact positiveSide (Int.neg_le_neg below) (Int.neg_le_neg above) (Int.neg_pos_of_neg negative)

theorem mul_mem_uIcc {low value high : Int} (factor : Int) (above : low ≤ value)
    (below : value ≤ high) :
    value * factor ∈ Set.uIcc (low * factor) (high * factor) := by
  rw [Set.mem_uIcc]
  rcases Int.le_total 0 factor with nonneg | nonpos
  · exact .inl ⟨Int.mul_le_mul_of_nonneg_right above nonneg,
      Int.mul_le_mul_of_nonneg_right below nonneg⟩
  · exact .inr ⟨Int.mul_le_mul_of_nonpos_right below nonpos,
      Int.mul_le_mul_of_nonpos_right above nonpos⟩

namespace Bounds

instance : Membership Int Bounds where
  mem bounds value := bounds.min ≤ value ∧ value ≤ bounds.max

theorem mem_around {first value : Int} {others : List Int} (member : value ∈ first :: others) :
    value ∈ around first others :=
  ⟨(List.min?_eq_some_iff.mp List.min?_cons').2 value member,
    (List.max?_eq_some_iff.mp List.max?_cons').2 value member⟩

theorem mem_around_of_uIcc {first value a b : Int} {others : List Int}
    (between : value ∈ Set.uIcc a b) (hasA : a ∈ around first others)
    (hasB : b ∈ around first others) : value ∈ around first others := by
  rcases Set.mem_uIcc.mp between with ⟨above, below⟩ | ⟨above, below⟩
  · exact ⟨Int.le_trans hasA.1 above, Int.le_trans below hasB.2⟩
  · exact ⟨Int.le_trans hasB.1 above, Int.le_trans below hasA.2⟩

/-- An operation that turns at no inner point of a box lies within the bounds around its value at
    the four corners. -/
theorem mem_around_of_corners (operation : Int → Int → Int) {low a high c b d first : Int}
    {others : List Int} (across : operation a b ∈ Set.uIcc (operation low b) (operation high b))
    (along : ∀ x, operation x b ∈ Set.uIcc (operation x c) (operation x d))
    (corners : ∀ x ∈ [low, high], ∀ y ∈ [c, d], operation x y ∈ first :: others) :
    operation a b ∈ around first others := by
  have edge (x : Int) (isEnd : x ∈ [low, high]) : operation x b ∈ around first others := by
    have atC := corners x isEnd c (by simp)
    have atD := corners x isEnd d (by simp)
    exact mem_around_of_uIcc (along x) (mem_around atC) (mem_around atD)
  exact mem_around_of_uIcc across (edge low (by simp)) (edge high (by simp))

theorem divisors_enclose {right : Bounds} {divisor : Int} (inside : divisor ∈ right)
    (nonzero : divisor ≠ 0) :
    ∃ low ∈ right.divisors, ∃ high ∈ right.divisors,
      low ≤ divisor ∧ divisor ≤ high ∧ (0 < low ∨ high < 0) := by
  obtain ⟨above, below⟩ := inside
  rcases Int.lt_or_gt_of_ne nonzero with negative | positive
  · have low : right.min ∈ right.divisors := by
      have nonzero : right.min ≠ 0 := by omega
      simp [divisors, nonzero]
    by_cases straddles : 0 ≤ right.max
    · have high : -1 ∈ right.divisors := by
        have reaches : right.min ≤ -1 := by omega
        simp [divisors, reaches, straddles]
      exact ⟨right.min, low, -1, high, above, by omega, .inr (by decide)⟩
    · have high : right.max ∈ right.divisors := by
        have nonzero : right.max ≠ 0 := by omega
        simp [divisors, nonzero]
      exact ⟨right.min, low, right.max, high, above, below, .inr (by omega)⟩
  · have high : right.max ∈ right.divisors := by
      have nonzero : right.max ≠ 0 := by omega
      simp [divisors, nonzero]
    by_cases straddles : right.min ≤ 0
    · have low : 1 ∈ right.divisors := by
        have reaches : 1 ≤ right.max := by omega
        simp [divisors, reaches, straddles]
      exact ⟨1, low, right.max, high, by omega, below, .inl (by decide)⟩
    · have low : right.min ∈ right.divisors := by
        have nonzero : right.min ≠ 0 := by omega
        simp [divisors, nonzero]
      exact ⟨right.min, low, right.max, high, above, below, .inl (by omega)⟩

theorem mul_mem_combine {left right : Bounds} {a b : Int} (inLeft : a ∈ left)
    (inRight : b ∈ right) : ∃ both, combine .multiply left right = .ok both ∧ a * b ∈ both := by
  refine ⟨_, rfl, ?_⟩
  apply mem_around_of_corners (· * ·) (mul_mem_uIcc b inLeft.1 inLeft.2)
    (c := right.min) (d := right.max)
  · intro x
    simpa only [Int.mul_comm x] using mul_mem_uIcc x inRight.1 inRight.2
  · intro x isEnd y isOther
    simp only [List.mem_cons, List.not_mem_nil, or_false] at isEnd isOther
    rcases isEnd with rfl | rfl <;> rcases isOther with rfl | rfl <;> simp

theorem fdiv_mem_combine {left right : Bounds} {a b : Int} (inLeft : a ∈ left)
    (inRight : b ∈ right) (nonzero : b ≠ 0) :
    ∃ both, combine .divide left right = .ok both ∧ a.fdiv b ∈ both := by
  obtain ⟨low, hasLow, high, hasHigh, above, below, oneSide⟩ := divisors_enclose inRight nonzero
  cases found : right.divisors with
  | nil =>
    rw [found] at hasLow
    cases hasLow
  | cons first others =>
    refine ⟨_, by simp only [combine, found]; rfl, ?_⟩
    apply mem_around_of_corners Int.fdiv
      (fdiv_mem_uIcc_dividend nonzero inLeft.1 inLeft.2)
      (fun x => fdiv_mem_uIcc_divisor above below oneSide)
    intro x isEnd y isOther
    have divides : y ∈ first :: others := by
      rw [← found]
      simp only [List.mem_cons, List.not_mem_nil, or_false] at isOther
      rcases isOther with rfl | rfl
      · exact hasLow
      · exact hasHigh
    simp only [List.mem_cons, List.not_mem_nil, or_false] at isEnd
    rw [← List.cons_append, ← List.map_cons]
    rcases isEnd with rfl | rfl
    · exact List.mem_append_left _ (List.mem_map_of_mem divides)
    · exact List.mem_append_right _ (List.mem_map_of_mem divides)

theorem apply_mem_combine {operator : Operator} {left right : Bounds} {a b value : Int}
    (inLeft : a ∈ left) (inRight : b ∈ right) (applied : operator.apply a b = .ok value) :
    ∃ both, combine operator left right = .ok both ∧ value ∈ both := by
  cases operator with
  | add =>
    cases applied
    exact ⟨_, rfl, Int.add_le_add inLeft.1 inRight.1, Int.add_le_add inLeft.2 inRight.2⟩
  | subtract =>
    cases applied
    exact ⟨_, rfl, Int.sub_le_sub inLeft.1 inRight.2, Int.sub_le_sub inLeft.2 inRight.1⟩
  | multiply =>
    cases applied
    exact mul_mem_combine inLeft inRight
  | divide =>
    simp only [Operator.apply] at applied
    split at applied
    · cases applied
    · rename_i nonzero
      cases applied
      exact fdiv_mem_combine inLeft inRight nonzero
  | other symbol => cases applied

end Bounds

end DiceFormula
