import DiceFormula.Proofs.Expr.Interval
import Mathlib.Order.Bounds.Defs

namespace DiceFormula.Bounds

variable {operator : Operator} {left right both : Bounds} {value : Int}

/-- The values of the operation, with operands from within the bounds. -/
def results (operator : Operator) (left right : Bounds) : Set Int :=
  {value | ∃ a ∈ left, ∃ b ∈ right, operator.apply a b = .ok value}

def IsEnd (bounds : Bounds) (value : Int) : Prop := value = bounds.min ∨ value = bounds.max

theorem IsEnd.mem {bounds : Bounds} (isEnd : bounds.IsEnd value)
    (ordered : bounds.min ≤ bounds.max) : value ∈ bounds := by
  rcases isEnd with rfl | rfl
  · exact ⟨Int.le_refl _, ordered⟩
  · exact ⟨ordered, Int.le_refl _⟩

theorem IsEnd.mem_of_around {first : Int} {others : List Int}
    (isEnd : (around first others).IsEnd value) : value ∈ first :: others := by
  rcases isEnd with rfl | rfl
  · exact List.min?_mem List.min?_cons'
  · exact List.max?_mem List.max?_cons'

theorem IsEnd.of_combine (undivided : operator ∈ [.add, .subtract, .multiply])
    (combined : combine operator left right = .ok both) (isEnd : both.IsEnd value) :
    ∃ a b, left.IsEnd a ∧ right.IsEnd b ∧ operator.apply a b = .ok value := by
  have least {bounds : Bounds} : bounds.IsEnd bounds.min := .inl rfl
  have most {bounds : Bounds} : bounds.IsEnd bounds.max := .inr rfl
  simp only [List.mem_cons, List.not_mem_nil, or_false] at undivided
  rcases undivided with rfl | rfl | rfl
  · cases combined
    rcases isEnd with rfl | rfl
    · exact ⟨_, _, least, least, rfl⟩
    · exact ⟨_, _, most, most, rfl⟩
  · cases combined
    rcases isEnd with rfl | rfl
    · exact ⟨_, _, least, most, rfl⟩
    · exact ⟨_, _, most, least, rfl⟩
  · cases combined
    have corner := isEnd.mem_of_around
    simp only [List.mem_cons, List.not_mem_nil, or_false] at corner
    rcases corner with rfl | rfl | rfl | rfl
    · exact ⟨_, _, least, least, rfl⟩
    · exact ⟨_, _, least, most, rfl⟩
    · exact ⟨_, _, most, least, rfl⟩
    · exact ⟨_, _, most, most, rfl⟩

/-- A quotient is extreme where its dividend is, at one of the divisors that are tried. -/
theorem IsEnd.of_combine_divide (combined : combine .divide left right = .ok both)
    (isEnd : both.IsEnd value) :
    ∃ a b, left.IsEnd a ∧ b ∈ right.divisors ∧ a.fdiv b = value := by
  cases found : right.divisors with
  | nil =>
    simp only [combine, found] at combined
    cases combined
  | cons first others =>
    simp only [combine, found] at combined
    cases combined
    have corner := isEnd.mem_of_around
    rw [← List.cons_append, ← List.map_cons, List.mem_append, List.mem_map, List.mem_map] at corner
    rcases corner with ⟨b, tried, rfl⟩ | ⟨b, tried, rfl⟩
    · exact ⟨_, b, .inl rfl, tried, rfl⟩
    · exact ⟨_, b, .inr rfl, tried, rfl⟩

theorem mem_of_divisors (ordered : right.min ≤ right.max) (tried : value ∈ right.divisors) :
    value ∈ right ∧ value ≠ 0 := by
  simp only [divisors, List.mem_append, List.mem_filter, List.mem_cons, List.not_mem_nil, or_false,
    decide_eq_true_eq] at tried
  rcases tried with (⟨isEnd, nonzero⟩ | negative) | positive
  · exact ⟨IsEnd.mem isEnd ordered, nonzero⟩
  · split at negative
    · rename_i straddles
      obtain rfl := List.mem_singleton.mp negative
      exact ⟨⟨straddles.1, by omega⟩, by decide⟩
    · cases negative
  · split at positive
    · rename_i straddles
      obtain rfl := List.mem_singleton.mp positive
      exact ⟨⟨by omega, straddles.2⟩, by decide⟩
    · cases positive

theorem divisors_eq_nil_iff : right.divisors = [] ↔ right = ⟨0, 0⟩ := by
  constructor
  · intro none
    simp only [divisors, List.append_eq_nil_iff, List.filter_eq_nil_iff] at none
    have ends := none.1.1
    simp only [List.mem_cons, List.not_mem_nil, or_false, decide_eq_true_eq, not_not] at ends
    have least := ends right.min (.inl rfl)
    have most := ends right.max (.inr rfl)
    cases right
    dsimp only at least most
    rw [least, most]
  · rintro rfl
    rfl

theorem combine_eq_error_iff (known : operator.isAdditive = true ∨ operator.isMultiplicative = true)
    (fault : RollFault) :
    combine operator left right = .error fault ↔
      operator = .divide ∧ right = ⟨0, 0⟩ ∧ fault = .divisorAlwaysZero := by
  cases operator with
  | add => simp [combine]
  | subtract => simp [combine]
  | multiply => simp [combine]
  | divide =>
    rw [← divisors_eq_nil_iff]
    cases found : right.divisors with
    | nil => simp [combine, found, eq_comm]
    | cons first others => simp [combine, found]
  | other symbol => simp [Operator.isAdditive, Operator.isMultiplicative] at known

theorem IsEnd.mem_results (known : operator.isAdditive = true ∨ operator.isMultiplicative = true)
    (leftOrdered : left.min ≤ left.max) (rightOrdered : right.min ≤ right.max)
    (combined : combine operator left right = .ok both) (isEnd : both.IsEnd value) :
    value ∈ results operator left right := by
  cases operator with
  | divide =>
    obtain ⟨a, b, aIsEnd, tried, rfl⟩ := isEnd.of_combine_divide combined
    obtain ⟨inside, nonzero⟩ := mem_of_divisors rightOrdered tried
    exact ⟨a, aIsEnd.mem leftOrdered, b, inside, if_neg nonzero⟩
  | other symbol => simp [Operator.isAdditive, Operator.isMultiplicative] at known
  | _ =>
    obtain ⟨a, b, aIsEnd, bIsEnd, applied⟩ := isEnd.of_combine (by decide) combined
    exact ⟨a, aIsEnd.mem leftOrdered, b, bIsEnd.mem rightOrdered, applied⟩

theorem results_subset (combined : combine operator left right = .ok both) :
    ∀ value ∈ results operator left right, value ∈ both := by
  rintro value ⟨a, inLeft, b, inRight, applied⟩
  obtain ⟨bounds, again, member⟩ := apply_mem_combine inLeft inRight applied
  rw [combined] at again
  cases again
  exact member

/-- There are bounds, unless something is divided by what is always zero; and they are the narrowest
    that hold every value of the operation. -/
theorem combine_narrowest (operator : Operator) (left right : Bounds)
    (known : operator.isAdditive = true ∨ operator.isMultiplicative = true)
    (leftOrdered : left.min ≤ left.max) (rightOrdered : right.min ≤ right.max) :
    (∀ fault, combine operator left right = .error fault ↔
      operator = .divide ∧ right = ⟨0, 0⟩ ∧ fault = .divisorAlwaysZero) ∧
    (¬(operator = .divide ∧ right = ⟨0, 0⟩) →
      ∃ both, combine operator left right = .ok both ∧
        IsLeast (results operator left right) both.min ∧
        IsGreatest (results operator left right) both.max ∧
        ∀ other : Bounds, (∀ value ∈ results operator left right, value ∈ other) →
          ∀ value ∈ both, value ∈ other) := by
  refine ⟨combine_eq_error_iff known, fun divides => ?_⟩
  cases combined : combine operator left right with
  | error fault =>
    obtain ⟨divide, zero, _⟩ := (combine_eq_error_iff known fault).mp combined
    exact absurd ⟨divide, zero⟩ divides
  | ok both =>
    have inside := results_subset combined
    have least : both.min ∈ results operator left right :=
      IsEnd.mem_results known leftOrdered rightOrdered combined (.inl rfl)
    have most : both.max ∈ results operator left right :=
      IsEnd.mem_results known leftOrdered rightOrdered combined (.inr rfl)
    refine ⟨both, rfl, ⟨least, fun value member => (inside value member).1⟩,
      ⟨most, fun value member => (inside value member).2⟩, ?_⟩
    intro other holds value member
    exact ⟨Int.le_trans (holds _ least).1 member.1, Int.le_trans member.2 (holds _ most).2⟩

theorem combine_narrowest_across_zero :
    let left : Bounds := ⟨-7, 5⟩
    let right : Bounds := ⟨-2, 3⟩
    combine .divide left right = .ok ⟨-7, 7⟩ ∧
      IsLeast (results .divide left right) (-7) ∧ IsGreatest (results .divide left right) 7 := by
  intro left right
  have narrowest := combine_narrowest .divide left right (.inr rfl) (by decide) (by decide)
  obtain ⟨both, combined, least, greatest, _⟩ := narrowest.2 (by decide)
  have same : both = ⟨-7, 7⟩ := by
    have computed : combine .divide left right = .ok ⟨-7, 7⟩ := by decide
    rw [combined] at computed
    exact Except.ok.inj computed
  subst same
  exact ⟨combined, least, greatest⟩

end DiceFormula.Bounds
