import DiceFormula.Proofs.Expr.Interval
import DiceFormula.Proofs.Expr.Parts
import DiceFormula.Proofs.Expr.Recursion
import DiceFormula.Proofs.Random.Face
import DiceFormula.Proofs.Roll.Fair
import DiceFormula.Proofs.Roll.Recursion
import Mathlib.Algebra.Order.BigOperators.Group.List

namespace DiceFormula

variable {σ : Type} [Supply σ] {start : σ}

theorem sumOf_eq_sum (values : List Int) : sumOf values = values.sum := by
  rw [sumOf, List.sum_eq_foldl]

theorem sumOf_bounds {values : List Int} {low high : Int} (count : Nat)
    (length : values.length = count) (inside : ∀ value ∈ values, low ≤ value ∧ value ≤ high) :
    count * low ≤ sumOf values ∧ sumOf values ≤ count * high := by
  have below := List.card_nsmul_le_sum values low fun value member => (inside value member).1
  have above := List.sum_le_card_nsmul values high fun value member => (inside value member).2
  rw [length, nsmul_eq_mul] at below above
  rw [sumOf_eq_sum]
  exact ⟨below, above⟩

theorem gives_rollDice {sides : Int} (fair : Supply.Fair start sides) (rolled : Array Int)
    (count : Nat) :
    Rolling.Gives start
      (fun all => all.size = rolled.size + count ∧
        ∀ face ∈ all, face ∈ rolled ∨ 1 ≤ face ∧ face ≤ sides)
      (rollDice sides rolled count) := by
  induction count generalizing rolled with
  | zero => exact .pure ⟨rfl, fun face member => .inl member⟩
  | succ count ih =>
    refine .bind (gives_die fair) fun face shown => (ih (rolled.push face)).mono ?_
    intro all ⟨size, origin⟩
    refine ⟨by rw [size, Array.size_push]; omega, fun other member => ?_⟩
    rcases origin other member with before | new
    · rcases Array.mem_push.mp before with before | rfl
      · exact .inl before
      · exact .inr shown
    · exact .inr new

theorem countPassing_le {check : Check} {passed total : Nat} {faces : List Int}
    (counted : countPassing check passed faces = .ok total) :
    passed ≤ total ∧ total ≤ passed + faces.length := by
  induction faces generalizing passed with
  | nil =>
    cases counted
    exact ⟨Nat.le_refl _, Nat.le_refl _⟩
  | cons face rest ih =>
    simp only [countPassing] at counted
    cases held : check.holds face with
    | error fault =>
      rw [held] at counted
      cases counted
    | ok passes =>
      rw [held] at counted
      have later := ih counted
      rw [List.length_cons]
      cases passes <;> simp at later <;> omega

theorem gives_reroll {limit sides most : Int} {kind : RerollKind} {check : Check}
    (fair : Supply.Fair start sides) (room : sides ≤ most) (allowance : Nat) (face worth : Int)
    (faces : Array Int) (positive : 1 ≤ worth) (bound : worth ≤ most)
    (reserve : kind = .exploding → worth + sides * allowance ≤ most) :
    Rolling.Gives start (fun die => 1 ≤ die.worth ∧ die.worth ≤ most)
      (reroll limit sides kind check face worth faces allowance) := by
  induction allowance generalizing face worth faces with
  | zero =>
    rw [reroll]
    apply Keeps.bind (.ofExcept fun _ _ => trivial)
    intro passes _
    cases passes with
    | false => exact .pure ⟨positive, bound⟩
    | true => exact .throw _
  | succ allowance ih =>
    rw [reroll]
    apply Keeps.bind (.ofExcept fun _ _ => trivial)
    intro passes _
    cases passes with
    | false => exact .pure ⟨positive, bound⟩
    | true =>
      apply Keeps.bind (gives_die fair)
      intro next shown
      refine Keeps.bind (gives_modify fun _ => rfl) ?_
      intro _ _
      -- Each face of an exploding die adds to its worth, and takes from what is held in reserve.
      by_cases exploding : kind = .exploding
      · have spent := reserve exploding
        rw [Nat.cast_succ, mul_add, mul_one] at spent
        have reserved : 0 ≤ sides * allowance :=
          mul_nonneg (by omega) (Int.natCast_nonneg allowance)
        subst exploding
        exact ih next (worth + next) _ (by omega) (by omega) fun _ => by omega
      · rw [if_neg exploding]
        split
        · exact .pure ⟨shown.1, Int.le_trans shown.2 room⟩
        · exact ih next next _ shown.1 (by omega) fun same => absurd same exploding

theorem gives_rollGroup {limit sides most : Int} {kind : RerollKind} {check : Check}
    (fair : Supply.Fair start sides) (room : sides ≤ most)
    (reserve : kind = .exploding → sides * (limit.toNat + 1) ≤ most) (group : SettledGroup)
    (count : Nat) (settled : ∀ worth ∈ group.worths, 1 ≤ worth ∧ worth ≤ most) :
    Rolling.Gives start
      (fun all => all.worths.size = group.worths.size + count ∧
        ∀ worth ∈ all.worths, 1 ≤ worth ∧ worth ≤ most)
      (rollGroup limit sides kind check group count) := by
  induction count generalizing group with
  | zero => exact .pure ⟨rfl, settled⟩
  | succ count ih =>
    have first : Rolling.Gives start (fun die => 1 ≤ die.worth ∧ die.worth ≤ most)
        (rollSettled limit sides kind check) := by
      apply Keeps.bind (gives_die fair)
      intro face shown
      refine gives_reroll fair room _ face face _ shown.1 (by omega) fun exploding => ?_
      have enough := reserve exploding
      rw [mul_add, mul_one] at enough
      omega
    refine .bind first fun die bounded => (ih (group.add die) ?_).mono ?_
    · intro worth member
      rcases Array.mem_push.mp member with before | rfl
      · exact settled worth before
      · exact bounded
    · intro all ⟨size, inside⟩
      exact ⟨by rw [size, SettledGroup.add, Array.size_push]; omega, inside⟩

theorem gives_rerolls {limit most : Int} {pool : Pool} {kind : RerollKind} {check : Check}
    (real : 1 ≤ pool.count) (fair : Supply.Fair start pool.sides) (room : pool.sides ≤ most)
    (reserve : kind = .exploding → pool.sides * (limit.toNat + 1) ≤ most) :
    Rolling.Gives start (fun total => pool.count ≤ total ∧ total ≤ pool.count * most)
      ((Atom.reroll pool kind check).roll limit) := by
  apply Keeps.bind (gives_rollGroup fair room reserve {} _ (by simp))
  intro all ⟨size, inside⟩
  refine .bind (gives_modify fun _ => rfl) fun _ _ => .pure ?_
  have length : all.worths.toList.length = pool.count.toNat := by
    rw [Array.length_toList, size]
    exact Nat.zero_add _
  have total := sumOf_bounds pool.count.toNat length fun worth member =>
    inside worth (Array.mem_toList_iff.mp member)
  have count := Int.toNat_of_nonneg (Int.le_trans (by decide) real)
  rw [count, mul_one] at total
  exact total

/-- The ceiling that the bounds put on rerolled dice is out of reach, unless a die may explode more
    often than the multiplier has it. -/
theorem gives_atom {limit multiplier : Int} {a : Atom}
    (real : ∀ pool, a.pool? = some pool → 1 ≤ pool.count ∧ 1 ≤ pool.sides)
    (fair : ∀ pool, a.pool? = some pool → Supply.Fair start pool.sides)
    (positive : 1 ≤ multiplier) (ceiling : a.explodes = true → limit + 1 ≤ multiplier) :
    Rolling.Gives start (· ∈ a.bounds multiplier) (a.roll limit) := by
  cases a with
  | number value => exact .pure ⟨Int.le_refl _, Int.le_refl _⟩
  | dice pool =>
    apply Keeps.bind (gives_rollDice (fair pool rfl) #[] _)
    intro all ⟨size, origin⟩
    refine .bind (gives_modify fun _ => rfl) fun _ _ => .pure ?_
    have length : all.toList.length = pool.count.toNat := by
      rw [Array.length_toList, size]
      exact Nat.zero_add _
    have inside : ∀ face ∈ all.toList, 1 ≤ face ∧ face ≤ pool.sides := fun face member => by
      simpa using origin face (Array.mem_toList_iff.mp member)
    have total := sumOf_bounds pool.count.toNat length inside
    have count := Int.toNat_of_nonneg (Int.le_trans (by decide) (real pool rfl).1)
    rw [count, mul_one] at total
    exact total
  | conditional pool check =>
    apply Keeps.bind (gives_rollDice (fair pool rfl) #[] _)
    intro all ⟨size, _⟩
    refine .bind (.ofExcept fun total counted => countPassing_le counted) fun total counted => ?_
    refine .bind (gives_modify fun _ => rfl) fun _ _ => .pure ⟨Int.natCast_nonneg total, ?_⟩
    have count := Int.toNat_of_nonneg (Int.le_trans (by decide) (real pool rfl).1)
    rw [Array.length_toList, size, Array.size_empty] at counted
    show (total : Int) ≤ pool.count
    omega
  | reroll pool kind check =>
    have sides := (real pool rfl).2
    have stretched : pool.sides ≤ pool.sides * multiplier :=
      le_mul_of_one_le_right (by omega) positive
    cases kind with
    | once =>
      exact gives_rerolls (real pool rfl).1 (fair pool rfl) (Int.le_refl _) (by simp)
    | recursive =>
      simp only [Atom.bounds, mul_assoc]
      exact gives_rerolls (real pool rfl).1 (fair pool rfl) stretched (by simp)
    | exploding =>
      have often : (limit.toNat : Int) + 1 ≤ multiplier := by
        have capped := ceiling rfl
        omega
      simp only [Atom.bounds, mul_assoc]
      exact gives_rerolls (real pool rfl).1 (fair pool rfl) stretched
        fun _ => mul_le_mul_of_nonneg_left often (by omega)

theorem gives_roll {limit multiplier : Int} {e : Expr}
    (real : ∀ pool ∈ e.pools, 1 ≤ pool.count ∧ 1 ≤ pool.sides)
    (fair : ∀ pool ∈ e.pools, Supply.Fair start pool.sides) (positive : 1 ≤ multiplier)
    (ceiling : ∀ a ∈ e.atoms, a.explodes = true → limit + 1 ≤ multiplier) :
    Rolling.Gives start (fun value => ∃ bounds, e.bounds multiplier = .ok bounds ∧ value ∈ bounds)
      (e.roll limit) := by
  induction e with
  | atom a =>
    rw [Expr.roll]
    refine Keeps.bind (gives_modify fun _ => rfl) ?_
    intro _ _
    refine .bind (gives_atom (fun pool has => real pool (Expr.mem_pools_atom has))
      (fun pool has => fair pool (Expr.mem_pools_atom has)) positive
      (ceiling a (List.mem_singleton_self a))) fun value inside => ?_
    refine .bind (gives_tryNote _) fun _ _ => .pure ⟨a.bounds multiplier, ?_, inside⟩
    rw [Expr.bounds]
  | group inner ih =>
    rw [Expr.roll, Expr.bounds]
    refine Keeps.bind (gives_modify fun _ => rfl) ?_
    intro _ _
    apply Keeps.bind (ih real fair ceiling)
    intro value inside
    refine Keeps.bind (gives_modify fun _ => rfl) ?_
    intro _ _
    exact .bind (gives_tryNote _) fun _ _ => .pure inside
  | binary operator left right leftIh rightIh =>
    rw [Expr.pools_binary, List.forall_mem_append] at real fair
    rw [Expr.atoms, List.forall_mem_append] at ceiling
    rw [Expr.roll_binary, Expr.bounds_binary]
    refine Keeps.bind (gives_modify fun _ => rfl) ?_
    intro _ _
    refine .bind (leftIh real.1 fair.1 ceiling.1) ?_
    rintro leftValue ⟨leftBounds, leftRange, leftInside⟩
    refine .bind (rightIh real.2 fair.2 ceiling.2) ?_
    rintro rightValue ⟨rightBounds, rightRange, rightInside⟩
    refine .bind (.ofExcept fun value applied =>
      Bounds.apply_mem_combine leftInside rightInside applied) ?_
    rintro value ⟨both, combined, inside⟩
    refine .bind (gives_tryNote _) fun _ _ => .bind (gives_tryNote _) fun _ _ => .pure ?_
    refine ⟨both, ?_, inside⟩
    rw [leftRange, rightRange]
    exact combined

theorem evaluate_mem_bounds {e : Expr} {limit multiplier value : Int} {trace : Trace σ}
    (real : ∀ pool ∈ e.pools, 1 ≤ pool.count ∧ 1 ≤ pool.sides)
    (fair : ∀ pool ∈ e.pools, Supply.Fair trace.supply pool.sides) (positive : 1 ≤ multiplier)
    (ceiling : (∀ a ∈ e.atoms, a.explodes = false) ∨ limit + 1 ≤ multiplier)
    (done : (e.evaluate limit trace).1 = .ok value) :
    ∃ bounds, e.bounds multiplier = .ok bounds ∧ value ∈ bounds := by
  have reserve : ∀ a ∈ e.atoms, a.explodes = true → limit + 1 ≤ multiplier := by
    intro a member explodes
    rcases ceiling with quiet | capped
    · simp [quiet a member] at explodes
    · exact capped
  exact (gives_roll real fair positive reserve trace.restart .refl).2 value done

/-- Every value that a formula may roll lies within its bounds, which exist if any roll succeeds.
    Of dice that explode more often than the multiplier allows for, nothing is said. -/
theorem evaluate_within_bounds (e : Expr) (limit multiplier : Int) (trace : Trace σ)
    (real : ∀ pool ∈ e.pools, 1 ≤ pool.count ∧ 1 ≤ pool.sides)
    (fair : ∀ pool ∈ e.pools, Supply.Fair trace.supply pool.sides) (positive : 1 ≤ multiplier)
    (ceiling : (∀ a ∈ e.atoms, a.explodes = false) ∨ limit + 1 ≤ multiplier) :
    (∀ value, (e.evaluate limit trace).1 = .ok value →
      ∃ bounds, e.bounds multiplier = .ok bounds ∧ bounds.min ≤ value ∧ value ≤ bounds.max) ∧
    (∀ fault, e.bounds multiplier = .error fault →
      ∃ failure, (e.evaluate limit trace).1 = .error failure) := by
  refine ⟨fun value done => evaluate_mem_bounds real fair positive ceiling done, ?_⟩
  intro fault unbounded
  cases done : (e.evaluate limit trace).1 with
  | error failure => exact ⟨failure, rfl⟩
  | ok value =>
    obtain ⟨bounds, bounded, _⟩ := evaluate_mem_bounds real fair positive ceiling done
    rw [unbounded] at bounded
    cases bounded

theorem evaluate_within_bounds_across_zero :
    let e : Expr := .binary .divide (.atom (.reroll ⟨1, 2⟩ .exploding ⟨.equal, 2⟩))
      (.binary .subtract (.atom (.dice ⟨1, 3⟩)) (.atom (.number 2)))
    let trace : Trace Source := { supply := .twosThenOnes 1 0 }
    (e.evaluate 5 trace).1 = .ok (-3) ∧
      ∃ bounds, e.bounds 6 = .ok bounds ∧ bounds.min ≤ -3 ∧ -3 ≤ bounds.max := by
  intro e trace
  have done : (e.evaluate 5 trace).1 = .ok (-3) := by decide +kernel
  have real : ∀ pool ∈ e.pools, 1 ≤ pool.count ∧ 1 ≤ pool.sides := by decide
  have fair : ∀ pool ∈ e.pools, Supply.Fair trace.supply pool.sides := by
    intro pool member
    have most : ∀ pool ∈ e.pools, pool.sides ≤ Decimal.significandLimit := by decide
    exact Source.fair _ (real pool member).2 (most pool member)
  have within := evaluate_within_bounds e 5 6 trace real fair (by decide) (.inr (by decide))
  exact ⟨done, within.1 (-3) done⟩

end DiceFormula
