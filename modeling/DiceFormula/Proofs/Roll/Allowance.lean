import DiceFormula.Proofs.Random.Face
import DiceFormula.Proofs.Roll.Recursion
import DiceFormula.Proofs.Run
import Mathlib.Control.Monad.Basic

namespace DiceFormula

variable {σ : Type} {α β : Type}

def Rolling.Finishes (work : Rolling σ α) (trace : Trace σ) : Prop :=
  ∀ limit, (work.run trace).1 ≠ .error (.rerollsExhausted limit)

/-- Wherever the first work finishes, the second comes to the same end and leaves the same trace. -/
def Rolling.Outlasts (second first : Rolling σ α) : Prop :=
  ∀ trace, first.Finishes trace → second.run trace = first.run trace

namespace Rolling.Outlasts

theorem refl (work : Rolling σ α) : Outlasts work work := fun _ _ => rfl

theorem of_exhausted {first second : Rolling σ α} {limit : Int}
    (ends : ∀ trace, (first.run trace).1 = .error (.rerollsExhausted limit)) :
    Outlasts second first :=
  fun trace finishes => absurd (ends trace) (finishes limit)

theorem bind {first second : Rolling σ α} {next following : α → Rolling σ β}
    (starts : Outlasts second first) (goesOn : ∀ value, Outlasts (following value) (next value)) :
    Outlasts (second >>= following) (first >>= next) := by
  intro trace finishes
  rw [Finishes, run_bind] at finishes
  rw [run_bind, run_bind]
  cases started : first.run trace with
  | mk result left =>
    rw [started] at finishes
    have begun : first.Finishes trace := by
      intro limit exhausted
      rw [started] at exhausted
      dsimp only at exhausted
      subst exhausted
      exact finishes limit rfl
    rw [starts trace begun, started]
    cases result with
    | error fault => rfl
    | ok value => exact goesOn value left finishes

end Rolling.Outlasts

variable [Supply σ] {limit more : Int}

open Rolling (Outlasts)

theorem outlasts_reroll (sides : Int) (kind : RerollKind) (check : Check) (face worth : Int)
    (faces : Array Int) {allowance larger : Nat} (enough : allowance ≤ larger) :
    Outlasts (reroll more sides kind check face worth faces larger : Rolling σ Settled)
      (reroll limit sides kind check face worth faces allowance) := by
  induction allowance generalizing face worth faces larger with
  | zero =>
    rw [reroll.eq_def more, reroll.eq_def limit]
    refine .bind (.refl _) fun passes => ?_
    cases passes with
    | false => exact .refl _
    | true => exact .of_exhausted fun _ => rfl
  | succ allowance ih =>
    obtain ⟨larger, rfl⟩ := Nat.exists_eq_succ_of_ne_zero (Nat.ne_zero_of_lt enough)
    rw [reroll.eq_def more, reroll.eq_def limit]
    refine .bind (.refl _) fun passes => ?_
    cases passes with
    | false => exact .refl _
    | true =>
      refine Outlasts.bind (.refl _) fun next => Outlasts.bind (.refl _) fun _ => ?_
      dsimp only
      split
      · exact .refl _
      · exact ih next _ _ (Nat.le_of_succ_le_succ enough)

theorem outlasts_rollGroup (larger : limit ≤ more) (sides : Int) (kind : RerollKind)
    (check : Check) (group : SettledGroup) (count : Nat) :
    Outlasts (rollGroup more sides kind check group count : Rolling σ SettledGroup)
      (rollGroup limit sides kind check group count) := by
  induction count generalizing group with
  | zero => exact .refl _
  | succ count ih =>
    have first : Outlasts (rollSettled more sides kind check : Rolling σ Settled)
        (rollSettled limit sides kind check) :=
      .bind (.refl _) fun face =>
        outlasts_reroll sides kind check face face _ (Int.toNat_le_toNat larger)
    exact .bind first fun die => ih (group.add die)

theorem outlasts_atom (larger : limit ≤ more) (a : Atom) :
    Outlasts (a.roll more : Rolling σ Int) (a.roll limit) := by
  cases a with
  | reroll pool kind check =>
    exact .bind (outlasts_rollGroup larger pool.sides kind check {} _) fun _ => .refl _
  | _ => exact .refl _

theorem outlasts_roll (larger : limit ≤ more) (e : Expr) :
    Outlasts (e.roll more : Rolling σ Int) (e.roll limit) := by
  induction e with
  | atom a =>
    rw [Expr.roll, Expr.roll]
    exact .bind (.refl _) fun _ => .bind (outlasts_atom larger a) fun _ => .refl _
  | group inner ih =>
    rw [Expr.roll, Expr.roll]
    exact .bind (.refl _) fun _ => .bind ih fun _ => .refl _
  | binary operator left right leftIh rightIh =>
    rw [Expr.roll_binary, Expr.roll_binary]
    refine .bind (.refl _) fun _ => .bind leftIh fun leftValue => ?_
    exact .bind rightIh fun rightValue => .refl _

/-- Unless a die used up its rerolls, an evaluation under a higher limit is the same evaluation: it
    comes to the same value or fault, with the same rolls and counts, and leaves the same supply. -/
theorem evaluate_of_higher_limit (e : Expr) (trace : Trace σ) (higher : limit ≤ more)
    (finished : ∀ cap, (e.evaluate limit trace).1 ≠ .error (.rerollsExhausted cap)) :
    e.evaluate more trace = e.evaluate limit trace :=
  outlasts_roll higher e trace.restart finished

theorem evaluate_of_higher_limit_than_three :
    let dice : Expr := .atom (.reroll ⟨1, 2⟩ .exploding ⟨.equal, 2⟩)
    let divided : Expr := .binary .divide dice (.atom (.number 0))
    let trace : Trace Source := { supply := .twosThenOnes 3 0 }
    (dice.evaluate 2 trace).1 = .error (.rerollsExhausted 2) ∧
      (dice.evaluate 3 trace).1 = .ok 7 ∧
      dice.evaluate 100 trace = dice.evaluate 3 trace ∧
      (divided.evaluate 3 trace).1 = .error (.divisionByZero 7) ∧
      divided.evaluate 100 trace = divided.evaluate 3 trace := by
  intro dice divided trace
  have refused : (dice.evaluate 2 trace).1 = .error (.rerollsExhausted 2) := by decide +kernel
  have returned : (dice.evaluate 3 trace).1 = .ok 7 := by decide +kernel
  have failed : (divided.evaluate 3 trace).1 = .error (.divisionByZero 7) := by decide +kernel
  refine ⟨refused, returned, ?_, failed, ?_⟩
  · refine evaluate_of_higher_limit dice trace (by decide) fun cap => ?_
    rw [returned]
    exact nofun
  · refine evaluate_of_higher_limit divided trace (by decide) fun cap => ?_
    rw [failed]
    exact nofun

end DiceFormula
