import DiceFormula.Proofs.Random.Face
import DiceFormula.Proofs.Roll.Observation
import DiceFormula.Proofs.Roller.Outcome
import Mathlib.Control.Monad.Basic

namespace DiceFormula

variable {σ : Type} [Supply σ]

theorem evaluate_unwatched (limit : Int) (e : Expr) (trace : Trace σ) (recorder : Recorder) :
    (e.Overlong limit ({ supply := trace.supply } : Trace σ) →
      (e.evaluate limit { trace with recorder := some recorder }).1 = .error .resultTooLong) ∧
    (¬e.Overlong limit ({ supply := trace.supply } : Trace σ) →
      (e.evaluate limit { trace with recorder := some recorder }).1 =
          (e.evaluate limit { trace with recorder := none }).1 ∧
        Trace.Unwatched (e.evaluate limit { trace with recorder := some recorder }).2
          (e.evaluate limit { trace with recorder := none }).2) :=
  watchedBut_roll limit e _ _ ⟨rfl, ⟨⟨recorder, rfl⟩, rfl⟩, rfl, rfl⟩

def Outcome.untimed (outcome : Outcome) : Outcome := { outcome with elapsed := 0 }

namespace Roller

variable {roller : Roller}

theorem conclude_unwatched {e : Expr} {given : Option Source} {recorder : Recorder}
    (short : ¬e.Overlong roller.settings.maxRerolls
      ({ supply := roller.source given } : Trace Source)) (text : String) (elapsed other : Float) :
    (roller.conclude text e elapsed (roller.rolling e given (some recorder))).map
        (·.1.untimed) =
      (roller.conclude text e other (roller.rolling e given none)).map (·.1.untimed) := by
  obtain ⟨same, alike⟩ := (evaluate_unwatched roller.settings.maxRerolls e
    { supply := roller.source given } recorder).2 short
  unfold conclude rolling
  rw [same, alike.rolls, alike.metrics]
  cases (e.evaluate roller.settings.maxRerolls ({ supply := roller.source given } : Trace Source)).1
    with
  | error fault => rfl
  | ok value =>
    cases e.bounds roller.settings.explodeMultiplier with
    | error fault => rfl
    | ok bounds => rfl

/-- To keep an account of an evaluation changes nothing of it, unless a number comes up that is too
    long to be written. So an explained roll comes to the outcome of a detailed one, its time
    aside, or to the same fault. -/
theorem recording_changes_nothing :
    (∀ (σ : Type) [Supply σ] (limit : Int) (e : Expr) (trace : Trace σ) (recorder : Recorder),
      let watched := e.evaluate limit { trace with recorder := some recorder }
      let silent := e.evaluate limit { trace with recorder := none }
      let start : Trace σ := { supply := trace.supply }
      (¬e.Overlong limit start →
        watched.1 = silent.1 ∧ watched.2.rolls = silent.2.rolls ∧
          watched.2.metrics = silent.2.metrics ∧ watched.2.supply = silent.2.supply) ∧
      (e.Overlong limit start → watched.1 = .error .resultTooLong)) ∧
    (∀ roller : Roller, roller.Reachable → ∀ text options given,
      (∀ e, Expr.ofText roller.lengthLimit text = .ok e →
        ¬e.Overlong roller.settings.maxRerolls
          ({ supply := roller.source given } : Trace Source)) →
      ((explainOutcome text options given).run roller).1.map (·.1.untimed) =
        ((evaluateDetailed text given).run roller).1.map Outcome.untimed) := by
  refine ⟨fun σ _ limit e trace recorder => ?_, fun roller reachable text options given short => ?_⟩
  · obtain ⟨stops, alike⟩ := evaluate_unwatched limit e trace recorder
    refine ⟨fun short => ?_, stops⟩
    obtain ⟨same, left⟩ := alike short
    exact ⟨same, left.rolls, left.metrics, left.supply⟩
  · obtain ⟨elapsed, explained⟩ := explainOutcome_eq reachable.sound text options given
    obtain ⟨other, detailed⟩ := evaluateDetailed_eq reachable.sound text given
    rw [explained, detailed]
    cases scanned : scanText roller.settings.maxExpressionLength text with
    | error fault =>
      rw [Expr.ofText, scanned]
      rfl
    | ok tokens =>
      have read : Expr.ofText roller.settings.maxExpressionLength text = parseTokens tokens := by
        rw [Expr.ofText, scanned, ok_bind]
      rw [read, ok_bind]
      cases parsed : parseTokens tokens with
      | error fault => rfl
      | ok e =>
        simp only [ok_bind, map_map]
        exact conclude_unwatched (short e (read.trans parsed)) text elapsed other

theorem recording_changes_nothing_but_overlong :
    let roller := create {} {} none (Source.twosThenOnes 1 0) ⟨fun _ => 0, 0⟩
    let options : TranscriptOptions := { verbose := true }
    let huge : Expr := .atom (.number (Decimal.tenPow Text.longestNumeral))
    let product : Expr := .binary .multiply huge (.atom (.number 1))
    let trace : Trace Source := { supply := Source.ofSeed 0 }
    (roller.Reachable ∧
      ((explainOutcome "(1d2r2 - 4) * 3" (some options) none).run roller).1.map (·.1.untimed) =
        ((evaluateDetailed "(1d2r2 - 4) * 3" none).run roller).1.map Outcome.untimed ∧
      ((explainOutcome "(1d2r2 - 4) * 3" (some options) none).run roller).1.map
        (fun told => (told.1.value, told.1.rolls)) = .ok (-3, [2, 1])) ∧
    product.Overlong 0 trace ∧
      (product.evaluate 0 { trace with recorder := some ⟨"", {}, #[], [], "", none⟩ }).1 =
        .error .resultTooLong := by
  intro roller options huge product trace
  have reachable : roller.Reachable := .create _ _ _ _ _
  let e : Expr := .binary .multiply (.group (.binary .subtract
    (.atom (.reroll ⟨1, 2⟩ .exploding ⟨.equal, 2⟩)) (.atom (.number 4)))) (.atom (.number 3))
  have short : ¬e.Overlong roller.settings.maxRerolls
      ({ supply := roller.source none } : Trace Source) := by
    intro long
    have stopped := (recording_changes_nothing.1 Source roller.settings.maxRerolls e
      { supply := roller.source none } ⟨"", {}, #[], [], "", none⟩).2 long
    have done : (e.evaluate roller.settings.maxRerolls
        ({ supply := roller.source none, recorder := some ⟨"", {}, #[], [], "", none⟩ } :
          Trace Source)).1 = .ok (-3) := by decide +kernel
    rw [done] at stopped
    cases stopped
  have read : Expr.ofText roller.lengthLimit "(1d2r2 - 4) * 3" = .ok e := by decide +kernel
  have same := recording_changes_nothing.2 roller reachable "(1d2r2 - 4) * 3" (some options) none
    fun other again => by
      rw [read] at again
      cases again
      exact short
  have long : product.Overlong 0 trace := by
    refine .inr ⟨Decimal.tenPow Text.longestNumeral, (trace.countNodes 1).countNodes 1, ?_,
      .inr ⟨1, ((trace.countNodes 1).countNodes 1).countNodes 1, ?_,
        Decimal.tenPow Text.longestNumeral, ?_, ?_⟩⟩
    · rw [Expr.roll]; rfl
    · rw [Expr.roll]; rfl
    · rw [Operator.apply, Int.mul_one]
    · exact decide_eq_false (Nat.not_lt.mpr (Nat.le_of_eq (Int.natAbs_natCast _).symm))
  refine ⟨⟨reachable, same, by decide +kernel⟩, long, ?_⟩
  exact (recording_changes_nothing.1 Source 0 product trace ⟨"", {}, #[], [], "", none⟩).2 long

end Roller

end DiceFormula
