import DiceFormula.Proofs.Roller.Observation
import DiceFormula.Proofs.Transcript.Trimming

namespace DiceFormula.Roller

variable {roller : Roller}

theorem opening_trims (text : String) (options : Option TranscriptOptions) (tokens : List Token)
    (e : Expr) (roller : Roller) :
    (roller.opening text options tokens e).Trims (options.getD roller.options)
      (roller.opening text (some .everything) tokens e) := by
  have blank (kept : TranscriptOptions) :
      ({ subject := text, options := kept } : Recorder).Trims kept
        { subject := text, options := .everything } := by
    refine ⟨rfl, ?_⟩
    unfold Recorder.trim
    rw [ite_self, ite_self]
    rfl
  exact ((blank _).noteTokens _).noteParsing _ _

theorem account_trims {options : TranscriptOptions} {first second : Recorder}
    (trims : first.Trims options second) (text : String) (e : Expr) (given : Option Source)
    (elapsed time : Float) (roller : Roller) :
    ((roller.conclude text e elapsed (roller.rolling e given (some first))).map
        (account first elapsed)).map (fun told => (told.1.untimed, told.2.untimed)) =
      ((roller.conclude text e time (roller.rolling e given (some second))).map
        (account second time)).map
          (fun whole => (whole.1.untimed, (whole.2.trim options).untimed)) := by
  obtain ⟨same, alike⟩ := told_rolling Recorder.inStep_trims trims e given roller
  obtain ⟨one, two, kept, held, later⟩ := alike.account
  unfold conclude
  rw [same]
  cases (roller.rolling e given (some second)).1 with
  | error fault => rfl
  | ok value =>
    cases e.bounds roller.settings.explodeMultiplier with
    | error fault => rfl
    | ok bounds =>
      have transcripts := later.transcript value (some elapsed) (some time)
      refine congrArg Except.ok ?_
      unfold account Outcome.untimed
      dsimp only
      rw [kept, held, alike.rolls, alike.metrics]
      exact congrArg (Prod.mk _) transcripts

theorem last_account {recorder : Recorder} {elapsed : Float} {told : Outcome × Trace Source}
    {outcome : Outcome} {transcript : Transcript}
    (accounted : account recorder elapsed told = (outcome, transcript)) :
    transcript.result = outcome.value ∧
      ∃ step, transcript.steps.getLast? = some step ∧
        step.kind = .finalResult ∧ step.value = outcome.value := by
  cases accounted
  let later := told.2.recorder.getD recorder
  have last : (later.noteResult told.1.value).steps.toList.getLast? =
      some ⟨later.steps.size + 1, .finalResult, Wording.finalResult told.1.value, told.1.value,
        none, none, none⟩ := by
    unfold Recorder.noteResult Recorder.add
    dsimp only
    rw [Array.toList_push, List.getLast?_concat]
  exact ⟨rfl, _, last, rfl, rfl⟩

/-- Whatever is to be told of a roll, the roll is the same, and what is told is what is left of the
    account of everything. The result comes last. -/
theorem options_only_trim (roller : Roller) (reachable : roller.Reachable) (text : String)
    (options : Option TranscriptOptions) (given : Option Source) :
    let kept := options.getD roller.options
    let told := ((explainOutcome text options given).run roller).1
    let whole := ((explainOutcome text (some .everything) given).run roller).1
    told.map (fun told => (told.1.untimed, told.2.untimed)) =
        whole.map (fun whole => (whole.1.untimed, (whole.2.trim kept).untimed)) ∧
      ∀ outcome transcript, told = .ok (outcome, transcript) →
        transcript.result = outcome.value ∧
          ∃ step, transcript.steps.getLast? = some step ∧
            step.kind = .finalResult ∧ step.value = outcome.value := by
  obtain ⟨elapsed, less⟩ := explainOutcome_eq reachable.sound text options given
  obtain ⟨time, all⟩ := explainOutcome_eq reachable.sound text (some .everything) given
  dsimp only
  rw [less, all]
  constructor
  · cases scanText roller.settings.maxExpressionLength text with
    | error fault => rfl
    | ok tokens =>
      rw [ok_bind, ok_bind]
      cases parseTokens tokens with
      | error fault => rfl
      | ok e => exact account_trims (opening_trims text options tokens e roller) ..
  · intro outcome transcript done
    obtain ⟨_, _, done⟩ := ok_of_bind done
    obtain ⟨_, _, done⟩ := ok_of_bind done
    obtain ⟨_, _, accounted⟩ := ok_of_map done
    exact last_account accounted

theorem options_only_trim_to_five :
    let roller := create {} {} none (Source.twosThenOnes 1 0) ⟨fun _ => 0, 0⟩
    let options : TranscriptOptions :=
      { includeTokenization := false
        includeIntermediateSteps := false
        includeDiceDetails := false
        verbose := true }
    let told := ((explainOutcome "(1d2r2 - 4) * 3" (some options) none).run roller).1
    let whole := ((explainOutcome "(1d2r2 - 4) * 3" (some .everything) none).run roller).1
    roller.Reachable ∧
      told.map (fun told => (told.1.untimed, told.2.untimed)) =
        whole.map (fun whole => (whole.1.untimed, (whole.2.trim options).untimed)) ∧
      whole.map (fun whole => whole.2.steps.length) = .ok 13 ∧
      told.map (fun told => told.2.steps.map fun step => (step.number, step.kind, step.details)) =
        .ok [(1, .parsing, some "Abstract syntax tree contains 6 nodes"), (2, .reroll, none),
          (3, .operation, some "Subtraction of 3 and 4"),
          (4, .operation, some "Multiplication of -1 and 3"), (5, .finalResult, none)] := by
  intro roller options told whole
  have reachable : roller.Reachable := .create _ _ _ _ _
  obtain ⟨trimmed, _⟩ :=
    options_only_trim roller reachable "(1d2r2 - 4) * 3" (some options) none
  exact ⟨reachable, trimmed, by decide +kernel, by decide +kernel⟩

end DiceFormula.Roller
