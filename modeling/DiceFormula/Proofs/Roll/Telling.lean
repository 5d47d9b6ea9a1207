import DiceFormula.Proofs.Roll.Simulation

namespace DiceFormula

variable {σ : Type} {related : Recorder → Recorder → Prop}

namespace Recorder

theorem options_noteTokens (recorder : Recorder) (texts : List String) :
    (recorder.noteTokens texts).options = recorder.options := by
  unfold noteTokens
  split
  · rfl
  · rfl

theorem options_noteParsing (recorder : Recorder) (description : String) (count : Int) :
    (recorder.noteParsing description count).options = recorder.options := by
  unfold noteParsing
  split
  · rfl
  · rfl

theorem options_noteGroup (recorder : Recorder) (value : Int) :
    (recorder.noteGroup value).options = recorder.options := by
  unfold noteGroup
  split
  · rfl
  · rfl

/-- What is noted in either account is noted in the other, or cannot be noted in both. -/
inductive Noted (related : Recorder → Recorder → Prop) :
    Except RollFault Recorder → Except RollFault Recorder → Prop
  | ok {one two : Recorder} (together : related one two) : Noted related (.ok one) (.ok two)
  | error (fault : RollFault) : Noted related (.error fault) (.error fault)

structure InStep (related : Recorder → Recorder → Prop) : Prop where
  noteTerm : ∀ kind : StepKind, kind.isTerm = true → ∀ description value details rolls a one two,
    related one two →
      related
        (one.add kind description value (one.whenDetailed details) (some rolls) (some (.atom a)))
        (two.add kind description value (two.whenDetailed details) (some rolls) (some (.atom a)))
  noteGroup : ∀ value one two, related one two → related (one.noteGroup value) (two.noteGroup value)
  noteNode : ∀ e activity, e.activity = .ok activity → ∀ value one two, related one two →
    Noted related (one.noteNode e value) (two.noteNode e value)
  noteOperation : ∀ operator left right value one two, related one two →
    Noted related (one.noteOperation operator left right value)
      (two.noteOperation operator left right value)

end Recorder

abbrev Trace.Told (related : Recorder → Recorder → Prop) : Trace σ → Trace σ → Prop :=
  Trace.Alike Eq fun first second =>
    ∃ one two, first = some one ∧ second = some two ∧ related one two

theorem told_note {record : Recorder → Recorder}
    (noted : ∀ one two, related one two → related (record one) (record two)) :
    Lockstep (Trace.Told related) (Rolling.note record : Rolling σ Unit) (Rolling.note record) := by
  refine .modify fun first second alike => ⟨alike.supply, ?_, alike.rolls, alike.metrics⟩
  obtain ⟨one, two, kept, held, together⟩ := alike.account
  refine ⟨record one, record two, ?_, ?_, noted one two together⟩
  · rw [Trace.note, kept]
    rfl
  · rw [Trace.note, held]
    rfl

theorem told_tryNote {record : Recorder → Except RollFault Recorder}
    (noted : ∀ one two, related one two → Recorder.Noted related (record one) (record two)) :
    Lockstep (Trace.Told related) (Rolling.tryNote record : Rolling σ Unit)
      (Rolling.tryNote record) := by
  intro first second alike
  obtain ⟨one, two, kept, held, together⟩ := alike.account
  rw [run_tryNote_some kept, run_tryNote_some held]
  have both := noted one two together
  generalize record one = left at both
  generalize record two = right at both
  cases both with
  | error fault => exact ⟨rfl, alike⟩
  | ok later => exact ⟨rfl, alike.supply, ⟨_, _, rfl, rfl, later⟩, alike.rolls, alike.metrics⟩

variable [Supply σ]

theorem followed_told (inStep : Recorder.InStep related) :
    Trace.Followed (fun _ => True) (Trace.Told related : Trace σ → Trace σ → Prop) where
  die _ known := fun _ _ alike => alike.rollDie agree_self known
  countReroll _ _ alike := alike.countReroll
  noteTerm kind term _ _ _ _ _ := told_note fun _ _ => inStep.noteTerm kind term _ _ _ _ _ _ _
  countNodes _ _ alike := alike.countNodes 1
  noteGroup value := told_note (inStep.noteGroup value)
  noteNode e activity known value := told_tryNote (inStep.noteNode e activity known value)
  noteOperation operator left right value :=
    told_tryNote (inStep.noteOperation operator left right value)

theorem told_evaluate (inStep : Recorder.InStep related) (limit : Int) (e : Expr)
    {one two : Trace σ} (supply : one.supply = two.supply) {first second : Recorder}
    (kept : one.recorder = some first) (held : two.recorder = some second)
    (together : related first second) :
    (e.evaluate limit one).1 = (e.evaluate limit two).1 ∧
      (e.evaluate limit one).2.Told related (e.evaluate limit two).2 :=
  (followed_told inStep).roll limit e (fun _ _ => trivial) one.restart two.restart
    ⟨supply, ⟨first, second, kept, held, together⟩, rfl, rfl⟩

end DiceFormula
