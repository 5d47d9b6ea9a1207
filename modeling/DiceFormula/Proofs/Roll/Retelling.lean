import DiceFormula.Proofs.Roll.Account
import DiceFormula.Proofs.Roll.Telling

namespace DiceFormula

/-- Two accounts of the same depth tell of the same dice, if not in the same words. -/
structure Recorder.Retells (one two : Recorder) : Prop where
  options : one.options = two.options
  terms : termsOf one.steps.toList = termsOf two.steps.toList

namespace Recorder.Retells

variable {one two : Recorder}

theorem add (retells : one.Retells two) (kind : StepKind) (description : String) (value : Int)
    (details : Option String) (rolls : Option (List Int)) (expr : Option Expr) :
    (one.add kind description value details rolls expr).Retells
      (two.add kind description value details rolls expr) := by
  refine ⟨retells.options, ?_⟩
  have same (first second : Nat) :
      termsOf [⟨first, kind, description, value, details, rolls, expr⟩] =
        termsOf [⟨second, kind, description, value, details, rolls, expr⟩] := by
    cases kind with
    | _ => rfl
  rw [(one.extends_add ..).steps, (two.extends_add ..).steps, termsOf_append, termsOf_append,
    retells.terms, same]

theorem whenDetailed (retells : one.Retells two) (details : String) :
    one.whenDetailed details = two.whenDetailed details := by
  unfold Recorder.whenDetailed
  rw [retells.options]

theorem whenVerbose (retells : one.Retells two) (details : String) :
    one.whenVerbose details = two.whenVerbose details := by
  unfold Recorder.whenVerbose
  rw [retells.options]

theorem noteGroup (retells : one.Retells two) (value : Int) :
    (one.noteGroup value).Retells (two.noteGroup value) := by
  unfold Recorder.noteGroup
  rw [retells.options]
  split
  · exact retells.add _ _ _ _ _ _
  · exact retells

theorem noteNode (retells : one.Retells two) (e : Expr) (result : Int) :
    Recorder.Noted Recorder.Retells (one.noteNode e result) (two.noteNode e result) := by
  unfold Recorder.noteNode
  rw [retells.options]
  split
  · cases e.activity with
    | error fault => exact .error fault
    | ok activity =>
      rw [ok_bind, ok_bind, retells.whenVerbose]
      exact .ok (retells.add _ _ _ _ _ _)
  · exact .ok retells

theorem noteOperation (retells : one.Retells two) (operator : Operator)
    (left right result : Int) :
    Recorder.Noted Recorder.Retells (one.noteOperation operator left right result)
      (two.noteOperation operator left right result) := by
  unfold Recorder.noteOperation
  rw [retells.whenVerbose]
  split
  · exact .ok (retells.add _ _ _ _ _ _)
  · exact .error _

end Recorder.Retells

theorem inStep_retells : Recorder.InStep Recorder.Retells where
  noteTerm _ _ _ _ _ _ _ _ _ retells := by
    rw [retells.whenDetailed]
    exact retells.add _ _ _ _ _ _
  noteGroup value _ _ retells := retells.noteGroup value
  noteNode e _ _ value _ _ retells := retells.noteNode e value
  noteOperation operator left right value _ _ retells :=
    retells.noteOperation operator left right value

end DiceFormula
