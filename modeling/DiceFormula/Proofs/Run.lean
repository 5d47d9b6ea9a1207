namespace DiceFormula

variable {ε δ s α β γ : Type}

theorem ok_of_bind {first : Except ε α} {next : α → Except ε β} {result : β}
    (done : (first >>= next) = .ok result) :
    ∃ value, first = .ok value ∧ next value = .ok result := by
  cases first with
  | error fault => cases done
  | ok value => exact ⟨value, rfl, done⟩

theorem error_of_bind {first : Except ε α} {next : α → Except ε β} {fault : ε}
    (failed : (first >>= next) = .error fault) :
    first = .error fault ∨ ∃ value, first = .ok value ∧ next value = .error fault := by
  cases first with
  | error other =>
    cases failed
    exact .inl rfl
  | ok value => exact .inr ⟨value, rfl, failed⟩

theorem ok_bind (value : α) (next : α → Except ε β) : (.ok value >>= next) = next value := rfl

theorem map_map (first : α → β) (second : β → γ) (result : Except ε α) :
    (result.map first).map second = result.map fun value => second (first value) := by
  cases result with
  | error fault => rfl
  | ok value => rfl

theorem ok_of_map {change : α → β} {result : Except ε α} {done : β}
    (succeeded : result.map change = .ok done) :
    ∃ value, result = .ok value ∧ change value = done := by
  cases result with
  | error fault => cases succeeded
  | ok value =>
    cases succeeded
    exact ⟨value, rfl, rfl⟩

theorem ok_of_mapError {change : ε → δ} {result : Except ε α} {value : α}
    (succeeded : result.mapError change = .ok value) : result = .ok value := by
  cases result with
  | error fault => cases succeeded
  | ok value =>
    cases succeeded
    rfl

theorem error_of_map {change : α → β} {result : Except ε α} {fault : ε}
    (failed : result.map change = .error fault) : result = .error fault := by
  cases result with
  | ok value => cases failed
  | error other =>
    cases failed
    rfl

theorem error_of_mapError {change : ε → δ} {result : Except ε α} {fault : δ}
    (failed : result.mapError change = .error fault) :
    ∃ cause, result = .error cause ∧ change cause = fault := by
  cases result with
  | ok value => cases failed
  | error cause =>
    cases failed
    exact ⟨cause, rfl, rfl⟩

theorem run_bind (first : ExceptT ε (StateM s) α) (next : α → ExceptT ε (StateM s) β) (before : s) :
    (first >>= next).run before =
      match first.run before with
      | (.ok value, after) => (next value).run after
      | (.error fault, after) => (.error fault, after) := by
  show (ExceptT.bindCont next (first.run before).1 : StateM s _) (first.run before).2 = _
  cases first.run before with
  | mk result after => cases result <;> rfl

theorem run_bind_of_error {first : ExceptT ε (StateM s) α} {before after : s} {fault : ε}
    (failed : first.run before = (.error fault, after)) (next : α → ExceptT ε (StateM s) β) :
    (first >>= next).run before = (.error fault, after) := by
  rw [run_bind, failed]

theorem run_discard (work : ExceptT ε (StateM s) α) (before : s) :
    (discard work).run before = ((work.run before).1.map fun _ => ⟨⟩, (work.run before).2) := by
  show ((fun _ => ⟨⟩) <$> work : ExceptT ε (StateM s) PUnit).run before = _
  rw [ExceptT.run_map]
  rfl

theorem run_return (change : α → β) (work : ExceptT ε (StateM s) α) (before : s) :
    (do return change (← work)).run before =
      ((work.run before).1.map change, (work.run before).2) := by
  rw [run_bind]
  cases work.run before with
  | mk result after => cases result <;> rfl

theorem run_get (before : s) :
    (get : ExceptT ε (StateM s) s).run before = (.ok before, before) := rfl

theorem run_modifyGet (change : s → α × s) (before : s) :
    (modifyGet change : ExceptT ε (StateM s) α).run before =
      (.ok (change before).1, (change before).2) := rfl

theorem run_tryCatch (work : ExceptT ε (StateM s) α) (handle : ε → ExceptT ε (StateM s) α)
    (before : s) :
    (tryCatch work handle).run before =
      match work.run before with
      | (.ok value, after) => (.ok value, after)
      | (.error fault, after) => (handle fault).run after := by
  show (match (work.run before).1 with
    | .ok value => pure (.ok value)
    | .error fault => handle fault : StateM s _) (work.run before).2 = _
  cases work.run before with
  | mk result after => cases result <;> rfl

/-- Done in a state that the invariant holds of, the work leaves such a state, also if it fails;
    and its value, if it has one, is good. -/
def Keeps (invariant : s → Prop) (good : α → Prop) (work : ExceptT ε (StateM s) α) : Prop :=
  ∀ before, invariant before →
    invariant (work.run before).2 ∧ ∀ value, (work.run before).1 = .ok value → good value

namespace Keeps

variable {invariant : s → Prop}

theorem pure {good : α → Prop} {value : α} (holds : good value) :
    Keeps invariant good (Pure.pure value : ExceptT ε (StateM s) α) := by
  intro before valid
  refine ⟨valid, fun result done => ?_⟩
  cases done
  exact holds

theorem throw {good : α → Prop} (fault : ε) :
    Keeps invariant good (MonadExcept.throw fault : ExceptT ε (StateM s) α) := by
  intro before valid
  refine ⟨valid, fun result done => ?_⟩
  cases done

theorem bind {good : α → Prop} {better : β → Prop} {first : ExceptT ε (StateM s) α}
    {next : α → ExceptT ε (StateM s) β} (kept : Keeps invariant good first)
    (goesOn : ∀ value, good value → Keeps invariant better (next value)) :
    Keeps invariant better (first >>= next) := by
  intro before valid
  obtain ⟨between, holds⟩ := kept before valid
  rw [run_bind]
  cases started : first.run before with
  | mk result after =>
    rw [started] at between holds
    cases result with
    | ok value => exact goesOn value (holds value rfl) after between
    | error fault =>
      refine ⟨between, fun value done => ?_⟩
      cases done

theorem map {good : α → Prop} {work : ExceptT ε (StateM s) α} {change : α → β}
    (kept : Keeps invariant good work) :
    Keeps invariant (fun _ => True) (do return change (← work)) :=
  kept.bind fun _ _ => .pure trivial

theorem mono {good better : α → Prop} {work : ExceptT ε (StateM s) α}
    (kept : Keeps invariant good work) (weaker : ∀ value, good value → better value) :
    Keeps invariant better work := by
  intro before valid
  obtain ⟨after, holds⟩ := kept before valid
  exact ⟨after, fun value done => weaker value (holds value done)⟩

theorem ofExcept {good : α → Prop} {result : Except ε α}
    (holds : ∀ value, result = .ok value → good value) :
    Keeps invariant good (ExceptT.mk (Pure.pure result) : ExceptT ε (StateM s) α) := by
  intro before valid
  exact ⟨valid, holds⟩

theorem tried (result : Except ε α) :
    Keeps invariant (fun _ => True) (ExceptT.mk (Pure.pure result) : ExceptT ε (StateM s) α) :=
  ofExcept fun _ _ => trivial

theorem get : Keeps invariant invariant (MonadState.get : ExceptT ε (StateM s) s) := by
  intro before valid
  refine ⟨valid, fun value done => ?_⟩
  cases done
  exact valid

theorem modify {change : s → s} (frame : ∀ state, invariant state → invariant (change state)) :
    Keeps invariant (fun _ => True) (modify change : ExceptT ε (StateM s) PUnit) := by
  intro before valid
  exact ⟨frame before valid, fun _ _ => trivial⟩

theorem modifyGet {good : α → Prop} {change : s → α × s}
    (frame : ∀ state, invariant state → good (change state).1 ∧ invariant (change state).2) :
    Keeps invariant good (modifyGet change : ExceptT ε (StateM s) α) := by
  intro before valid
  refine ⟨(frame before valid).2, fun value done => ?_⟩
  cases done
  exact (frame before valid).1

theorem tryCatch {good : α → Prop} {work : ExceptT ε (StateM s) α}
    {handle : ε → ExceptT ε (StateM s) α} (kept : Keeps invariant good work)
    (handled : ∀ fault, Keeps invariant good (handle fault)) :
    Keeps invariant good (MonadExcept.tryCatch work handle) := by
  intro before valid
  obtain ⟨between, holds⟩ := kept before valid
  rw [run_tryCatch]
  cases tried : work.run before with
  | mk result after =>
    rw [tried] at between holds
    cases result with
    | ok value => exact ⟨between, holds⟩
    | error fault => exact handled fault after between

end Keeps

def FailsOnly (invariant : s → Prop) (expected : ε → Prop) (work : ExceptT ε (StateM s) α) :
    Prop :=
  ∀ before, invariant before →
    invariant (work.run before).2 ∧ ∀ fault, (work.run before).1 = .error fault → expected fault

namespace FailsOnly

variable {invariant : s → Prop} {expected : ε → Prop}

theorem pure (value : α) :
    FailsOnly invariant expected (Pure.pure value : ExceptT ε (StateM s) α) :=
  fun _ valid => ⟨valid, fun _ failed => nomatch failed⟩

theorem throw {fault : ε} (known : expected fault) :
    FailsOnly invariant expected (MonadExcept.throw fault : ExceptT ε (StateM s) α) := by
  intro before valid
  refine ⟨valid, fun other failed => ?_⟩
  cases failed
  exact known

theorem bind {first : ExceptT ε (StateM s) α} {next : α → ExceptT ε (StateM s) β}
    (starts : FailsOnly invariant expected first)
    (goesOn : ∀ value, FailsOnly invariant expected (next value)) :
    FailsOnly invariant expected (first >>= next) := by
  intro before valid
  obtain ⟨between, known⟩ := starts before valid
  rw [run_bind]
  cases started : first.run before with
  | mk result after =>
    rw [started] at between known
    cases result with
    | ok value => exact goesOn value after between
    | error fault =>
      refine ⟨between, fun other failed => ?_⟩
      cases failed
      exact known fault rfl

theorem ofExcept {result : Except ε α} (known : ∀ fault, result = .error fault → expected fault) :
    FailsOnly invariant expected (ExceptT.mk (Pure.pure result) : ExceptT ε (StateM s) α) :=
  fun _ valid => ⟨valid, known⟩

theorem modify {change : s → s} (frame : ∀ state, invariant state → invariant (change state)) :
    FailsOnly invariant expected (modify change : ExceptT ε (StateM s) PUnit) :=
  fun before valid => ⟨frame before valid, fun _ failed => nomatch failed⟩

end FailsOnly

end DiceFormula
