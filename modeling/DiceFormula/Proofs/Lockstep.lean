import DiceFormula.Proofs.Run

namespace DiceFormula

variable {ε s t α β : Type}

/-- Done in two states that belong together, two pieces of work come to the same value or the same
    fault, and leave two states that belong together. -/
def Lockstep (related : s → t → Prop) (first : ExceptT ε (StateM s) α)
    (second : ExceptT ε (StateM t) α) : Prop :=
  ∀ one two, related one two →
    (first.run one).1 = (second.run two).1 ∧ related (first.run one).2 (second.run two).2

namespace Lockstep

variable {related : s → t → Prop}

theorem pure (value : α) :
    Lockstep related (Pure.pure value : ExceptT ε (StateM s) α) (Pure.pure value) :=
  fun _ _ together => ⟨rfl, together⟩

theorem throw (fault : ε) :
    Lockstep related (MonadExcept.throw fault : ExceptT ε (StateM s) α)
      (MonadExcept.throw fault) :=
  fun _ _ together => ⟨rfl, together⟩

theorem ofExcept (result : Except ε α) :
    Lockstep related (ExceptT.mk (Pure.pure result) : ExceptT ε (StateM s) α)
      (ExceptT.mk (Pure.pure result)) :=
  fun _ _ together => ⟨rfl, together⟩

theorem bind_of_good {good : α → Prop} {first : ExceptT ε (StateM s) α}
    {second : ExceptT ε (StateM t) α} {next : α → ExceptT ε (StateM s) β}
    {following : α → ExceptT ε (StateM t) β} (starts : Lockstep related first second)
    (known : ∀ one two, related one two → ∀ value, (first.run one).1 = .ok value → good value)
    (goesOn : ∀ value, good value → Lockstep related (next value) (following value)) :
    Lockstep related (first >>= next) (second >>= following) := by
  intro one two together
  obtain ⟨same, between⟩ := starts one two together
  have holds := known one two together
  rw [run_bind, run_bind]
  cases started : first.run one with
  | mk result left =>
    cases answered : second.run two with
    | mk other right =>
      rw [started] at same between holds
      rw [answered] at same between
      dsimp only at same between
      subst same
      cases result with
      | error fault => exact ⟨rfl, between⟩
      | ok value => exact goesOn value (holds value rfl) left right between

theorem bind {first : ExceptT ε (StateM s) α} {second : ExceptT ε (StateM t) α}
    {next : α → ExceptT ε (StateM s) β} {following : α → ExceptT ε (StateM t) β}
    (starts : Lockstep related first second)
    (goesOn : ∀ value, Lockstep related (next value) (following value)) :
    Lockstep related (first >>= next) (second >>= following) :=
  starts.bind_of_good (fun _ _ _ _ _ => trivial) fun value _ => goesOn value

theorem get {next : s → ExceptT ε (StateM s) β} {following : t → ExceptT ε (StateM t) β}
    (goesOn : ∀ one two, related one two → Lockstep related (next one) (following two)) :
    Lockstep related (MonadState.get >>= next) (MonadState.get >>= following) := by
  intro one two together
  rw [run_bind, run_bind]
  exact goesOn one two together one two together

theorem modifyGet {change : s → α × s} {other : t → α × t}
    (frame : ∀ one two, related one two →
      (change one).1 = (other two).1 ∧ related (change one).2 (other two).2) :
    Lockstep related (modifyGet change : ExceptT ε (StateM s) α) (modifyGet other) := by
  intro one two together
  rw [run_modifyGet, run_modifyGet]
  obtain ⟨same, after⟩ := frame one two together
  exact ⟨congrArg Except.ok same, after⟩

theorem modify {change : s → s} {other : t → t}
    (frame : ∀ one two, related one two → related (change one) (other two)) :
    Lockstep related (modify change : ExceptT ε (StateM s) PUnit) (modify other) :=
  fun one two together => ⟨rfl, frame one two together⟩

theorem tryCatch {first : ExceptT ε (StateM s) α} {second : ExceptT ε (StateM t) α}
    {handle : ε → ExceptT ε (StateM s) α} {mend : ε → ExceptT ε (StateM t) α}
    (starts : Lockstep related first second)
    (handled : ∀ fault, Lockstep related (handle fault) (mend fault)) :
    Lockstep related (MonadExcept.tryCatch first handle) (MonadExcept.tryCatch second mend) := by
  intro one two together
  obtain ⟨same, between⟩ := starts one two together
  rw [run_tryCatch, run_tryCatch]
  cases started : first.run one with
  | mk result left =>
    cases answered : second.run two with
    | mk other right =>
      rw [started, answered] at same between
      dsimp only at same between
      subst same
      cases result with
      | error fault => exact handled fault left right between
      | ok value => exact ⟨rfl, between⟩

theorem map {first : ExceptT ε (StateM s) α} {second : ExceptT ε (StateM t) α} {change : α → β}
    (alike : Lockstep related first second) :
    Lockstep related (do return change (← first)) (do return change (← second)) :=
  alike.bind fun value => .pure (change value)

end Lockstep

end DiceFormula
