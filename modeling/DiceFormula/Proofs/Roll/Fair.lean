import DiceFormula.Proofs.Run
import DiceFormula.Roll.Trace

namespace DiceFormula

variable {σ : Type} [Supply σ]

namespace Supply

inductive Reaches (start : σ) : σ → Prop
  | refl : Reaches start start
  | roll {supply : σ} (sides : Int) (before : Reaches start supply) :
      Reaches start (Supply.rollDie sides supply).2

/-- Now and later, a die of so many sides shows one of them. -/
def Fair (supply : σ) (sides : Int) : Prop :=
  ∀ later, Reaches supply later → ∀ face, (Supply.rollDie sides later).1 = .ok face →
    1 ≤ face ∧ face ≤ sides

def Shows (σ : Type) [Supply σ] (sides : Int) : Prop :=
  ∀ supply : σ, ∃ face, (Supply.rollDie sides supply).1 = .ok face

end Supply

abbrev Rolling.Gives (start : σ) (good : α → Prop) (work : Rolling σ α) : Prop :=
  Keeps (fun trace => Supply.Reaches start trace.supply) good work

variable {start : σ}

theorem gives_modify {change : Trace σ → Trace σ}
    (frame : ∀ trace, (change trace).supply = trace.supply) :
    Rolling.Gives start (fun _ => True) (modify change : Rolling σ PUnit) := by
  refine Keeps.modify fun trace reached => ?_
  rw [frame]
  exact reached

theorem gives_tryNote (record : Recorder → Except RollFault Recorder) :
    Rolling.Gives start (fun _ => True) (Rolling.tryNote record : Rolling σ Unit) := by
  apply Keeps.bind Keeps.get
  intro trace _
  cases trace.recorder with
  | none => exact Keeps.pure trivial
  | some recorder =>
    apply Keeps.bind (Keeps.tried _)
    intro written _
    exact gives_modify fun _ => rfl

theorem gives_die {sides : Int} (fair : Supply.Fair start sides) :
    Rolling.Gives start (fun face => 1 ≤ face ∧ face ≤ sides)
      (Rolling.die sides : Rolling σ Int) := by
  intro before reached
  have shown := fair before.supply reached
  have further := Supply.Reaches.roll sides reached
  show Supply.Reaches start (Trace.rollDie sides before).2.supply ∧
    ∀ face, (Trace.rollDie sides before).1 = .ok face → _
  unfold Trace.rollDie
  cases drawn : Supply.rollDie sides before.supply with
  | mk result supply =>
    rw [drawn] at shown further
    cases result with
    | error fault => exact ⟨further, shown⟩
    | ok face => exact ⟨further, shown⟩

end DiceFormula
