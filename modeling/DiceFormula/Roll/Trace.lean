import DiceFormula.Fault
import DiceFormula.Random.Source
import DiceFormula.Transcript.Recorder

namespace DiceFormula

/-- A supply of die faces: how the next die of so many sides falls, and what is left after it. -/
class Supply (σ : Type) where
  rollDie : Int → σ → Except RollFault Int × σ

def Fraction.rollDie (sides : Int) (fraction : Fraction) : Except RollFault Int :=
  match fraction.face? sides with
  | some face => .ok face
  | none => .error .sidesTooLarge

/-- A value of the source is used up even if the die cannot be read off it. -/
instance : Supply Source where
  rollDie sides source := (source.next.1.rollDie sides, source.next.2)

structure Metrics where
  nodesEvaluated : Nat := 0
  diceRolled : Nat := 0
  rerollsPerformed : Nat := 0
  deriving DecidableEq

/-- How far an evaluation has got. It stays readable after a failure. -/
structure Trace (σ : Type) where
  supply : σ
  recorder : Option Recorder := none
  rolls : Array Int := #[]
  metrics : Metrics := {}

/-- A step of an evaluation: a value or a fault, and in both cases the trace it leaves. -/
abbrev Rolling (σ : Type) := ExceptT RollFault (StateM (Trace σ))

variable {σ : Type}

namespace Trace

def restart (trace : Trace σ) : Trace σ := { trace with rolls := #[], metrics := {} }

def countNodes (count : Nat) (trace : Trace σ) : Trace σ :=
  { trace with metrics.nodesEvaluated := trace.metrics.nodesEvaluated + count }

def countReroll (trace : Trace σ) : Trace σ :=
  { trace with metrics.rerollsPerformed := trace.metrics.rerollsPerformed + 1 }

def addRoll (face : Int) (trace : Trace σ) : Trace σ :=
  { trace with
    rolls := trace.rolls.push face
    metrics.diceRolled := trace.metrics.diceRolled + 1 }

def note (record : Recorder → Recorder) (trace : Trace σ) : Trace σ :=
  { trace with recorder := trace.recorder.map record }

def rollDie [Supply σ] (sides : Int) (trace : Trace σ) : Except RollFault Int × Trace σ :=
  match Supply.rollDie sides trace.supply with
  | (.ok face, supply) => (.ok face, { trace with supply := supply }.addRoll face)
  | (.error fault, supply) => (.error fault, { trace with supply := supply })

end Trace

namespace Rolling

def ofExcept (result : Except RollFault α) : Rolling σ α := ExceptT.mk (pure result)

def note (record : Recorder → Recorder) : Rolling σ Unit := modify (Trace.note record)

def tryNote (record : Recorder → Except RollFault Recorder) : Rolling σ Unit := do
  match (← get).recorder with
  | none => pure ()
  | some recorder =>
    let recorder ← ofExcept (record recorder)
    modify fun trace => { trace with recorder := some recorder }

def noteNode (e : Expr) (result : Int) : Rolling σ Unit :=
  tryNote fun recorder => recorder.noteNode e result

def noteOperation (operator : Operator) (left right result : Int) : Rolling σ Unit :=
  tryNote fun recorder => recorder.noteOperation operator left right result

def die [Supply σ] (sides : Int) : Rolling σ Int := ExceptT.mk (Trace.rollDie sides)

end Rolling

end DiceFormula
