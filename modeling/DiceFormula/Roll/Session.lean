import DiceFormula.Log
import DiceFormula.Roll.Evaluate

namespace DiceFormula

structure Clock where
  readings : Nat → Float
  used : Nat

namespace Clock

def ticking (tick : Float) : Clock := ⟨fun n => n.toFloat * tick, 0⟩

def read (clock : Clock) : Float × Clock :=
  (clock.readings clock.used, { clock with used := clock.used + 1 })

def elapsedMilliseconds (start stop : Float) : Float := (stop - start) * 1000.0

end Clock

structure Session where
  rerollLimit : Int
  /-- The milliseconds an evaluation should take. They are reported on and never enforced. -/
  budget : Option Int
  trace : Trace Source
  clock : Clock
  log : Array LogEvent

namespace Session

def readClock (session : Session) : Float × Session :=
  let (reading, clock) := session.clock.read
  (reading, { session with clock := clock })

def emit (event : LogEvent) (session : Session) : Session :=
  { session with log := session.log.push event }

def evaluate (e : Expr) (session : Session) : Except RollFault Int × Session :=
  let (result, trace) := e.evaluate session.rerollLimit session.trace
  (result, { session with trace := trace })

def reportTime (elapsed : Float) (session : Session) : Session :=
  let reported := session.emit (.evaluated session.trace.metrics.nodesEvaluated elapsed)
  match session.budget with
  | some budget =>
    if (Decimal.Binary64.ofFloat elapsed).exceeds budget then
      reported.emit (.overBudget elapsed budget)
    else reported
  | none => reported

/-- Evaluates between two readings of the clock; a failure leaves out the second. -/
def evaluateTimed (e : Expr) (session : Session) : Except RollFault (Int × Float) × Session :=
  let (start, session) := session.readClock
  match session.evaluate e with
  | (.error fault, session) => (.error fault, session)
  | (.ok value, session) =>
    let (stop, session) := session.readClock
    let elapsed := Clock.elapsedMilliseconds start stop
    (.ok (value, elapsed), session.reportTime elapsed)

end Session

end DiceFormula
