import DiceFormula.Roll.Session

namespace DiceFormula

def LogEvent.lookup? : LogEvent → Option (String × Bool)
  | cacheHit text => some (text, true)
  | cacheMiss text => some (text, false)
  | _ => none

def lookupsOf (log : Array LogEvent) : List (String × Bool) :=
  log.toList.filterMap LogEvent.lookup?

theorem lookupsOf_append (log : Array LogEvent) (events : List LogEvent) :
    lookupsOf (log ++ events) = lookupsOf log ++ events.filterMap LogEvent.lookup? := by
  rw [lookupsOf, Array.toList_appendList, List.filterMap_append, lookupsOf]

namespace Session

theorem reportTime_spec (elapsed : Float) (session : Session) :
    ∃ events : List LogEvent, events.filterMap LogEvent.lookup? = [] ∧
      ∀ log, reportTime elapsed { session with log := log } =
        { session with log := log ++ events } := by
  obtain ⟨limit, budget, trace, clock, before⟩ := session
  let evaluated := LogEvent.evaluated trace.metrics.nodesEvaluated elapsed
  unfold reportTime
  cases budget with
  | none => exact ⟨[evaluated], rfl, fun _ => rfl⟩
  | some budget =>
    dsimp only
    split
    · exact ⟨[evaluated, .overBudget elapsed budget], rfl, fun _ => rfl⟩
    · exact ⟨[evaluated], rfl, fun _ => rfl⟩

theorem evaluateTimed_spec (e : Expr) (session : Session) :
    ∃ elapsed clock, ∃ events : List LogEvent, events.filterMap LogEvent.lookup? = [] ∧
      ∀ log, evaluateTimed e { session with log := log } =
        ((e.evaluate session.rerollLimit session.trace).1.map (·, elapsed),
          { session with
            trace := (e.evaluate session.rerollLimit session.trace).2
            clock := clock
            log := log ++ events }) := by
  simp only [evaluateTimed, readClock, evaluate]
  cases e.evaluate session.rerollLimit session.trace with
  | mk result trace =>
    cases result with
    | error fault => exact ⟨0, session.clock.read.2, [], rfl, fun _ => rfl⟩
    | ok value =>
      let elapsed :=
        Clock.elapsedMilliseconds session.clock.read.1 session.clock.read.2.read.1
      let later : Session := { session with trace := trace, clock := session.clock.read.2.read.2 }
      obtain ⟨events, silent, reported⟩ := reportTime_spec elapsed later
      exact ⟨elapsed, later.clock, events, silent, fun log =>
        congrArg (Prod.mk (Except.ok (value, elapsed))) (reported log)⟩

theorem evaluateTimed_eq (e : Expr) (session : Session) :
    ∃ elapsed,
      (session.evaluateTimed e).1 =
        (e.evaluate session.rerollLimit session.trace).1.map (·, elapsed) ∧
      (session.evaluateTimed e).2.trace = (e.evaluate session.rerollLimit session.trace).2 ∧
      (session.evaluateTimed e).2.rerollLimit = session.rerollLimit := by
  obtain ⟨elapsed, _, _, _, timed⟩ := evaluateTimed_spec e session
  have here := timed session.log
  rw [here]
  exact ⟨elapsed, rfl, rfl, rfl⟩

/-- What is written to the log before does not change what is done. -/
def IgnoresLog (work : Session → Except RollFault α × Session) : Prop :=
  ∀ session log, ∃ left,
    work { session with log := log } = ((work session).1, { (work session).2 with log := left })

theorem evaluate_ignoresLog (e : Expr) : IgnoresLog (evaluate e) :=
  fun _ log => ⟨log, rfl⟩

theorem evaluateTimed_ignoresLog (e : Expr) : IgnoresLog (evaluateTimed e) := by
  intro session log
  obtain ⟨_, _, events, _, timed⟩ := evaluateTimed_spec e session
  have here := timed session.log
  rw [timed log, here]
  exact ⟨log ++ events, rfl⟩

theorem lookupsOf_evaluateTimed (e : Expr) (session : Session) :
    lookupsOf (session.evaluateTimed e).2.log = lookupsOf session.log := by
  obtain ⟨_, _, events, silent, timed⟩ := evaluateTimed_spec e session
  have here := timed session.log
  rw [here, lookupsOf_append, silent, List.append_nil]

end Session

end DiceFormula
