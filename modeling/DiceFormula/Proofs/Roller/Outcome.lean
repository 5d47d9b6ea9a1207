import DiceFormula.Proofs.Roll.Telling
import DiceFormula.Proofs.Roll.Timing
import DiceFormula.Proofs.Roller.Reachable

namespace DiceFormula

namespace Roller

variable {settings : Settings} {roller left : Roller} {text : String} {e : Expr}

def rolling (e : Expr) (given : Option Source) (recorder : Option Recorder) (roller : Roller) :
    Except RollFault Int × Trace Source :=
  e.evaluate roller.settings.maxRerolls { supply := roller.source given, recorder := recorder }

theorem told_rolling {related : Recorder → Recorder → Prop} (inStep : Recorder.InStep related)
    {first second : Recorder} (together : related first second) (e : Expr) (given : Option Source)
    (roller : Roller) :
    (roller.rolling e given (some first)).1 = (roller.rolling e given (some second)).1 ∧
      (roller.rolling e given (some first)).2.Told related
        (roller.rolling e given (some second)).2 :=
  told_evaluate inStep _ e rfl rfl rfl together

def conclude (text : String) (e : Expr) (elapsed : Float)
    (rolled : Except RollFault Int × Trace Source) (roller : Roller) :
    Except Fault (Outcome × Trace Source) := do
  let value ← rolled.1.mapError .roll
  let bounds ← (e.bounds roller.settings.explodeMultiplier).mapError .roll
  return (⟨text, value, rolled.2.rolls.toList, bounds, elapsed, rolled.2.metrics⟩, rolled.2)

theorem ok_of_conclude {elapsed : Float} {rolled : Except RollFault Int × Trace Source}
    {told : Outcome × Trace Source} (done : roller.conclude text e elapsed rolled = .ok told) :
    ∃ value bounds, rolled.1 = .ok value ∧
      e.bounds roller.settings.explodeMultiplier = .ok bounds ∧
      told =
        (⟨text, value, rolled.2.rolls.toList, bounds, elapsed, rolled.2.metrics⟩, rolled.2) := by
  obtain ⟨value, evaluated, done⟩ := ok_of_bind done
  obtain ⟨bounds, bounded, done⟩ := ok_of_bind done
  cases done
  exact ⟨value, bounds, ok_of_mapError evaluated, ok_of_mapError bounded, rfl⟩

def opening (text : String) (options : Option TranscriptOptions) (tokens : List Token) (e : Expr)
    (roller : Roller) : Recorder :=
  (({ subject := text, options := options.getD roller.options } : Recorder).noteTokens
    (tokens.map Token.text)).noteParsing ("Expression parsed as " ++ e.render) e.nodeCount

/-- The outcome of an evaluation, and the account of it with the value as its last step. -/
def account (recorder : Recorder) (elapsed : Float) (told : Outcome × Trace Source) :
    Outcome × Transcript :=
  (told.1, ((told.2.recorder.getD recorder).noteResult told.1.value).transcript (some elapsed))

structure RollsAlike (roller left : Roller) : Prop where
  settings : left.settings = roller.settings
  injected : left.injected = roller.injected
  ambient : left.ambient = roller.ambient

theorem RollsAlike.rolling (alike : roller.RollsAlike left) (e : Expr) (given : Option Source)
    (recorder : Option Recorder) :
    left.rolling e given recorder = roller.rolling e given recorder := by
  unfold Roller.rolling source
  rw [alike.settings, alike.injected, alike.ambient]

theorem RollsAlike.conclude (alike : roller.RollsAlike left) (text : String) (e : Expr)
    (elapsed : Float) (rolled : Except RollFault Int × Trace Source) :
    left.conclude text e elapsed rolled = roller.conclude text e elapsed rolled := by
  unfold Roller.conclude
  rw [alike.settings]

theorem RollsAlike.parse (roller : Roller) (text : String) (scanned : Option (List Token)) :
    roller.RollsAlike ((Roller.parse text scanned).run roller).2 := by
  obtain ⟨_, _, same⟩ := parse_besideStore roller text scanned
  rw [same]
  exact ⟨rfl, rfl, rfl⟩

theorem run_runSession (given : Option Source) (recorder : Option Recorder)
    (work : Session → Except RollFault α × Session) (roller : Roller) :
    ∃ left, left.settings = roller.settings ∧
      (runSession given recorder work).run roller =
        (((work (roller.session given recorder)).1.map
          (·, (work (roller.session given recorder)).2.trace)).mapError .roll, left) := by
  let session := (work (roller.session given recorder)).2
  obtain ⟨_, _, same⟩ := restore_besideSources given session.trace.supply roller
  have settled : (roller.restore given session.trace.supply).settings = roller.settings := by
    rw [same]
  exact ⟨{ roller.restore given session.trace.supply with
    clock := session.clock, log := session.log }, settled, rfl⟩

theorem run_evaluateTimed (e : Expr) (given : Option Source) (recorder : Option Recorder)
    (roller : Roller) :
    ∃ left elapsed, left.settings = roller.settings ∧
      (runSession given recorder (Session.evaluateTimed e)).run roller =
        (((roller.rolling e given recorder).1.map fun value =>
          ((value, elapsed), (roller.rolling e given recorder).2)).mapError .roll, left) := by
  obtain ⟨elapsed, value_eq, trace_eq, _⟩ :=
    Session.evaluateTimed_eq e (roller.session given recorder)
  obtain ⟨left, settled, ran⟩ := run_runSession given recorder (Session.evaluateTimed e) roller
  refine ⟨left, elapsed, settled, ?_⟩
  have evaluated : e.evaluate (roller.session given recorder).rerollLimit
      (roller.session given recorder).trace = roller.rolling e given recorder := rfl
  rw [ran, value_eq, trace_eq, evaluated]
  cases (roller.rolling e given recorder).1 with
  | error fault => rfl
  | ok value => rfl

theorem run_boundsOf (e : Expr) (roller : Roller) :
    (boundsOf e).run roller =
      ((e.bounds roller.settings.explodeMultiplier).mapError .roll, roller) := rfl

theorem evaluate_eq (sound : roller.Sound settings) (text : String) (given : Option Source) :
    ((evaluate text given).run roller).1 = (do
      let e ← Expr.ofText settings.maxExpressionLength text
      (roller.rolling e given none).1.mapError .roll) := by
  have read : ((parse text none).run roller).1 = _ := sound.parse_eq text (by simp)
  have alike := RollsAlike.parse roller text none
  rw [evaluate, run_bind, ← read]
  cases parsed : (parse text none).run roller with
  | mk result after =>
    rw [parsed] at alike
    cases result with
    | error fault => rfl
    | ok e =>
      obtain ⟨left, _, ran⟩ := run_runSession given none (Session.evaluate e) after
      have rolled : (Session.evaluate e (after.session given none)).1 =
          (after.rolling e given none).1 := rfl
      dsimp only
      rw [run_bind, ran, rolled, alike.rolling, ok_bind]
      cases (roller.rolling e given none).1 with
      | error fault => rfl
      | ok value => rfl

theorem evaluateDetailed_of_parsed (given : Option Source)
    (parsed : (parse text none).run roller = (.ok e, left)) :
    ∃ elapsed, ((evaluateDetailed text given).run roller).1 =
      (left.conclude text e elapsed (left.rolling e given none)).map Prod.fst := by
  obtain ⟨last, elapsed, settled, ran⟩ := run_evaluateTimed e given none left
  refine ⟨elapsed, ?_⟩
  rw [evaluateDetailed, run_bind, parsed]
  dsimp only
  rw [run_bind, ran]
  unfold conclude
  cases (left.rolling e given none).1 with
  | error fault => rfl
  | ok value =>
    dsimp only [Except.map, Except.mapError]
    rw [run_bind, run_boundsOf, settled]
    cases e.bounds left.settings.explodeMultiplier with
    | error fault => rfl
    | ok bounds => rfl

theorem evaluateDetailed_eq (sound : roller.Sound settings) (text : String)
    (given : Option Source) :
    ∃ elapsed, ((evaluateDetailed text given).run roller).1 = (do
      let e ← Expr.ofText settings.maxExpressionLength text
      (roller.conclude text e elapsed (roller.rolling e given none)).map Prod.fst) := by
  have read : ((parse text none).run roller).1 = _ := sound.parse_eq text (by simp)
  have alike := RollsAlike.parse roller text none
  rw [← read]
  cases parsed : (parse text none).run roller with
  | mk result after =>
    rw [parsed] at alike
    cases result with
    | error fault =>
      refine ⟨0, ?_⟩
      rw [evaluateDetailed, run_bind, parsed]
      rfl
    | ok e =>
      obtain ⟨elapsed, detailed⟩ := evaluateDetailed_of_parsed given parsed
      rw [alike.rolling, alike.conclude] at detailed
      exact ⟨elapsed, detailed⟩

theorem run_account (alike : roller.RollsAlike left) (text : String) (e : Expr)
    (given : Option Source) (recorder : Recorder) :
    ∃ elapsed, ((do
      let start ← modifyGet readClock
      let ((value, _), trace) ← runSession given (some recorder) (Session.evaluateTimed e)
      let stop ← modifyGet readClock
      let bounds ← boundsOf e
      let elapsed := Clock.elapsedMilliseconds start stop
      return account recorder elapsed
        (⟨text, value, trace.rolls.toList, bounds, elapsed, trace.metrics⟩, trace) :
        Working (Outcome × Transcript)).run left).1 =
      (roller.conclude text e elapsed (roller.rolling e given (some recorder))).map
        (account recorder elapsed) := by
  have ticked : roller.RollsAlike left.readClock.2 :=
    ⟨alike.settings, alike.injected, alike.ambient⟩
  obtain ⟨after, taken, settled, ran⟩ :=
    run_evaluateTimed e given (some recorder) left.readClock.2
  rw [ticked.rolling] at ran
  refine ⟨Clock.elapsedMilliseconds left.readClock.1 after.readClock.1, ?_⟩
  rw [run_bind, run_modifyGet]
  dsimp only
  rw [run_bind, ran]
  unfold conclude
  cases (roller.rolling e given (some recorder)).1 with
  | error fault => rfl
  | ok value =>
    dsimp only [Except.map, Except.mapError]
    rw [run_bind, run_modifyGet]
    dsimp only
    have settings_eq : after.readClock.2.settings = roller.settings :=
      settled.trans ticked.settings
    rw [run_bind, run_boundsOf, settings_eq]
    cases e.bounds roller.settings.explodeMultiplier with
    | error fault => rfl
    | ok bounds => rfl

theorem explainOutcome_eq (sound : roller.Sound settings) (text : String)
    (options : Option TranscriptOptions) (given : Option Source) :
    ∃ elapsed, ((explainOutcome text options given).run roller).1 = (do
      let tokens ← scanText settings.maxExpressionLength text
      let e ← parseTokens tokens
      let recorder := roller.opening text options tokens e
      (roller.conclude text e elapsed (roller.rolling e given (some recorder))).map
        (account recorder elapsed)) := by
  have limit : roller.lengthLimit = settings.maxExpressionLength := by
    rw [lengthLimit, sound.settled]
  rw [explainOutcome, run_bind, run_get]
  dsimp only
  rw [run_bind, scan, run_bind, run_get]
  dsimp only
  rw [run_ofExcept, limit]
  cases scanned : scanText settings.maxExpressionLength text with
  | error fault => exact ⟨0, rfl⟩
  | ok tokens =>
    have read : ((parse text (some tokens)).run roller).1 = _ :=
      sound.parse_eq text fun again same => by cases same; exact scanned
    have alike := RollsAlike.parse roller text (some tokens)
    rw [Expr.ofText, scanned, ok_bind] at read
    dsimp only
    rw [run_bind]
    cases parsed : (parse text (some tokens)).run roller with
    | mk result after =>
      rw [parsed] at read alike
      dsimp only at read alike
      subst read
      simp only [ok_bind]
      cases parseTokens tokens with
      | error fault => exact ⟨0, rfl⟩
      | ok e => exact run_account alike text e given (roller.opening text options tokens e)

end Roller

end DiceFormula
