import DiceFormula.Proofs.Roller.Reachable
import DiceFormula.Service

namespace DiceFormula

inductive Call
  | roll (text : String) (seed : Int)
  | explain (text format : String)
  | range (text : String)
  | validate (text : String)
  | settings
  | cacheStats
  | setVariable (name value : String)
  | unsetVariable (name : String)

inductive Reply
  | record (record : RollRecord)
  | written (account : String)
  | bounds (bounds : Bounds)
  | verdict (verdict : Verdict)
  | settings (settings : Settings)
  | stats (stats : LruStats)
  | done

def Call.serve : Call → Serving Reply
  | roll text seed => return .record (← Service.roll text seed)
  | explain text format => return .written (← Service.explain text format)
  | range text => return .bounds (← Service.range text)
  | validate text => return .verdict (← Service.validate text)
  | settings => return .settings (← Service.settings)
  | cacheStats => return .stats (← Service.cacheStats)
  | setVariable name value => do
    Service.setVariable name value
    return .done
  | unsetVariable name => do
    Service.unsetVariable name
    return .done

namespace Service

/-- A service without a roller, and whatever is left of one after a call, be it refused or not. -/
inductive Reachable : Service → Prop
  | start (environment : Environment) (ambient : Source) (clock : Clock) :
      Reachable { environment := environment, ambient := ambient, clock := clock }
  | call {service : Service} (before : Reachable service) (call : Call) :
      Reachable (call.serve.run service).2

variable {service : Service} {roller : Roller}

abbrev Lasting (service : Service) : Prop :=
  ∀ roller, service.roller = some roller → roller.Reachable

theorem Lasting.current (lasting : service.Lasting) (made : service.current = .ok roller) :
    roller.Reachable := by
  unfold Service.current at made
  split at made
  · rename_i there
    cases made
    exact lasting _ there
  · obtain ⟨settings, _, made⟩ := ok_of_bind made
    cases made
    exact .create _ _ _ _ _

theorem run_use (work : Working α) (service : Service) :
    (use work).run service =
      match service.current with
      | .error fault => (.error (.setting fault), service)
      | .ok roller => ((work.run roller).1.mapError .formula,
          { service with roller := some (work.run roller).2 }) := rfl

theorem keeps_use {work : Working α}
    (leaves : ∀ roller : Roller, roller.Reachable → (work.run roller).2.Reachable) :
    Keeps Lasting (fun _ => True) (use work) := by
  intro service lasting
  refine ⟨?_, fun _ _ => trivial⟩
  rw [run_use]
  cases made : service.current with
  | error fault => exact lasting
  | ok roller =>
    intro other there
    cases there
    exact leaves roller (lasting.current made)

theorem keeps_refusing {work : Serving α} (kept : Keeps Lasting (fun _ => True) work) :
    Keeps Lasting (fun _ => True) (refusing work) :=
  fun service lasting => ⟨(kept service lasting).1, fun _ _ => trivial⟩

theorem leaves_work (request : Request) {work : Working α} {answer : α → Answer}
    (same : request.work = do return answer (← work)) (roller : Roller)
    (reachable : roller.Reachable) : (work.run roller).2.Reachable := by
  have after := Roller.Reachable.perform reachable request
  rw [same, run_return] at after
  exact after

theorem keeps_serve (call : Call) : Keeps Lasting (fun _ => True) call.serve := by
  cases call with
  | roll text seed =>
    exact (keeps_refusing (keeps_use (leaves_work (.rollRecord text seed) rfl))).map
  | explain text format =>
    exact (keeps_refusing (keeps_use (leaves_work (.explain text format) rfl))).map
  | range text => exact (keeps_refusing (keeps_use (leaves_work (.range text) rfl))).map
  | validate text =>
    exact (keeps_use (leaves_work (.validationErrors text) rfl)).map.map
  | settings =>
    have kept : Keeps Lasting (fun _ => True) Service.settings :=
      keeps_use fun _ reachable => reachable
    exact kept.map
  | cacheStats =>
    have kept : Keeps Lasting (fun _ => True) Service.cacheStats :=
      keeps_use fun _ reachable => reachable
    exact kept.map
  | setVariable name value =>
    exact .bind (.modify fun _ lasting => lasting) fun _ _ => .pure trivial
  | unsetVariable name =>
    exact .bind (.modify fun _ lasting => lasting) fun _ _ => .pure trivial

theorem Reachable.lasting (reachable : service.Reachable) : service.Lasting := by
  induction reachable with
  | start environment ambient clock => exact fun _ there => nomatch there
  | call before call ih => exact (keeps_serve call _ ih).1

end Service

end DiceFormula
