import DiceFormula.Proofs.Service.Reachable

namespace DiceFormula

namespace Call

def ask? : Call → Option (Working Reply)
  | roll text seed => some do return .record (← Roller.rollRecord text seed)
  | explain text format => some do return .written (← Roller.explain text format)
  | range text => some do return .bounds (← Roller.range text)
  | validate text => some do
    let errors ← Roller.validationErrors text
    return .verdict ⟨errors.isEmpty, errors⟩
  | settings => some do return .settings (← get).settings
  | cacheStats => some do return .stats (← get).cacheStats
  | setVariable _ _ => none
  | unsetVariable _ => none

def needsRoller (call : Call) : Bool := call.ask?.isSome

def refuses : Call → Bool
  | roll _ _ => true
  | explain _ _ => true
  | range _ => true
  | _ => false

def tells (call : Call) (fault : ServiceFault) : ServiceFault :=
  if call.refuses then fault.refuse else fault

def change (environment : Environment) : Call → Environment
  | setVariable name value => environment.set name value
  | unsetVariable name => environment.unset name
  | _ => environment

theorem needsRoller_of_ask {call : Call} {work : Working Reply} (asks : call.ask? = some work) :
    call.needsRoller = true := by
  rw [needsRoller, asks]
  rfl

theorem change_of_needsRoller {call : Call} (needs : call.needsRoller = true)
    (environment : Environment) : call.change environment = environment := by
  cases call with
  | setVariable name value => cases needs
  | unsetVariable name => cases needs
  | _ => rfl

end Call

def Environment.after (environment : Environment) (calls : List Call) : Environment :=
  calls.foldl Call.change environment

theorem Environment.after_append (environment : Environment) (early late : List Call) :
    environment.after (early ++ late) = (environment.after early).after late := List.foldl_append

/-- Whenever one of the calls needed the roller, none could be made. -/
def Environment.Unmade (environment : Environment) : List Call → Prop
  | [] => True
  | call :: rest =>
    (call.needsRoller = true → ∃ fault, Settings.ofEnvironment environment = .error fault) ∧
      (call.change environment).Unmade rest

namespace Roller

variable {settings : Settings} {roller : Roller}

def answer (roller : Roller) (call : Call) : Except ServiceFault Reply × Roller :=
  match call.ask? with
  | none => (.ok .done, roller)
  | some work =>
    ((work.run roller).1.mapError fun fault => call.tells (.formula fault), (work.run roller).2)

def replies (roller : Roller) : List Call → List (Except ServiceFault Reply)
  | [] => []
  | call :: rest => (roller.answer call).1 :: (roller.answer call).2.replies rest

def afterCalls (roller : Roller) (calls : List Call) : Roller :=
  calls.foldl (fun roller call => (roller.answer call).2) roller

theorem Sound.answer (sound : roller.Sound settings) (call : Call) :
    (roller.answer call).2.Sound settings := by
  cases call with
  | roll text seed => exact ((keeps_rollRecord text seed).map roller sound).1
  | explain text format => exact ((keeps_explain text format).map roller sound).1
  | range text => exact ((keeps_range text).map roller sound).1
  | validate text => exact ((keeps_validationErrors text).map roller sound).1
  | _ => exact sound

theorem Sound.afterCalls (sound : roller.Sound settings) (calls : List Call) :
    (roller.afterCalls calls).Sound settings := by
  induction calls generalizing roller with
  | nil => exact sound
  | cons call rest ih => exact ih (sound.answer call)

end Roller

namespace Service

variable {service : Service} {roller : Roller} {call : Call}

def replies (service : Service) : List Call → List (Except ServiceFault Reply)
  | [] => []
  | call :: rest => (call.serve.run service).1 :: (call.serve.run service).2.replies rest

def after (service : Service) (calls : List Call) : Service :=
  calls.foldl (fun service call => (call.serve.run service).2) service

theorem after_append (service : Service) (early late : List Call) :
    service.after (early ++ late) = (service.after early).after late := List.foldl_append

theorem run_return_use {serve : Serving α} {work : Working α} {tells : ServiceFault → ServiceFault}
    (serves : ∀ service, serve.run service =
      (((use work).run service).1.mapError tells, ((use work).run service).2))
    (reply : α → Reply) (service : Service) :
    (do return reply (← serve)).run service =
      match service.current with
      | .error fault => (.error (tells (.setting fault)), service)
      | .ok roller =>
        let done := (do return reply (← work) : Working Reply).run roller
        (done.1.mapError fun fault => tells (.formula fault),
          { service with roller := some done.2 }) := by
  rw [run_return, serves, run_use]
  cases service.current with
  | error fault => rfl
  | ok roller =>
    dsimp only
    rw [run_return]
    cases (work.run roller).1 with
    | error fault => rfl
    | ok value => rfl

theorem run_use_mapError (work : Working α) (service : Service) :
    (use work).run service =
      (((use work).run service).1.mapError fun fault => fault, ((use work).run service).2) := by
  cases (use work).run service with
  | mk result left =>
    cases result with
    | error fault => rfl
    | ok value => rfl

theorem run_serve_of_ask {work : Working Reply} (asks : call.ask? = some work)
    (service : Service) :
    call.serve.run service =
      match service.current with
      | .error fault => (.error (call.tells (.setting fault)), service)
      | .ok roller =>
        ((roller.answer call).1, { service with roller := some (roller.answer call).2 }) := by
  cases call with
  | roll text seed => exact run_return_use (fun _ => rfl) _ service
  | explain text format => exact run_return_use (fun _ => rfl) _ service
  | range text => exact run_return_use (fun _ => rfl) _ service
  | validate text =>
    rw [Call.serve, validate, bind_assoc]
    exact run_return_use (run_use_mapError (Roller.validationErrors text))
      (fun errors => .verdict ⟨errors.isEmpty, errors⟩) service
  | settings => exact run_return_use (run_use_mapError _) _ service
  | cacheStats => exact run_return_use (run_use_mapError _) _ service
  | setVariable name value => cases asks
  | unsetVariable name => cases asks

theorem run_serve_of_idle (idle : call.ask? = none) (service : Service) :
    call.serve.run service =
      (.ok .done, { service with environment := call.change service.environment }) := by
  cases call with
  | setVariable name value => rfl
  | unsetVariable name => rfl
  | _ => cases idle

theorem run_serve_of_roller (there : service.roller = some roller) (call : Call) :
    call.serve.run service =
      ((roller.answer call).1,
        { service with
          roller := some (roller.answer call).2
          environment := call.change service.environment }) := by
  cases asks : call.ask? with
  | none =>
    rw [run_serve_of_idle asks, Roller.answer, asks, ← there]
  | some work =>
    have needs := Call.needsRoller_of_ask asks
    have current : service.current = .ok roller := by rw [Service.current, there]
    rw [run_serve_of_ask asks, current, Call.change_of_needsRoller needs]

theorem served_of_roller (there : service.roller = some roller) (calls : List Call) :
    service.replies calls = roller.replies calls ∧
      service.after calls =
        { service with
          roller := some (roller.afterCalls calls)
          environment := service.environment.after calls } := by
  induction calls generalizing service roller with
  | nil =>
    refine ⟨rfl, ?_⟩
    rw [Roller.afterCalls, List.foldl_nil, ← there]
    rfl
  | cons call rest ih =>
    have served := run_serve_of_roller there call
    obtain ⟨replies, left⟩ := ih (congrArg (fun run => Service.roller run.2) served)
    rw [Service.replies, replies, served]
    refine ⟨rfl, left.trans ?_⟩
    rw [served]
    rfl

theorem run_serve_of_settings {settings : Settings} (absent : service.roller = none)
    (needs : call.needsRoller = true)
    (valid : Settings.ofEnvironment service.environment = .ok settings) :
    let roller := Roller.create settings {} none service.ambient service.clock
    call.serve.run service = call.serve.run { service with roller := some roller } := by
  intro roller
  obtain ⟨work, asks⟩ := Option.isSome_iff_exists.mp needs
  have made : service.current = .ok roller := by
    rw [Service.current, absent, valid]
    rfl
  have same : ({ service with roller := some roller } : Service).current = .ok roller := rfl
  rw [run_serve_of_ask asks, run_serve_of_ask asks, made, same]

theorem run_serve_of_fault {fault : SettingFault} (absent : service.roller = none)
    (needs : call.needsRoller = true)
    (invalid : Settings.ofEnvironment service.environment = .error fault) :
    call.serve.run service = (.error (call.tells (.setting fault)), service) := by
  obtain ⟨work, asks⟩ := Option.isSome_iff_exists.mp needs
  have refused : service.current = .error fault := by
    rw [Service.current, absent, invalid]
    rfl
  rw [run_serve_of_ask asks, refused]

theorem after_of_unmade {calls : List Call} (absent : service.roller = none)
    (unmade : service.environment.Unmade calls) :
    service.after calls = { service with environment := service.environment.after calls } := by
  induction calls generalizing service with
  | nil => rfl
  | cons call rest ih =>
    obtain ⟨first, later⟩ := unmade
    have served : (call.serve.run service).2 =
        { service with environment := call.change service.environment } := by
      cases asks : call.ask? with
      | none => rw [run_serve_of_idle asks]
      | some work =>
        have needs := Call.needsRoller_of_ask asks
        obtain ⟨fault, invalid⟩ := first needs
        rw [run_serve_of_fault absent needs invalid, Call.change_of_needsRoller needs]
    show (call.serve.run service).2.after rest = _
    rw [served]
    exact ih absent later

theorem run_settings (there : service.roller = some roller) :
    (Call.settings.serve.run service).1 = .ok (.settings roller.settings) := by
  rw [run_serve_of_roller there]
  rfl

theorem served_of_settings {settings : Settings} (absent : service.roller = none)
    (needs : call.needsRoller = true)
    (valid : Settings.ofEnvironment service.environment = .ok settings) (later : List Call) :
    let roller := Roller.create settings {} none service.ambient service.clock
    service.replies (call :: later) = roller.replies (call :: later) ∧
      service.after (call :: later) =
        { service with
          roller := some (roller.afterCalls (call :: later))
          environment := service.environment.after (call :: later) } := by
  intro roller
  let made : Service := { service with roller := some roller }
  have there : made.roller = some roller := rfl
  have begun : call.serve.run service = call.serve.run made :=
    run_serve_of_settings absent needs valid
  obtain ⟨replies, left⟩ := served_of_roller there (call :: later)
  constructor
  · rw [Service.replies, begun]
    exact replies
  · show (call.serve.run service).2.after later = _
    rw [begun]
    exact left

/-- The roller of all callers is made from the first environment that it can be made from when a
    call needs it. Until then every such call is refused with what is wrong with the environment,
    whatever it asked, and nothing is left of it. From then on all calls are answered by this one
    roller, which goes on from one to the next, and whose settings stay what they were. -/
theorem roller_made_once (environment : Environment) (ambient : Source) (clock : Clock)
    (earlier : List Call) (unmade : environment.Unmade earlier) :
    let start : Service := { environment := environment, ambient := ambient, clock := clock }
    start.after earlier = { start with environment := environment.after earlier } ∧
      ∀ call : Call, call.needsRoller = true →
        (∀ fault, Settings.ofEnvironment (environment.after earlier) = .error fault →
          call.serve.run (start.after earlier) =
            (.error (if call.refuses then .refused fault.diagnosis.message else .setting fault),
              start.after earlier)) ∧
        ∀ settings, Settings.ofEnvironment (environment.after earlier) = .ok settings →
          let roller := Roller.create settings {} none ambient clock
          ∀ later,
            (start.after earlier).replies (call :: later) = roller.replies (call :: later) ∧
            start.after (earlier ++ call :: later) =
              { start with
                roller := some (roller.afterCalls (call :: later))
                environment := environment.after (earlier ++ call :: later) } ∧
            (Call.settings.serve.run (start.after (earlier ++ call :: later))).1 =
              .ok (.settings settings) := by
  intro start
  have left : start.after earlier = { start with environment := environment.after earlier } :=
    after_of_unmade rfl unmade
  have absent : (start.after earlier).roller = none := by rw [left]
  have reached : (start.after earlier).environment = environment.after earlier := by rw [left]
  refine ⟨left, fun call needs => ⟨fun fault invalid => ?_, fun settings valid => ?_⟩⟩
  · rw [run_serve_of_fault absent needs (reached ▸ invalid), Call.tells]
    split
    all_goals rfl
  · intro roller later
    obtain ⟨replies, last⟩ := served_of_settings absent needs (reached ▸ valid) later
    have sound : (roller.afterCalls (call :: later)).Sound settings :=
      (Roller.sound_create settings {} none ambient clock).afterCalls _
    rw [left] at replies last
    rw [after_append, left, last]
    refine ⟨replies, ?_, ?_⟩
    · rw [Environment.after_append]
    · rw [run_settings rfl, sound.settled]

theorem roller_made_once_with_seven :
    let start : Service := { environment := {}, ambient := .ofSeed 0, clock := ⟨fun _ => 0, 0⟩ }
    let limit (value : String) : Call := .setVariable "DICE_MAX_REROLLS" value
    let earlier := [limit "many", .roll "d6" 1, limit "7"]
    let service := start.after (earlier ++ [.range "2d6", limit "9", .validate "2d6"])
    start.environment.Unmade earlier ∧
      (Call.roll "d6" 1).serve.run (start.after [limit "many"]) =
        (.error (.refused
          "[VALIDATION_ERROR] Option 'max_rerolls' must be an integer, got 'many'"),
          start.after [limit "many"]) ∧
      (start.after earlier).roller = none ∧
      (Call.settings.serve.run service).1 = .ok (.settings { maxRerolls := 7 }) ∧
      service.environment.find? "DICE_MAX_REROLLS" = some "9" ∧
      service.roller.map Roller.cacheStats = some ⟨1, 100, 1, 1⟩ := by
  intro start limit earlier service
  let fault : SettingFault := .notInteger .maxRerolls "many"
  have invalid : Settings.ofEnvironment (start.environment.after [limit "many"]) =
      .error fault := rfl
  have valid : Settings.ofEnvironment (start.environment.after earlier) =
      .ok { maxRerolls := 7 } := rfl
  have spoilt : start.environment.Unmade [limit "many"] := ⟨nofun, trivial⟩
  have unmade : start.environment.Unmade earlier :=
    ⟨nofun, fun _ => ⟨fault, invalid⟩, nofun, trivial⟩
  obtain ⟨_, refused⟩ := roller_made_once {} start.ambient start.clock [limit "many"] spoilt
  have told := (refused (.roll "d6" 1) rfl).1 fault invalid
  obtain ⟨left, served⟩ := roller_made_once {} start.ambient start.clock earlier unmade
  obtain ⟨_, last, settings⟩ :=
    (served (.range "2d6") rfl).2 _ valid [limit "9", .validate "2d6"]
  refine ⟨unmade, told, ?_, settings, ?_, ?_⟩
  · exact congrArg Service.roller left
  · exact congrArg (fun service => service.environment.find? "DICE_MAX_REROLLS") last
  · refine (congrArg (fun service => service.roller.map Roller.cacheStats) last).trans ?_
    decide +kernel

end Service

end DiceFormula
