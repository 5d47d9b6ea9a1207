import DiceFormula.Lru
import DiceFormula.Proofs.Run
import DiceFormula.Proofs.Token.Scan
import DiceFormula.Roller.Evaluate

namespace DiceFormula

namespace Roller

/-- The settings are these, and every tree that is kept is the one its text gives. -/
structure Sound (settings : Settings) (roller : Roller) : Prop where
  settled : roller.settings = settings
  kept : ∀ store, roller.parsed = some store → ∀ text e, (text, e) ∈ store.entries →
    Expr.ofText settings.maxExpressionLength text = .ok e

variable {settings : Settings} {roller : Roller}

theorem Sound.emit (sound : roller.Sound settings) (event : LogEvent) :
    (roller.emit event).Sound settings :=
  ⟨sound.settled, sound.kept⟩

theorem Sound.emitEvicted (sound : roller.Sound settings) (evicted : List String) :
    (evicted.foldl (fun roller key => roller.emit (.evicted key)) roller).Sound settings := by
  induction evicted generalizing roller with
  | nil => exact sound
  | cons key others ih => exact ih (sound.emit (.evicted key))

theorem Sound.lookUp (sound : roller.Sound settings) (text : String) :
    (∀ e, (roller.lookUp text).1 = some e →
      Expr.ofText settings.maxExpressionLength text = .ok e) ∧
    (roller.lookUp text).2.Sound settings := by
  unfold Roller.lookUp
  cases parsed : roller.parsed with
  | none => exact ⟨by simp, sound⟩
  | some store =>
    refine ⟨fun e found => ?_, sound.settled, ?_⟩
    · have present : store.find? text = some e := by rw [← Lru.get_fst]; exact found
      exact sound.kept store parsed text e (Lru.mem_of_find present)
    · intro after same other e member
      cases same
      exact sound.kept store parsed other e (Lru.mem_get member)

theorem Sound.keep (sound : roller.Sound settings) {text : String} {e : Expr}
    (read : Expr.ofText settings.maxExpressionLength text = .ok e) :
    (roller.keep text e).Sound settings := by
  unfold Roller.keep
  cases parsed : roller.parsed with
  | none => exact sound
  | some store =>
    have stored :
        ({ roller with parsed := some (store.put text e).2 } : Roller).Sound settings := by
      refine ⟨sound.settled, ?_⟩
      intro after same other kept member
      cases same
      rcases Lru.mem_put member with old | ⟨rfl, rfl⟩
      · exact sound.kept store parsed other kept old
      · exact read
    exact stored.emitEvicted (store.put text e).1

theorem keeps_readClock :
    Keeps (Sound settings) (fun _ => True) (modifyGet readClock : Working Float) :=
  .modifyGet fun _ sound => ⟨trivial, sound.settled, sound.kept⟩

theorem keeps_scan (text : String) :
    Keeps (Sound settings)
      (fun tokens => scanText settings.maxExpressionLength text = .ok tokens) (scan text) := by
  refine .bind .get fun roller sound => .ofExcept fun tokens scanned => ?_
  rw [lengthLimit, sound.settled] at scanned
  exact scanned

theorem run_ofExcept (result : Except Fault α) (roller : Roller) :
    (ofExcept result).run roller = (result, roller) := rfl

def build (text : String) (scanned : Option (List Token)) (roller : Roller) : Except Fault Expr :=
  match scanned with
  | some tokens => parseTokens tokens
  | none => Expr.ofText roller.lengthLimit text

/-- A text is refused for its length, or found, or built. Only what could be built is kept. -/
inductive Reads (text : String) (scanned : Option (List Token)) (roller : Roller) :
    Except Fault Expr × Roller → Prop
  | refused {fault : ScanFault} (measured : checkLength roller.lengthLimit text = .error fault) :
      Reads text scanned roller (.error (.scan fault), roller)
  | found {e : Expr} (measured : checkLength roller.lengthLimit text = .ok ())
      (held : (roller.lookUp text).1 = some e) :
      Reads text scanned roller (.ok e, (roller.lookUp text).2)
  | unread {fault : Fault} (measured : checkLength roller.lengthLimit text = .ok ())
      (missing : (roller.lookUp text).1 = none)
      (failed : roller.build text scanned = .error fault) :
      Reads text scanned roller (.error fault, (roller.lookUp text).2)
  | built {e : Expr} (measured : checkLength roller.lengthLimit text = .ok ())
      (missing : (roller.lookUp text).1 = none) (done : roller.build text scanned = .ok e) :
      Reads text scanned roller (.ok e, (roller.lookUp text).2.keep text e)

theorem settings_lookUp (text : String) (roller : Roller) :
    (roller.lookUp text).2.settings = roller.settings := by
  unfold lookUp
  cases roller.parsed with
  | none => rfl
  | some store => rfl

theorem reads_parse (text : String) (scanned : Option (List Token)) (roller : Roller) :
    Reads text scanned roller ((parse text scanned).run roller) := by
  rw [parse, run_bind, run_get]
  dsimp only
  rw [run_bind, run_ofExcept]
  cases measured : checkLength roller.lengthLimit text with
  | error fault => exact .refused measured
  | ok _ =>
    dsimp only [Except.mapError]
    rw [run_bind, run_modifyGet]
    dsimp only
    cases found : (roller.lookUp text).1 with
    | some e => exact .found measured found
    | none =>
      have builds (tokens : List Token)
          (same : roller.build text scanned = parseTokens tokens) :
          Reads text scanned roller ((do
            let e ← ofExcept (parseTokens tokens)
            modify (Roller.keep text e)
            return e : Working Expr).run (roller.lookUp text).2) := by
        rw [run_bind, run_ofExcept]
        cases parsed : parseTokens tokens with
        | error fault => exact .unread measured found (same.trans parsed)
        | ok e => exact .built measured found (same.trans parsed)
      cases scanned with
      | some tokens => exact builds tokens rfl
      | none =>
        have limit : (roller.lookUp text).2.lengthLimit = roller.lengthLimit := by
          rw [lengthLimit, settings_lookUp, lengthLimit]
        dsimp only
        rw [run_bind, scan, run_bind, run_get]
        dsimp only
        rw [run_ofExcept, limit]
        cases read : scanText roller.lengthLimit text with
        | error fault =>
          have failed : roller.build text none = .error fault := by
            rw [build, Expr.ofText, read]
            rfl
          exact .unread measured found failed
        | ok tokens =>
          have same : roller.build text none = parseTokens tokens := by
            rw [build, Expr.ofText, read]
            rfl
          exact builds tokens same

theorem ofText_of_measured {limit : Int} {text : String} {fault : ScanFault}
    (measured : checkLength limit text = .error fault) :
    Expr.ofText limit text = .error (.scan fault) := by
  rw [Expr.ofText, scanText, tokenize, measured]
  rfl

theorem ofText_of_long {limit : Int} {text : String} (long : limit < text.length) :
    Expr.ofText limit text = .error (.scan (.tooLong text.length limit)) :=
  ofText_of_measured (checkLength_of_lt long)

theorem Sound.build_eq (sound : roller.Sound settings) {text : String}
    {scanned : Option (List Token)}
    (fresh : ∀ tokens, scanned = some tokens →
      scanText settings.maxExpressionLength text = .ok tokens) :
    roller.build text scanned = Expr.ofText settings.maxExpressionLength text := by
  cases scanned with
  | none => rw [build, lengthLimit, sound.settled]
  | some tokens =>
    rw [Expr.ofText, fresh tokens rfl]
    rfl

theorem Sound.parse_eq (sound : roller.Sound settings) (text : String)
    {scanned : Option (List Token)}
    (fresh : ∀ tokens, scanned = some tokens →
      scanText settings.maxExpressionLength text = .ok tokens) :
    ((parse text scanned).run roller).1 = Expr.ofText settings.maxExpressionLength text := by
  have builds := sound.build_eq fresh
  have reads := reads_parse text scanned roller
  generalize (parse text scanned).run roller = ran at reads ⊢
  cases reads with
  | refused measured =>
    rw [lengthLimit, sound.settled] at measured
    exact (ofText_of_measured measured).symm
  | found _ held => exact ((sound.lookUp text).1 _ held).symm
  | unread _ _ failed => exact failed.symm.trans builds
  | built _ _ done => exact done.symm.trans builds

theorem keeps_parse (text : String) {scanned : Option (List Token)}
    (fresh : ∀ tokens, scanned = some tokens →
      scanText settings.maxExpressionLength text = .ok tokens) :
    Keeps (Sound settings) (fun e => Expr.ofText settings.maxExpressionLength text = .ok e)
      (parse text scanned) := by
  intro roller sound
  refine ⟨?_, fun e done => (sound.parse_eq text fresh).symm.trans done⟩
  have looked := (sound.lookUp text).2
  have reads := reads_parse text scanned roller
  generalize (parse text scanned).run roller = ran at reads ⊢
  cases reads with
  | refused _ => exact sound
  | found _ _ => exact looked
  | unread _ _ _ => exact looked
  | built _ _ done => exact looked.keep ((sound.build_eq fresh).symm.trans done)

def SameBesideStore (roller left : Roller) : Prop :=
  ∃ parsed log, left = { roller with parsed := parsed, log := log }

theorem SameBesideStore.emit {left : Roller} (same : roller.SameBesideStore left)
    (event : LogEvent) : roller.SameBesideStore (left.emit event) := by
  obtain ⟨parsed, log, rfl⟩ := same
  exact ⟨parsed, log.push event, rfl⟩

theorem SameBesideStore.emitEvicted {left : Roller} (same : roller.SameBesideStore left)
    (evicted : List String) :
    roller.SameBesideStore
      (evicted.foldl (fun roller key => roller.emit (.evicted key)) left) := by
  induction evicted generalizing left with
  | nil => exact same
  | cons key others ih => exact ih (same.emit (.evicted key))

theorem SameBesideStore.lookUp (roller : Roller) (text : String) :
    roller.SameBesideStore (roller.lookUp text).2 := by
  unfold Roller.lookUp
  cases roller.parsed with
  | none => exact ⟨roller.parsed, roller.log, rfl⟩
  | some store => exact .emit ⟨_, roller.log, rfl⟩ _

theorem SameBesideStore.keep {left : Roller} (same : roller.SameBesideStore left)
    (text : String) (e : Expr) : roller.SameBesideStore (left.keep text e) := by
  obtain ⟨parsed, log, rfl⟩ := same
  unfold Roller.keep
  cases parsed with
  | none => exact ⟨none, log, rfl⟩
  | some store => exact .emitEvicted ⟨_, log, rfl⟩ _

theorem parse_besideStore (roller : Roller) (text : String) (scanned : Option (List Token)) :
    roller.SameBesideStore ((parse text scanned).run roller).2 := by
  have looked := SameBesideStore.lookUp roller text
  have reads := reads_parse text scanned roller
  generalize (parse text scanned).run roller = ran at reads ⊢
  cases reads with
  | refused _ => exact ⟨roller.parsed, roller.log, rfl⟩
  | found _ _ => exact looked
  | unread _ _ _ => exact looked
  | built _ _ _ => exact looked.keep text _

theorem restore_besideSources (given : Option Source) (source : Source) (roller : Roller) :
    ∃ injected ambient, roller.restore given source =
      { roller with injected := injected, ambient := ambient } := by
  unfold restore
  split
  · exact ⟨roller.injected, roller.ambient, rfl⟩
  · exact ⟨some source, roller.ambient, rfl⟩
  · exact ⟨roller.injected, roller.ambient, rfl⟩
  · exact ⟨roller.injected, source, rfl⟩

theorem keeps_runSession (given : Option Source) (recorder : Option Recorder)
    (work : Session → Except RollFault α × Session) :
    Keeps (Sound settings) (fun _ => True) (runSession given recorder work) := by
  intro roller sound
  refine ⟨?_, fun _ _ => trivial⟩
  have restored (source : Source) : (roller.restore given source).Sound settings := by
    obtain ⟨_, _, same⟩ := restore_besideSources given source roller
    rw [same]
    exact ⟨sound.settled, sound.kept⟩
  exact ⟨(restored _).settled, (restored _).kept⟩

theorem keeps_boundsOf {invariant : Roller → Prop} (e : Expr) :
    Keeps invariant (fun _ => True) (boundsOf e) :=
  .bind .get fun _ _ => .tried _

theorem keeps_parseAfresh (text : String) :
    Keeps (Sound settings) (fun e => Expr.ofText settings.maxExpressionLength text = .ok e)
      (parse text none) :=
  keeps_parse text (by simp)

theorem keeps_range (text : String) : Keeps (Sound settings) (fun _ => True) (range text) :=
  .bind (keeps_parseAfresh text) fun e _ => keeps_boundsOf e

theorem keeps_evaluate (text : String) (given : Option Source) :
    Keeps (Sound settings) (fun _ => True) (evaluate text given) := by
  apply Keeps.bind (keeps_parseAfresh text)
  intro _ _
  exact .bind (keeps_runSession given none _) fun _ _ => .pure trivial

theorem keeps_evaluateDetailed (text : String) (given : Option Source) :
    Keeps (Sound settings) (fun _ => True) (evaluateDetailed text given) := by
  apply Keeps.bind (keeps_parseAfresh text)
  intro e _
  apply Keeps.bind (keeps_runSession given none _)
  intro _ _
  exact .bind (keeps_boundsOf e) fun _ _ => .pure trivial

theorem keeps_explainOutcome (text : String) (options : Option TranscriptOptions)
    (given : Option Source) :
    Keeps (Sound settings) (fun _ => True) (explainOutcome text options given) := by
  refine .bind .get fun _ _ => .bind (keeps_scan text) fun tokens scanned => ?_
  refine .bind (keeps_parse text fun other same => by cases same; exact scanned) fun e _ => ?_
  refine .bind keeps_readClock fun _ _ => .bind (keeps_runSession given _ _) fun _ _ => ?_
  apply Keeps.bind keeps_readClock
  intro _ _
  exact .bind (keeps_boundsOf e) fun _ _ => .pure trivial

theorem keeps_explain (text format : String) :
    Keeps (Sound settings) (fun _ => True) (explain text format) := by
  apply Keeps.bind (keeps_explainOutcome text none none)
  intro _ _
  dsimp only
  split
  · exact .pure trivial
  · split
    · exact .pure trivial
    · exact .throw _

theorem keeps_validationErrors (text : String) :
    Keeps (Sound settings) (fun _ => True) (validationErrors text) := by
  refine .tryCatch ?_ fun fault => ?_
  · have read : Keeps (Sound settings) (fun _ => True) (discard (parse text none) : Working Unit) :=
      (keeps_parseAfresh text).map
    exact .bind read fun _ _ => .pure trivial
  · cases fault.diagnosis? with
    | some diagnosis => exact .pure trivial
    | none => exact .throw fault

theorem keeps_validate (text : String) :
    Keeps (Sound settings) (fun _ => True) (validate text) :=
  (keeps_validationErrors text).map

theorem keeps_rollRecord (text : String) (seed : Int) :
    Keeps (Sound settings) (fun _ => True) (rollRecord text seed) :=
  .bind (keeps_explainOutcome text none _) fun _ _ => (keeps_parseAfresh text).map

theorem Sound.clearCache (sound : roller.Sound settings) : roller.clearCache.Sound settings := by
  refine ⟨sound.settled, ?_⟩
  intro store cleared text e member
  obtain ⟨before, _, rfl⟩ := Option.map_eq_some_iff.mp cleared
  cases member

end Roller

inductive Request
  | evaluate (text : String) (given : Option Source)
  | evaluateDetailed (text : String) (given : Option Source)
  | explainOutcome (text : String) (options : Option TranscriptOptions) (given : Option Source)
  | explain (text format : String)
  | range (text : String)
  | validationErrors (text : String)
  | validate (text : String)
  | parse (text : String)
  | rollRecord (text : String) (seed : Int)
  | clearCache
  | cacheStats

inductive Answer
  | value (value : Int)
  | outcome (outcome : Outcome)
  | account (outcome : Outcome) (transcript : Transcript)
  | written (account : String)
  | bounds (bounds : Bounds)
  | messages (messages : List String)
  | verdict (valid : Bool)
  | tree (e : Expr)
  | record (record : RollRecord)
  | cleared
  | stats (stats : LruStats)

def Request.work : Request → Working Answer
  | evaluate text given => return .value (← Roller.evaluate text given)
  | evaluateDetailed text given => return .outcome (← Roller.evaluateDetailed text given)
  | explainOutcome text options given => do
    let (outcome, transcript) ← Roller.explainOutcome text options given
    return .account outcome transcript
  | explain text format => return .written (← Roller.explain text format)
  | range text => return .bounds (← Roller.range text)
  | validationErrors text => return .messages (← Roller.validationErrors text)
  | validate text => return .verdict (← Roller.validate text)
  | parse text => return .tree (← Roller.parse text none)
  | rollRecord text seed => return .record (← Roller.rollRecord text seed)
  | clearCache => do
    modify Roller.clearCache
    return .cleared
  | cacheStats => return .stats (← get).cacheStats

namespace Roller

/-- A new roller, and whatever is left of one after a request, be it refused or not. -/
inductive Reachable : Roller → Prop
  | create (settings : Settings) (options : TranscriptOptions) (injected : Option Source)
      (ambient : Source) (clock : Clock) :
      Reachable (create settings options injected ambient clock)
  | perform {roller : Roller} (before : Reachable roller) (request : Request) :
      Reachable (request.work.run roller).2

theorem sound_create (settings : Settings) (options : TranscriptOptions) (injected : Option Source)
    (ambient : Source) (clock : Clock) :
    (create settings options injected ambient clock).Sound settings := by
  refine ⟨rfl, ?_⟩
  intro store parsed text e member
  simp only [create] at parsed
  split at parsed
  · cases parsed
    cases member
  · cases parsed

theorem keeps_work {settings : Settings} (request : Request) :
    Keeps (Sound settings) (fun _ => True) request.work := by
  cases request with
  | evaluate text given => exact (keeps_evaluate text given).map
  | evaluateDetailed text given => exact (keeps_evaluateDetailed text given).map
  | explainOutcome text options given => exact (keeps_explainOutcome text options given).map
  | explain text format => exact (keeps_explain text format).map
  | range text => exact (keeps_range text).map
  | validationErrors text => exact (keeps_validationErrors text).map
  | validate text => exact (keeps_validate text).map
  | parse text => exact (keeps_parseAfresh text).map
  | rollRecord text seed => exact (keeps_rollRecord text seed).map
  | clearCache => exact (Keeps.modify fun roller sound => sound.clearCache).map
  | cacheStats => exact Keeps.get.map

theorem Reachable.sound {roller : Roller} (reachable : roller.Reachable) :
    roller.Sound roller.settings := by
  induction reachable with
  | create settings options injected ambient clock =>
    exact sound_create settings options injected ambient clock
  | perform before request ih =>
    have after := (keeps_work request _ ih).1
    rw [after.settled]
    exact after

end Roller

end DiceFormula
