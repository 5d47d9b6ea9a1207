import DiceFormula.Proofs.Lockstep
import DiceFormula.Proofs.Roll.Timing
import DiceFormula.Proofs.Roller.Reachable

namespace DiceFormula

def Settings.storing (settings other : Settings) : Settings :=
  { settings with
    enableCaching := other.enableCaching
    cacheSize := other.cacheSize
    cacheSize_pos := other.cacheSize_pos }

namespace Roller

/-- Two rollers that differ in their stores and their logs alone, and keep the right trees. -/
structure Twins (settings other : Settings) (one two : Roller) : Prop where
  first : one.Sound settings
  second : two.Sound (settings.storing other)
  options : one.options = two.options
  injected : one.injected = two.injected
  ambient : one.ambient = two.ambient
  clock : one.clock = two.clock

variable {settings other : Settings} {one two : Roller}

namespace Twins

theorem source (twins : Twins settings other one two) (given : Option Source) :
    one.source given = two.source given := by
  unfold Roller.source
  rw [twins.first.settled, twins.second.settled, twins.injected, twins.ambient]
  rfl

theorem session (twins : Twins settings other one two) (given : Option Source)
    (recorder : Option Recorder) :
    two.session given recorder = { one.session given recorder with log := two.log } := by
  unfold Roller.session
  rw [twins.source, twins.clock, twins.first.settled, twins.second.settled]
  rfl

theorem frame {left right : Roller} (twins : Twins settings other one two)
    (first : left.settings = one.settings ∧ left.parsed = one.parsed)
    (second : right.settings = two.settings ∧ right.parsed = two.parsed)
    (options : left.options = right.options) (injected : left.injected = right.injected)
    (ambient : left.ambient = right.ambient) (clock : left.clock = right.clock) :
    Twins settings other left right := by
  refine ⟨⟨first.1.trans twins.first.settled, ?_⟩, ⟨second.1.trans twins.second.settled, ?_⟩,
    options, injected, ambient, clock⟩
  · rw [first.2]
    exact twins.first.kept
  · rw [second.2]
    exact twins.second.kept

theorem restore (twins : Twins settings other one two) (given : Option Source)
    (source : Source) :
    Twins settings other (one.restore given source) (two.restore given source) := by
  have seed : one.settings.seed = two.settings.seed := by
    rw [twins.first.settled, twins.second.settled]
    rfl
  unfold Roller.restore
  rw [← twins.injected, ← seed]
  split
  · exact twins
  · exact twins.frame ⟨rfl, rfl⟩ ⟨rfl, rfl⟩ twins.options rfl twins.ambient twins.clock
  · exact twins
  · exact twins.frame ⟨rfl, rfl⟩ ⟨rfl, rfl⟩ twins.options rfl rfl twins.clock

theorem besideStore {left right : Roller} (twins : Twins settings other one two)
    (first : one.SameBesideStore left) (second : two.SameBesideStore right)
    (soundLeft : left.Sound settings) (soundRight : right.Sound (settings.storing other)) :
    Twins settings other left right := by
  obtain ⟨_, _, rfl⟩ := first
  obtain ⟨_, _, rfl⟩ := second
  exact ⟨soundLeft, soundRight, twins.options, twins.injected, twins.ambient, twins.clock⟩

theorem clearCache (twins : Twins settings other one two) :
    Twins settings other one.clearCache two.clearCache :=
  ⟨twins.first.clearCache, twins.second.clearCache, twins.options, twins.injected, twins.ambient,
    twins.clock⟩

end Twins

theorem lockstep_parse (text : String) {scanned : Option (List Token)}
    (fresh : ∀ tokens, scanned = some tokens →
      scanText settings.maxExpressionLength text = .ok tokens) :
    Lockstep (Twins settings other) (parse text scanned) (parse text scanned) := by
  intro one two twins
  have freshRight : ∀ tokens, scanned = some tokens →
      scanText (settings.storing other).maxExpressionLength text = .ok tokens := fresh
  have soundLeft := (keeps_parse text fresh one twins.first).1
  have soundRight := (keeps_parse text freshRight two twins.second).1
  refine ⟨?_, twins.besideStore (parse_besideStore one text scanned)
    (parse_besideStore two text scanned) soundLeft soundRight⟩
  rw [twins.first.parse_eq text fresh, twins.second.parse_eq text freshRight]
  rfl

theorem lockstep_readClock :
    Lockstep (Twins settings other) (modifyGet readClock : Working Float)
      (modifyGet readClock) := by
  refine .modifyGet fun one two twins => ?_
  unfold readClock
  rw [twins.clock]
  exact ⟨rfl, twins.frame ⟨rfl, rfl⟩ ⟨rfl, rfl⟩ twins.options twins.injected twins.ambient rfl⟩

theorem lockstep_runSession (given : Option Source) (recorder : Option Recorder)
    {work : Session → Except RollFault α × Session} (ignores : Session.IgnoresLog work) :
    Lockstep (Twins settings other) (runSession given recorder work)
      (runSession given recorder work) := by
  intro one two twins
  obtain ⟨left, same⟩ := ignores (one.session given recorder) two.log
  rw [← twins.session] at same
  let session := (work (one.session given recorder)).2
  have restored := twins.restore given session.trace.supply
  show _ = ((work (two.session given recorder)).1.map _).mapError _ ∧
    Twins settings other _ { two.restore given _ with clock := _, log := _ }
  rw [same]
  exact ⟨rfl, restored.frame ⟨rfl, rfl⟩ ⟨rfl, rfl⟩ restored.options restored.injected
    restored.ambient rfl⟩

structure Attuned (settings other : Settings) (related : Roller → Roller → Prop) : Prop where
  twins : ∀ one two, related one two → Twins settings other one two
  parse : ∀ text scanned,
    (∀ tokens, scanned = some tokens →
      scanText settings.maxExpressionLength text = .ok tokens) →
    Lockstep related (Roller.parse text scanned) (Roller.parse text scanned)
  readClock : Lockstep related (modifyGet Roller.readClock : Working Float)
    (modifyGet Roller.readClock)
  evaluate : ∀ given e,
    Lockstep related (runSession given none (Session.evaluate e))
      (runSession given none (Session.evaluate e))
  evaluateTimed : ∀ given recorder e,
    Lockstep related (runSession given recorder (Session.evaluateTimed e))
      (runSession given recorder (Session.evaluateTimed e))
  clearCache : ∀ one two, related one two → related one.clearCache two.clearCache

theorem attuned_twins : Attuned settings other (Twins settings other) where
  twins _ _ alike := alike
  parse text _ fresh := lockstep_parse text fresh
  readClock := lockstep_readClock
  evaluate given e := lockstep_runSession given none (Session.evaluate_ignoresLog e)
  evaluateTimed given recorder e :=
    lockstep_runSession given recorder (Session.evaluateTimed_ignoresLog e)
  clearCache _ _ twins := twins.clearCache

namespace Attuned

variable {related : Roller → Roller → Prop}

theorem scan (attuned : Attuned settings other related) (text : String) :
    Lockstep related (Roller.scan text) (Roller.scan text) := by
  refine .get fun one two alike => ?_
  have twins := attuned.twins one two alike
  have limit : one.lengthLimit = two.lengthLimit := by
    rw [lengthLimit, lengthLimit, twins.first.settled, twins.second.settled]
    rfl
  rw [limit]
  exact .ofExcept _

theorem parseAfresh (attuned : Attuned settings other related) (text : String) :
    Lockstep related (Roller.parse text none) (Roller.parse text none) :=
  attuned.parse text none (by simp)

theorem boundsOf (attuned : Attuned settings other related) (e : Expr) :
    Lockstep related (Roller.boundsOf e) (Roller.boundsOf e) := by
  refine .get fun one two alike => ?_
  have twins := attuned.twins one two alike
  rw [twins.first.settled, twins.second.settled]
  exact .ofExcept _

theorem range (attuned : Attuned settings other related) (text : String) :
    Lockstep related (Roller.range text) (Roller.range text) :=
  .bind (attuned.parseAfresh text) fun e => attuned.boundsOf e

theorem evaluateText (attuned : Attuned settings other related) (text : String)
    (given : Option Source) :
    Lockstep related (Roller.evaluate text given) (Roller.evaluate text given) := by
  apply Lockstep.bind (attuned.parseAfresh text)
  intro e
  exact .bind (attuned.evaluate given e) fun _ => .pure _

theorem evaluateDetailed (attuned : Attuned settings other related) (text : String)
    (given : Option Source) :
    Lockstep related (Roller.evaluateDetailed text given)
      (Roller.evaluateDetailed text given) := by
  apply Lockstep.bind (attuned.parseAfresh text)
  intro e
  apply Lockstep.bind (attuned.evaluateTimed given none e)
  intro _
  exact .bind (attuned.boundsOf e) fun _ => .pure _

theorem explainOutcome (attuned : Attuned settings other related) (text : String)
    (options : Option TranscriptOptions) (given : Option Source) :
    Lockstep related (Roller.explainOutcome text options given)
      (Roller.explainOutcome text options given) := by
  refine .get fun one two alike => ?_
  rw [← (attuned.twins one two alike).options]
  have scanned : ∀ one two, related one two → ∀ tokens,
      ((Roller.scan text).run one).1 = .ok tokens →
      scanText settings.maxExpressionLength text = .ok tokens :=
    fun one two alike => (keeps_scan text one (attuned.twins one two alike).first).2
  refine .bind_of_good (attuned.scan text) scanned fun tokens read => ?_
  refine .bind (attuned.parse text _ fun again same => by cases same; exact read) fun e => ?_
  refine .bind attuned.readClock fun _ => ?_
  refine .bind (attuned.evaluateTimed given _ e) fun _ => ?_
  apply Lockstep.bind attuned.readClock
  intro _
  exact .bind (attuned.boundsOf e) fun _ => .pure _

theorem explain (attuned : Attuned settings other related) (text format : String) :
    Lockstep related (Roller.explain text format) (Roller.explain text format) := by
  apply Lockstep.bind (attuned.explainOutcome text none none)
  intro _
  dsimp only
  split
  · exact .pure _
  · split
    · exact .pure _
    · exact .throw _

theorem validationErrors (attuned : Attuned settings other related) (text : String) :
    Lockstep related (Roller.validationErrors text) (Roller.validationErrors text) := by
  refine .tryCatch ?_ fun fault => ?_
  · have read : Lockstep related (discard (Roller.parse text none) : Working Unit)
        (discard (Roller.parse text none)) := (attuned.parseAfresh text).map
    exact .bind read fun _ => .pure _
  · cases fault.diagnosis? with
    | some diagnosis => exact .pure _
    | none => exact .throw fault

theorem validate (attuned : Attuned settings other related) (text : String) :
    Lockstep related (Roller.validate text) (Roller.validate text) :=
  (attuned.validationErrors text).map

theorem rollRecord (attuned : Attuned settings other related) (text : String) (seed : Int) :
    Lockstep related (Roller.rollRecord text seed) (Roller.rollRecord text seed) :=
  .bind (attuned.explainOutcome text none _) fun _ => (attuned.parseAfresh text).map

end Attuned

end Roller

/-- What a request is answered, unless it asks about the store. -/
def Answer.besideStats : Answer → Option Answer
  | stats _ => none
  | answer => some answer

namespace Roller

/-- The answers to requests one after the other, each with the roller that it leaves. -/
def history (roller : Roller) : List Request → List (Except Fault Answer × Roller)
  | [] => []
  | request :: rest =>
    let step := request.work.run roller
    step :: step.2.history rest

def observe (step : Except Fault Answer × Roller) :
    Except Fault (Option Answer) × Option Source :=
  (step.1.map Answer.besideStats, step.2.injected)

variable {settings other : Settings} {related : Roller → Roller → Prop} {one two : Roller}

theorem Attuned.step (attuned : Attuned settings other related) (together : related one two)
    (request : Request) :
    (request.work.run one).1.map Answer.besideStats =
        (request.work.run two).1.map Answer.besideStats ∧
      related (request.work.run one).2 (request.work.run two).2 := by
  have alike (answers : Lockstep related request.work request.work) :
      (request.work.run one).1.map Answer.besideStats =
          (request.work.run two).1.map Answer.besideStats ∧
        related (request.work.run one).2 (request.work.run two).2 := by
    obtain ⟨same, after⟩ := answers one two together
    exact ⟨congrArg _ same, after⟩
  cases request with
  | evaluate text given => exact alike (attuned.evaluateText text given).map
  | evaluateDetailed text given => exact alike (attuned.evaluateDetailed text given).map
  | explainOutcome text options given =>
    exact alike (attuned.explainOutcome text options given).map
  | explain text format => exact alike (attuned.explain text format).map
  | range text => exact alike (attuned.range text).map
  | validationErrors text => exact alike (attuned.validationErrors text).map
  | validate text => exact alike (attuned.validate text).map
  | parse text => exact alike (attuned.parseAfresh text).map
  | rollRecord text seed => exact alike (attuned.rollRecord text seed).map
  | clearCache => exact alike (Lockstep.modify attuned.clearCache).map
  | cacheStats => exact ⟨rfl, together⟩

theorem Twins.history_eq (twins : Twins settings other one two) (requests : List Request) :
    (one.history requests).map observe = (two.history requests).map observe := by
  induction requests generalizing one two with
  | nil => rfl
  | cons request rest ih =>
    obtain ⟨same, after⟩ := attuned_twins.step twins request
    simp only [history, List.map_cons, observe]
    rw [same, after.injected, ih after]

theorem twins_create (settings other : Settings) (options : TranscriptOptions)
    (injected : Option Source) (ambient : Source) (clock : Clock) :
    Twins settings other (create settings options injected ambient clock)
      (create (settings.storing other) options injected ambient clock) :=
  ⟨sound_create settings options injected ambient clock,
    sound_create (settings.storing other) options injected ambient clock, rfl, rfl, rfl, rfl⟩

theorem Reachable.kept {roller : Roller} (reachable : roller.Reachable) {store : Lru Expr}
    (parsed : roller.parsed = some store) {text : String} {e : Expr}
    (member : (text, e) ∈ store.entries) :
    text.length ≤ roller.lengthLimit ∧
      ∃ tokens, scanText roller.lengthLimit text = .ok tokens ∧ parseTokens tokens = .ok e := by
  have read := reachable.sound.kept store parsed text e member
  obtain ⟨tokens, scanned, built⟩ := ok_of_bind read
  refine ⟨Int.not_lt.mp fun long => ?_, tokens, scanned, built⟩
  have refused : Expr.ofText roller.settings.maxExpressionLength text = _ := ofText_of_long long
  cases refused.symm.trans read

/-- Two rollers that keep texts in stores of any sizes, or not at all, answer the same requests
    alike, one by one, and leave the injected source alike. This rests on what is ever kept: texts
    within the limit, each with the tree that its tokens give. -/
theorem history_storing_eq :
    (∀ settings other options injected ambient clock requests,
      ((create settings options injected ambient clock).history requests).map observe =
        ((create (settings.storing other) options injected ambient clock).history requests).map
          observe) ∧
    (∀ roller : Roller, roller.Reachable → ∀ store, roller.parsed = some store →
      ∀ text e, (text, e) ∈ store.entries →
        text.length ≤ roller.lengthLimit ∧
          ∃ tokens, scanText roller.lengthLimit text = .ok tokens ∧ parseTokens tokens = .ok e) := by
  constructor
  · intro settings other options injected ambient clock requests
    exact (twins_create settings other options injected ambient clock).history_eq requests
  · intro roller reachable store parsed text e member
    exact reachable.kept parsed member

theorem history_storing_evicted :
    let fresh := create { cacheSize := 1 } {} none (.ofSeed 0) ⟨fun _ => 0, 0⟩
    let roller :=
      ((Request.parse "2d6").work.run ((Request.parse "1 + 2").work.run fresh).2).2
    roller.Reachable ∧ ∃ store tokens,
      roller.parsed = some store ∧ store.keys = ["2d6"] ∧
        ("2d6", .atom (.dice ⟨2, 6⟩)) ∈ store.entries ∧ 3 ≤ roller.lengthLimit ∧
        scanText roller.lengthLimit "2d6" = .ok tokens ∧
        parseTokens tokens = .ok (.atom (.dice ⟨2, 6⟩)) := by
  intro fresh roller
  have reachable : roller.Reachable := .perform (.perform (.create _ _ _ _ _) _) _
  have entries : roller.parsed.map Lru.entries = some [("2d6", .atom (.dice ⟨2, 6⟩))] := by
    decide +kernel
  obtain ⟨store, parsed, held⟩ := Option.map_eq_some_iff.mp entries
  have member : ("2d6", Expr.atom (.dice ⟨2, 6⟩)) ∈ store.entries := by
    rw [held]
    exact List.mem_singleton_self _
  obtain ⟨short, tokens, scanned, built⟩ :=
    history_storing_eq.2 roller reachable store parsed _ _ member
  refine ⟨reachable, store, tokens, parsed, ?_, member, short, scanned, built⟩
  rw [Lru.keys, held]
  rfl

end Roller

end DiceFormula
