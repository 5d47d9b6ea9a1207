import DiceFormula.Proofs.Lru.Inclusion
import DiceFormula.Proofs.Roller.Caching
import DiceFormula.Proofs.Roller.Steady
import Mathlib.Control.Monad.Basic

namespace DiceFormula

namespace Roller

variable {settings other : Settings} {roller one two : Roller} {text : String}

def lookups (roller : Roller) : List (String × Bool) := lookupsOf roller.log

theorem lookups_emit (event : LogEvent) (roller : Roller) :
    (roller.emit event).lookups = roller.lookups ++ event.lookup?.toList := by
  have told : (roller.emit event).lookups =
      roller.lookups ++ [event].filterMap LogEvent.lookup? := lookupsOf_append roller.log [event]
  rw [told]
  cases lookup : event.lookup? with
  | none => simp [lookup]
  | some pair => simp [lookup]

theorem emitEvicted_leaves (evicted : List String) (roller : Roller) :
    let left := evicted.foldl (fun roller key => roller.emit (.evicted key)) roller
    left.parsed = roller.parsed ∧ left.lookups = roller.lookups := by
  induction evicted generalizing roller with
  | nil => exact ⟨rfl, rfl⟩
  | cons key others ih =>
    obtain ⟨parsed, lookups⟩ := ih (roller.emit (.evicted key))
    rw [lookups_emit] at lookups
    exact ⟨parsed, lookups.trans (List.append_nil _)⟩

theorem keep_leaves {store : Lru Expr} (parsed : roller.parsed = some store) (text : String)
    (e : Expr) :
    (roller.keep text e).parsed = some (store.put text e).2 ∧
      (roller.keep text e).lookups = roller.lookups := by
  unfold keep
  rw [parsed]
  exact emitEvicted_leaves (store.put text e).1
    { roller with parsed := some (store.put text e).2 }

theorem lookUp_leaves {store : Lru Expr} (parsed : roller.parsed = some store) (text : String) :
    (roller.lookUp text).1 = store.find? text ∧
      (roller.lookUp text).2.parsed = some (store.get text).2 ∧
      (roller.lookUp text).2.lookups =
        roller.lookups ++ [(text, (store.find? text).isSome)] := by
  rw [← Lru.get_fst]
  unfold lookUp
  rw [parsed]
  refine ⟨rfl, rfl, ?_⟩
  dsimp only
  rw [lookups_emit]
  cases (store.get text).1 with
  | none => rfl
  | some e => rfl

theorem parse_visits (sound : roller.Sound settings) {store : Lru Expr}
    (parsed : roller.parsed = some store) (short : text.length ≤ roller.lengthLimit)
    {scanned : Option (List Token)}
    (fresh : ∀ tokens, scanned = some tokens →
      scanText settings.maxExpressionLength text = .ok tokens) :
    ((parse text scanned).run roller).2.parsed =
        some (store.visit text (Expr.ofText settings.maxExpressionLength text).toOption) ∧
      ((parse text scanned).run roller).2.lookups =
        roller.lookups ++ [(text, (store.find? text).isSome)] := by
  obtain ⟨result, looked, told⟩ := lookUp_leaves parsed text
  have builds := sound.build_eq fresh
  have reads := reads_parse text scanned roller
  generalize (parse text scanned).run roller = ran at reads ⊢
  cases reads with
  | refused measured =>
    cases (checkLength_of_le short).symm.trans measured
  | found _ held =>
    have found := result.symm.trans held
    rw [looked, Lru.visit_of_found found, Lru.get_of_found found]
    exact ⟨rfl, told⟩
  | unread _ missing failed =>
    have absent := result.symm.trans missing
    rw [looked, ← builds, failed, Except.toOption, Lru.visit_of_missing absent,
      Lru.get_of_missing absent]
    exact ⟨rfl, told⟩
  | built _ missing done =>
    have absent := result.symm.trans missing
    obtain ⟨kept, still⟩ := keep_leaves looked text _
    rw [kept, still, ← builds, done, Except.toOption, Lru.visit_and_put absent,
      Lru.get_of_missing absent]
    exact ⟨rfl, told⟩

theorem parse_refused (long : roller.lengthLimit < text.length) (scanned : Option (List Token)) :
    ((parse text scanned).run roller).2 = roller := by
  have refused := checkLength_of_lt long
  have reads := reads_parse text scanned roller
  generalize (parse text scanned).run roller = ran at reads ⊢
  cases reads with
  | refused _ => rfl
  | found measured _ => cases refused.symm.trans measured
  | unread measured _ _ => cases refused.symm.trans measured
  | built measured _ _ => cases refused.symm.trans measured

/-- Twins that keep texts, the second in a store with more room; what the first has found, the
    second has found too. -/
structure Roomier (settings other : Settings) (one two : Roller) : Prop
    extends Twins settings other one two where
  stores : ∃ few many, one.parsed = some few ∧ two.parsed = some many ∧
    few.capacity = settings.cacheSize ∧ few.Included many
  lookups : List.Forall₂ (fun first second => first.1 = second.1 ∧ (first.2 → second.2))
    one.lookups two.lookups

namespace Roomier

theorem frame {left right : Roller} (roomier : Roomier settings other one two)
    (twins : Twins settings other left right)
    (first : left.parsed = one.parsed ∧ left.lookups = one.lookups)
    (second : right.parsed = two.parsed ∧ right.lookups = two.lookups) :
    Roomier settings other left right := by
  refine ⟨twins, ?_, ?_⟩
  · rw [first.1, second.1]
    exact roomier.stores
  · rw [first.2, second.2]
    exact roomier.lookups

theorem parse (roomier : Roomier settings other one two) (text : String)
    {scanned : Option (List Token)}
    (fresh : ∀ tokens, scanned = some tokens →
      scanText settings.maxExpressionLength text = .ok tokens) :
    Roomier settings other ((Roller.parse text scanned).run one).2
      ((Roller.parse text scanned).run two).2 := by
  have twins := (lockstep_parse text fresh one two roomier.toTwins).2
  have limit : one.lengthLimit = settings.maxExpressionLength := by
    rw [lengthLimit, roomier.first.settled]
  have same : two.lengthLimit = settings.maxExpressionLength := by
    rw [lengthLimit, roomier.second.settled]
    rfl
  by_cases short : (text.length : Int) ≤ settings.maxExpressionLength
  · obtain ⟨few, many, fewer, more, size, included⟩ := roomier.stores
    obtain ⟨left, told⟩ := parse_visits roomier.first fewer (limit ▸ short) fresh
    obtain ⟨right, retold⟩ := parse_visits roomier.second more (same ▸ short) fresh
    have unknown (treeless : (Expr.ofText settings.maxExpressionLength text).toOption = none) :
        many.find? text = none := by
      cases found : many.find? text with
      | none => rfl
      | some e =>
        have built := roomier.second.kept many more text e (Lru.mem_of_find found)
        have known : (Expr.ofText settings.maxExpressionLength text).toOption = some e :=
          congrArg Except.toOption built
        rw [known] at treeless
        cases treeless
    have inBoth (hit : (few.find? text).isSome) : (many.find? text).isSome := by
      rw [← Lru.get_fst, Lru.isSome_get_iff] at hit ⊢
      exact included.mem hit
    refine ⟨twins, ⟨_, _, left, right, ?_, included.visit unknown⟩, ?_⟩
    · rw [Lru.capacity_visit, size]
    · rw [told, retold]
      exact List.rel_append roomier.lookups (.cons ⟨rfl, inBoth⟩ .nil)
  · rw [parse_refused (limit ▸ Int.not_le.mp short), parse_refused (same ▸ Int.not_le.mp short)]
    exact roomier

theorem clearCache (roomier : Roomier settings other one two) :
    Roomier settings other one.clearCache two.clearCache := by
  obtain ⟨few, many, fewer, more, size, included⟩ := roomier.stores
  refine ⟨roomier.toTwins.clearCache, ⟨few.clear, many.clear, ?_, ?_, size, included.clear⟩,
    roomier.lookups⟩
  · rw [Roller.clearCache, fewer]
    rfl
  · rw [Roller.clearCache, more]
    rfl

theorem create (options : TranscriptOptions) (injected : Option Source) (ambient : Source)
    (clock : Clock) (caches : settings.enableCaching) (alsoCaches : other.enableCaching)
    (roomy : settings.cacheSize ≤ other.cacheSize) :
    Roomier settings other (Roller.create settings options injected ambient clock)
      (Roller.create (settings.storing other) options injected ambient clock) := by
  refine ⟨twins_create settings other options injected ambient clock, ?_, .nil⟩
  have larger : (settings.storing other).enableCaching := alsoCaches
  rw [Roller.create, Roller.create, if_pos caches, if_pos larger]
  exact ⟨_, _, rfl, rfl, rfl, roomy, ⟨[], .nil rfl, .nil rfl⟩, Nat.le_refl 0, Nat.le_refl 0⟩

end Roomier

theorem roomier_runSession (given : Option Source) (recorder : Option Recorder)
    {work : Session → Except RollFault α × Session} (ignores : Session.IgnoresLog work)
    (quiet : ∀ session, lookupsOf (work session).2.log = lookupsOf session.log) :
    Lockstep (Roomier settings other) (runSession given recorder work)
      (runSession given recorder work) := by
  intro one two roomier
  obtain ⟨same, twins⟩ := lockstep_runSession given recorder ignores one two roomier.toTwins
  have leaves (roller : Roller) :
      ((runSession given recorder work).run roller).2.parsed = roller.parsed ∧
        ((runSession given recorder work).run roller).2.lookups = roller.lookups := by
    let session := (work (roller.session given recorder)).2
    obtain ⟨_, _, same⟩ := restore_besideSources given session.trace.supply roller
    have untouched : (roller.restore given session.trace.supply).parsed = roller.parsed := by
      rw [same]
    exact ⟨untouched, quiet (roller.session given recorder)⟩
  exact ⟨same, roomier.frame twins (leaves one) (leaves two)⟩

theorem attuned_roomier : Attuned settings other (Roomier settings other) where
  twins _ _ roomier := roomier.toTwins
  parse text scanned fresh one two roomier :=
    ⟨(lockstep_parse text fresh one two roomier.toTwins).1, roomier.parse text fresh⟩
  readClock one two roomier := by
    obtain ⟨same, twins⟩ := lockstep_readClock one two roomier.toTwins
    exact ⟨same, roomier.frame twins ⟨rfl, rfl⟩ ⟨rfl, rfl⟩⟩
  evaluate given e :=
    roomier_runSession given none (Session.evaluate_ignoresLog e) fun _ => rfl
  evaluateTimed given recorder e :=
    roomier_runSession given recorder (Session.evaluateTimed_ignoresLog e)
      (Session.lookupsOf_evaluateTimed e)
  clearCache _ _ roomier := roomier.clearCache

theorem Roomier.after (roomier : Roomier settings other one two) (requests : List Request) :
    Roomier settings other (one.after requests) (two.after requests) := by
  induction requests generalizing one two with
  | nil => exact roomier
  | cons request rest ih => exact ih (attuned_roomier.step roomier request).2

/-- After any requests, a store with less room holds what was touched last in one with more; what
    has been found in the smaller store, time after time, has been found in the larger one. -/
theorem larger_store_finds_more (settings other : Settings) (caches : settings.enableCaching)
    (alsoCaches : other.enableCaching) (roomy : settings.cacheSize ≤ other.cacheSize)
    (options : TranscriptOptions) (injected : Option Source) (ambient : Source) (clock : Clock)
    (requests : List Request) :
    let small := (create settings options injected ambient clock).after requests
    let large := (create (settings.storing other) options injected ambient clock).after requests
    (∃ few many, small.parsed = some few ∧ large.parsed = some many ∧
      few.keys = many.keys.rtake settings.cacheSize ∧
      few.hits ≤ many.hits ∧ many.misses ≤ few.misses) ∧
    List.Forall₂ (fun first second => first.1 = second.1 ∧ (first.2 → second.2))
      small.lookups large.lookups := by
  intro small large
  have roomier : Roomier settings other small large :=
    (Roomier.create options injected ambient clock caches alsoCaches roomy).after requests
  obtain ⟨few, many, fewer, more, size, included⟩ := roomier.stores
  refine ⟨⟨few, many, fewer, more, ?_, included.hits, included.misses⟩, roomier.lookups⟩
  rw [← size]
  exact included.keys_eq

theorem larger_store_finds_more_of_two :
    let one : Settings := { cacheSize := 1 }
    let two : Settings := { cacheSize := 2 }
    let requests := [Request.parse "1 + 2", .range "2d6", .parse "1 + 2", .validate "(2d6"]
    let small := (create one {} none (.ofSeed 0) ⟨fun _ => 0, 0⟩).after requests
    let large := (create (one.storing two) {} none (.ofSeed 0) ⟨fun _ => 0, 0⟩).after requests
    (∃ few many, small.parsed = some few ∧ large.parsed = some many ∧
      few.keys = ["1 + 2"] ∧ many.keys = ["2d6", "1 + 2"] ∧ few.keys = many.keys.rtake 1 ∧
      few.hits ≤ many.hits ∧ many.misses ≤ few.misses) ∧
    small.lookups = [("1 + 2", false), ("2d6", false), ("1 + 2", false), ("(2d6", false)] ∧
    large.lookups = [("1 + 2", false), ("2d6", false), ("1 + 2", true), ("(2d6", false)] := by
  intro one two requests small large
  obtain ⟨⟨few, many, fewer, more, last, hits, misses⟩, _⟩ :=
    larger_store_finds_more one two rfl rfl (by decide) {} none (.ofSeed 0) ⟨fun _ => 0, 0⟩
      requests
  have small_keys : small.parsed.map Lru.keys = some ["1 + 2"] := by decide +kernel
  have large_keys : large.parsed.map Lru.keys = some ["2d6", "1 + 2"] := by decide +kernel
  rw [fewer] at small_keys
  rw [more] at large_keys
  exact ⟨⟨few, many, fewer, more, Option.some.inj small_keys, Option.some.inj large_keys, last,
    hits, misses⟩, by decide +kernel, by decide +kernel⟩

end Roller

end DiceFormula
