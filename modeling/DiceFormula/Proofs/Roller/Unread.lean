import DiceFormula.Proofs.Roller.Reachable
import Mathlib.Control.Monad.Basic

namespace DiceFormula

namespace Request

def text? : Request → Option String
  | evaluate text _ => some text
  | evaluateDetailed text _ => some text
  | explainOutcome text _ _ => some text
  | explain text _ => some text
  | range text => some text
  | validationErrors text => some text
  | validate text => some text
  | parse text => some text
  | rollRecord text _ => some text
  | clearCache => none
  | cacheStats => none

def rolledFrom (given : Option Source) (seed : Int) : Request → Request
  | evaluate text _ => evaluate text given
  | evaluateDetailed text _ => evaluateDetailed text given
  | explainOutcome text options _ => explainOutcome text options given
  | rollRecord text _ => rollRecord text seed
  | request => request

end Request

namespace Roller

variable {settings : Settings} {roller left : Roller} {text : String} {fault : Fault}

/-- Nothing has changed, or a text of permitted length has been looked up in vain: that is counted
    and written to the log. -/
def OnlyMissed (text : String) (roller left : Roller) : Prop :=
  left = roller ∨
    text.length ≤ roller.lengthLimit ∧ ∃ store, roller.parsed = some store ∧
      left = { roller with
        parsed := some { store with misses := store.misses + 1 }
        log := roller.log.push (.cacheMiss text) }

theorem onlyMissed_lookUp (short : text.length ≤ roller.lengthLimit)
    (missing : (roller.lookUp text).1 = none) :
    roller.OnlyMissed text (roller.lookUp text).2 := by
  unfold lookUp at missing ⊢
  cases parsed : roller.parsed with
  | none => exact .inl rfl
  | some store =>
    rw [parsed] at missing
    have absent : store.find? text = none := by
      rw [← Lru.get_fst]
      exact missing
    dsimp only
    rw [Lru.get_of_missing absent]
    exact .inr ⟨short, store, parsed, rfl⟩

theorem run_parse_unread (sound : roller.Sound settings)
    (unread : Expr.ofText settings.maxExpressionLength text = .error fault)
    {scanned : Option (List Token)}
    (fresh : ∀ tokens, scanned = some tokens →
      scanText settings.maxExpressionLength text = .ok tokens) :
    ∃ left, roller.OnlyMissed text left ∧
      (parse text scanned).run roller = (.error fault, left) := by
  have answer := (sound.parse_eq text fresh).trans unread
  have reads := reads_parse text scanned roller
  generalize (parse text scanned).run roller = ran at reads answer ⊢
  cases reads with
  | refused _ =>
    cases answer
    exact ⟨roller, .inl rfl, rfl⟩
  | unread measured missing _ =>
    cases answer
    exact ⟨_, onlyMissed_lookUp (length_le_of_checkLength measured) missing, rfl⟩
  | found _ _ => cases answer
  | built _ _ _ => cases answer

theorem run_scan (sound : roller.Sound settings) (text : String) :
    (scan text).run roller = (scanText settings.maxExpressionLength text, roller) := by
  rw [scan, run_bind, run_get]
  dsimp only
  rw [run_ofExcept, lengthLimit, sound.settled]

theorem run_explainOutcome_unread (sound : roller.Sound settings)
    (unread : Expr.ofText settings.maxExpressionLength text = .error fault) :
    ∃ left, roller.OnlyMissed text left ∧ ∀ options given,
      (explainOutcome text options given).run roller = (.error fault, left) := by
  have scans := run_scan sound text
  cases scanned : scanText settings.maxExpressionLength text with
  | error cause =>
    rw [scanned] at scans
    rw [Expr.ofText, scanned] at unread
    cases unread
    refine ⟨roller, .inl rfl, fun options given => ?_⟩
    rw [explainOutcome, run_bind, run_get]
    dsimp only
    rw [run_bind_of_error scans]
  | ok tokens =>
    rw [scanned] at scans
    have fresh : ∀ again, some tokens = some again →
        scanText settings.maxExpressionLength text = .ok again := by
      rintro _ ⟨rfl⟩
      exact scanned
    obtain ⟨left, missed, failed⟩ := run_parse_unread sound unread fresh
    refine ⟨left, missed, fun options given => ?_⟩
    rw [explainOutcome, run_bind, run_get]
    dsimp only
    rw [run_bind, scans]
    dsimp only
    rw [run_bind_of_error failed]

theorem run_validationErrors_unread (failed : (parse text none).run roller = (.error fault, left)) :
    ∃ answer, (validationErrors text).run roller = (answer, left) := by
  have discarded :
      (discard (parse text none) : Working Unit).run roller = (.error fault, left) := by
    rw [run_discard, failed]
    rfl
  rw [validationErrors, run_tryCatch, run_bind_of_error discarded]
  dsimp only
  cases fault.diagnosis? with
  | some diagnosis => exact ⟨_, rfl⟩
  | none => exact ⟨_, rfl⟩

theorem exists_rolledFrom (request : Request) :
    ∃ given seed, request.rolledFrom given seed = request := by
  cases request with
  | evaluate text given => exact ⟨given, 0, rfl⟩
  | evaluateDetailed text given => exact ⟨given, 0, rfl⟩
  | explainOutcome text options given => exact ⟨given, 0, rfl⟩
  | rollRecord text seed => exact ⟨none, seed, rfl⟩
  | _ => exact ⟨none, 0, rfl⟩

theorem run_work_unread (sound : roller.Sound settings)
    (unread : Expr.ofText settings.maxExpressionLength text = .error fault) {request : Request}
    (about : request.text? = some text) :
    ∃ answer left, roller.OnlyMissed text left ∧
      ∀ given seed, (request.rolledFrom given seed).work.run roller = (answer, left) := by
  have nothing : ∀ tokens, (none : Option (List Token)) = some tokens →
      scanText settings.maxExpressionLength text = .ok tokens := by simp
  obtain ⟨left, missed, failed⟩ := run_parse_unread sound unread nothing
  obtain ⟨after, little, stopped⟩ := run_explainOutcome_unread sound unread
  have refuses {α : Type} {work : Working α} {change : α → Answer} {last : Roller}
      (refused : work.run roller = (.error fault, last)) :
      (do return change (← work)).run roller = (.error fault, last) :=
    run_bind_of_error refused _
  cases request with
  | evaluate other given =>
    cases about
    exact ⟨_, left, missed, fun given _ => refuses (run_bind_of_error failed _)⟩
  | evaluateDetailed other given =>
    cases about
    exact ⟨_, left, missed, fun given _ => refuses (run_bind_of_error failed _)⟩
  | explainOutcome other options given =>
    cases about
    exact ⟨_, after, little, fun given _ => run_bind_of_error (stopped options given) _⟩
  | explain other format =>
    cases about
    exact ⟨_, after, little, fun _ _ => refuses (run_bind_of_error (stopped none none) _)⟩
  | range other =>
    cases about
    exact ⟨_, left, missed, fun _ _ => refuses (run_bind_of_error failed _)⟩
  | validationErrors other =>
    cases about
    obtain ⟨answer, ran⟩ := run_validationErrors_unread failed
    have told : (Request.validationErrors text).work.run roller =
        (answer.map .messages, left) := by
      rw [Request.work, run_return, ran]
    exact ⟨_, left, missed, fun _ _ => told⟩
  | validate other =>
    cases about
    obtain ⟨answer, ran⟩ := run_validationErrors_unread failed
    have told : (Request.validate text).work.run roller =
        ((answer.map List.isEmpty).map .verdict, left) := by
      rw [Request.work, run_return, validate, run_return, ran]
    exact ⟨_, left, missed, fun _ _ => told⟩
  | parse other =>
    cases about
    exact ⟨_, left, missed, fun _ _ => refuses failed⟩
  | rollRecord other seed =>
    cases about
    exact ⟨_, after, little, fun _ seed =>
      refuses (run_bind_of_error (stopped none (some (Source.ofSeed seed))) _)⟩
  | clearCache => cases about
  | cacheStats => cases about

/-- A request about a text without a tree leaves the roller as it was, but for a lookup in vain, and
    not even that if the text is too long. No source is drawn from: the roller's own are as they
    were, and with another source or seed the request comes to the same. -/
theorem unread_leaves_a_miss (roller : Roller) (reachable : roller.Reachable) (text : String)
    (fault : Fault) (unread : Expr.ofText roller.lengthLimit text = .error fault)
    (request : Request) (about : request.text? = some text) :
    roller.OnlyMissed text (request.work.run roller).2 ∧
      ∀ given seed, (request.rolledFrom given seed).work.run roller = request.work.run roller := by
  obtain ⟨answer, left, missed, ran⟩ := run_work_unread reachable.sound unread about
  obtain ⟨given, seed, same⟩ := exists_rolledFrom request
  have itself := ran given seed
  rw [same] at itself
  rw [itself]
  exact ⟨missed, ran⟩

theorem unread_leaves_a_miss_of_unclosed :
    let fresh := create {} {} none (.ofSeed 0) ⟨fun _ => 0, 0⟩
    let roller := ((Request.parse "1 + 2").work.run fresh).2
    let request := Request.rollRecord "(2d6" 7
    roller.Reachable ∧
      Expr.ofText roller.lengthLimit "(2d6" = .error (.parse ⟨.unmatchedOpening, 0, some "("⟩) ∧
      request.text? = some "(2d6" ∧ roller.OnlyMissed "(2d6" (request.work.run roller).2 ∧
      (∀ seed, (Request.rollRecord "(2d6" seed).work.run roller = request.work.run roller) ∧
      roller.cacheStats = ⟨1, 100, 0, 1⟩ ∧
      (request.work.run roller).2.cacheStats = ⟨1, 100, 0, 2⟩ := by
  intro fresh roller request
  have reachable : roller.Reachable := .perform (.create _ _ _ _ _) _
  have unread : Expr.ofText roller.lengthLimit "(2d6" =
      .error (.parse ⟨.unmatchedOpening, 0, some "("⟩) := by decide +kernel
  obtain ⟨missed, same⟩ := unread_leaves_a_miss roller reachable "(2d6" _ unread request rfl
  exact ⟨reachable, unread, rfl, missed, fun seed => same none seed, by decide +kernel,
    by decide +kernel⟩

end Roller

end DiceFormula
