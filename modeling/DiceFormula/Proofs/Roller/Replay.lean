import DiceFormula.Proofs.Roller.Record
import DiceFormula.Proofs.Roller.Steady

namespace DiceFormula

def TranscriptOptions.timeLine (options : TranscriptOptions) (elapsed : Float) : String :=
  if options.includeTimestamps then
    "\n" ++ ("Execution Time: " ++ (Decimal.writeFixed 3 (.ofFloat elapsed) ++ "ms"))
  else ""

def Transcript.lines (transcript : Transcript) : List String :=
  ["Expression: " ++ transcript.subject, ""] ++
    (if transcript.showsTokens then ["Tokenization: " ++ transcript.joinTokens, ""] else []) ++
    (if transcript.showsParsing then ["Parsing: " ++ transcript.parsing, ""] else []) ++
    "Evaluation Steps:" :: transcript.steps.flatMap transcript.textStep ++
    ["", "Final Result: " ++ Decimal.writeWhole transcript.result]

theorem Transcript.lines_ne_nil (transcript : Transcript) : transcript.lines ≠ [] :=
  List.append_ne_nil_of_right_ne_nil _ (List.cons_ne_nil _ _)

theorem Transcript.toText_eq (transcript : Transcript) :
    transcript.toText = String.intercalate "\n"
      (transcript.lines ++ (transcript.shownTime.map ("Execution Time: " ++ ·)).toList) := rfl

theorem Transcript.lines_elapsed (transcript : Transcript) (elapsed : Option Float) :
    { transcript with elapsed := elapsed }.lines = transcript.lines := rfl

theorem Transcript.toText_elapsed (transcript : Transcript) (elapsed : Float) :
    { transcript with elapsed := some elapsed }.toText =
      { transcript with elapsed := none }.toText ++ transcript.options.timeLine elapsed := by
  have nonempty := transcript.lines_ne_nil
  rw [toText_eq, toText_eq, lines_elapsed _ (some elapsed), lines_elapsed _ none]
  unfold shownTime TranscriptOptions.timeLine
  dsimp only
  cases transcript.options.includeTimestamps with
  | false => simp
  | true => simp [String.intercalate_append_of_ne_nil nonempty, String.append_assoc]

/-- Records of one and the same roll: they differ in the time that their accounts tell of, if they
    differ at all. -/
structure RollRecord.SameRoll (options : TranscriptOptions) (one two : RollRecord) : Prop where
  beside : { one with explanation := two.explanation } = two
  account : ∃ account first second, one.explanation = account ++ options.timeLine first ∧
    two.explanation = account ++ options.timeLine second

inductive Replays (options : TranscriptOptions) :
    Except Fault RollRecord → Except Fault RollRecord → Prop
  | record {one two : RollRecord} (same : one.SameRoll options two) :
      Replays options (.ok one) (.ok two)
  | fault (fault : Fault) : Replays options (.error fault) (.error fault)

namespace Roller

variable {settings : Settings} {roller one two : Roller} {text : String} {e : Expr}
  {tokens : List Token}

def recordOf (text : String) (seed : Int) (e : Expr) (recorder : Recorder) (elapsed : Float)
    (told : Outcome × Trace Source) : RollRecord where
  text := text
  normalized := e.render
  seed := seed
  terms := termsOf (account recorder elapsed told).2.steps
  rolls := told.1.rolls
  bounds := told.1.bounds
  total := told.1.value
  explanation := (account recorder elapsed told).2.toText

theorem rollRecord_of_parsed (sound : roller.Sound settings) (seed : Int)
    (scanned : scanText settings.maxExpressionLength text = .ok tokens)
    (parsed : parseTokens tokens = .ok e) :
    ∃ elapsed, ((rollRecord text seed).run roller).1 =
      (roller.conclude text e elapsed (roller.rolling e (some (.ofSeed seed))
        (some (roller.opening text none tokens e)))).map
          (recordOf text seed e (roller.opening text none tokens e) elapsed) := by
  obtain ⟨elapsed, explained⟩ := explainOutcome_eq sound text none (some (.ofSeed seed))
  refine ⟨elapsed, ?_⟩
  have read : Expr.ofText settings.maxExpressionLength text = .ok e := by
    rw [Expr.ofText, scanned]
    exact parsed
  rw [rollRecord_eq sound, explained, read, scanned, ok_bind, parsed, ok_bind]
  dsimp only
  cases roller.conclude text e elapsed (roller.rolling e (some (.ofSeed seed))
    (some (roller.opening text none tokens e))) with
  | error fault => rfl
  | ok told => rfl

theorem rollRecord_of_unread (sound : roller.Sound settings) (seed : Int) {fault : Fault}
    (failed : Expr.ofText settings.maxExpressionLength text = .error fault) :
    ((rollRecord text seed).run roller).1 = .error fault := by
  obtain ⟨elapsed, explained⟩ := explainOutcome_eq sound text none (some (.ofSeed seed))
  rw [rollRecord_eq sound, explained]
  rcases error_of_bind failed with unscanned | ⟨tokens, scanned, unparsed⟩
  · rw [unscanned]
    rfl
  · rw [scanned, ok_bind, unparsed]
    rfl

/-- What a roll from a seed depends on, besides the text and the seed. -/
structure SameRules (one two : Roller) : Prop where
  rerolls : one.settings.maxRerolls = two.settings.maxRerolls
  length : one.settings.maxExpressionLength = two.settings.maxExpressionLength
  multiplier : one.settings.explodeMultiplier = two.settings.explodeMultiplier
  options : one.options = two.options

theorem SameRules.opening (same : one.SameRules two) (text : String) (tokens : List Token)
    (e : Expr) : one.opening text none tokens e = two.opening text none tokens e := by
  unfold Roller.opening
  rw [same.options]

theorem SameRules.rolling (same : one.SameRules two) (e : Expr) (source : Source)
    (recorder : Option Recorder) :
    one.rolling e (some source) recorder = two.rolling e (some source) recorder := by
  unfold Roller.rolling
  rw [same.rerolls]
  rfl

theorem SameRules.conclude (same : one.SameRules two) (text : String) (e : Expr) (elapsed : Float)
    (rolled : Except RollFault Int × Trace Source) :
    one.conclude text e elapsed rolled = two.conclude text e elapsed rolled := by
  unfold Roller.conclude
  rw [same.multiplier]

theorem options_opening (text : String) (tokens : List Token) (e : Expr) (roller : Roller) :
    (roller.opening text none tokens e).options = roller.options := by
  rw [opening, Recorder.options_noteParsing, Recorder.options_noteTokens]
  rfl

theorem sameRoll_recordOf {recorder later : Recorder} {trace : Trace Source}
    (goes : trace.recorder = some later) (value : Int) (bounds : Bounds) (metrics : Metrics)
    (seed : Int) (first second : Float) :
    let told (elapsed : Float) : Outcome × Trace Source :=
      (⟨text, value, trace.rolls.toList, bounds, elapsed, metrics⟩, trace)
    (recordOf text seed e recorder first (told first)).SameRoll later.options
      (recordOf text seed e recorder second (told second)) := by
  intro told
  let transcript := (later.noteResult value).transcript none
  have accounted (elapsed : Float) : (account recorder elapsed (told elapsed)).2 =
      { transcript with elapsed := some elapsed } := by
    unfold account
    rw [goes]
    rfl
  have written (elapsed : Float) : (account recorder elapsed (told elapsed)).2.toText =
      transcript.toText ++ later.options.timeLine elapsed := by
    rw [accounted]
    exact transcript.toText_elapsed elapsed
  refine ⟨?_, transcript.toText, first, second, written first, written second⟩
  unfold recordOf
  rw [accounted, accounted]

theorem replays_of_parsed (same : one.SameRules two) (first : one.Sound one.settings)
    (second : two.Sound two.settings) (seed : Int)
    (scanned : scanText one.settings.maxExpressionLength text = .ok tokens)
    (parsed : parseTokens tokens = .ok e) :
    Replays one.options ((rollRecord text seed).run one).1 ((rollRecord text seed).run two).1 := by
  obtain ⟨elapsed, left⟩ := rollRecord_of_parsed first seed scanned parsed
  obtain ⟨other, right⟩ := rollRecord_of_parsed second seed (same.length ▸ scanned) parsed
  rw [left, right, ← same.opening, ← same.rolling, ← same.conclude]
  unfold conclude
  cases rolled : (one.rolling e (some (.ofSeed seed)) (some (one.opening text none tokens e))).1
    with
  | error fault => exact .fault _
  | ok value =>
    cases e.bounds one.settings.explodeMultiplier with
    | error fault => exact .fault _
    | ok bounds =>
      obtain ⟨later, _, goes, extended, _⟩ := evaluate_told rfl rolled
      have kept := extended.options.trans (options_opening text tokens e one)
      rw [← kept]
      exact .record (sameRoll_recordOf goes value bounds _ seed elapsed other)

theorem replays_of_sound (same : one.SameRules two) (first : one.Sound one.settings)
    (second : two.Sound two.settings) (text : String) (seed : Int) :
    Replays one.options ((rollRecord text seed).run one).1 ((rollRecord text seed).run two).1 := by
  cases read : Expr.ofText one.settings.maxExpressionLength text with
  | error fault =>
    rw [rollRecord_of_unread first seed read,
      rollRecord_of_unread second seed (same.length ▸ read)]
    exact .fault fault
  | ok e =>
    obtain ⟨tokens, scanned, parsed⟩ := ok_of_bind read
    exact replays_of_parsed same first second seed scanned parsed

theorem steady_injected (source : Option Source) (given : Source) :
    Steady (some given) fun roller => roller.injected = source where
  store _ _ _ kept := kept
  clock _ _ kept := kept
  restore _ _ kept := kept

theorem injected_rollRecord (text : String) (seed : Int) (roller : Roller) :
    ((rollRecord text seed).run roller).2.injected = roller.injected :=
  ((steady_injected roller.injected _).rollRecord text roller rfl).1

/-- A roll from a seed depends on the text, on the seed and on these rules. What else two rollers
    are set to, what they were asked before and what other sources they have makes no difference,
    and those sources stay as they are. -/
theorem rollRecord_replays (one two : Roller) (first : one.Reachable) (second : two.Reachable)
    (same : one.SameRules two) (text : String) (seed : Int) :
    Replays one.options ((rollRecord text seed).run one).1 ((rollRecord text seed).run two).1 ∧
      ((rollRecord text seed).run one).2.injected = one.injected ∧
      ((rollRecord text seed).run two).2.injected = two.injected :=
  ⟨replays_of_sound same first.sound second.sound text seed,
    injected_rollRecord text seed one, injected_rollRecord text seed two⟩

theorem agree_single : Supply.Agree (· = 1) fun _ _ : Source => True := by
  have shown (source : Source) : (Supply.rollDie 1 source).1 = .ok 1 := by
    rw [Source.rollDie_eq]
    dsimp only
    exact source.next.1.rollDie_one
  rintro _ rfl first second _
  exact ⟨(shown first).trans (shown second).symm, trivial⟩

theorem rollRecord_of_single (sound : roller.Sound settings)
    (scanned : scanText settings.maxExpressionLength text = .ok tokens)
    (parsed : parseTokens tokens = .ok e) (single : ∀ pool ∈ e.pools, pool.sides = 1)
    {source : Source} {value : Int} {bounds : Bounds}
    (comes : (roller.rolling e (some source) (some (roller.opening text none tokens e))).1 =
      .ok value)
    (bounded : e.bounds roller.settings.explodeMultiplier = .ok bounds) (seed : Int) :
    ∃ record, ((rollRecord text seed).run roller).1 = .ok record ∧ record.total = value := by
  obtain ⟨elapsed, recorded⟩ := rollRecord_of_parsed sound seed scanned parsed
  have rolled : (roller.rolling e (some (.ofSeed seed))
      (some (roller.opening text none tokens e))).1 = .ok value := by
    rw [← comes]
    unfold rolling
    refine (sameFaces_evaluate agree_single _ single ?_ ?_).1
    · trivial
    · rfl
  rw [conclude, rolled, bounded] at recorded
  exact ⟨_, recorded, rfl⟩

theorem rollRecord_replays_five :
    let options : TranscriptOptions := { includeTimestamps := true }
    let one := ((Request.parse "2d1 + 3").work.run
      (create {} options none (.ofSeed 0) ⟨fun _ => 0, 0⟩)).2
    let two := ((Request.evaluate "2d" none).work.run
      (create { enableCaching := false, seed := some 7, maxExecutionTime := 1 } options
        (some (.twosThenOnes 8 4)) (.ofSeed 1) ⟨fun n => n.toFloat, 0⟩)).2
    one.Reachable ∧ two.Reachable ∧ one.SameRules two ∧
      ∃ first second, ((rollRecord "2d1 + 3" 42).run one).1 = .ok first ∧
        ((rollRecord "2d1 + 3" 42).run two).1 = .ok second ∧
        first.SameRoll options second ∧ first.total = 5 ∧
        ((rollRecord "2d1 + 3" 42).run two).2.injected = two.injected := by
  intro options one two
  have first : one.Reachable := .perform (.create _ _ _ _ _) _
  have second : two.Reachable := .perform (.create _ _ _ _ _) _
  have same : one.SameRules two :=
    ⟨by decide +kernel, by decide +kernel, by decide +kernel, by decide +kernel⟩
  let tokens : List Token := (scanText one.lengthLimit "2d1 + 3").toOption.getD []
  let e : Expr := .binary .add (.atom (.dice ⟨2, 1⟩)) (.atom (.number 3))
  have scanned : scanText one.settings.maxExpressionLength "2d1 + 3" = .ok tokens := by
    decide +kernel
  have parsed : parseTokens tokens = .ok e := by decide +kernel
  have comes : (one.rolling e (some (.twosThenOnes 0 0))
      (some (one.opening "2d1 + 3" none tokens e))).1 = .ok 5 := by decide +kernel
  have bounded : e.bounds one.settings.explodeMultiplier = .ok ⟨5, 5⟩ := by decide +kernel
  have shown : one.options = options := by decide +kernel
  obtain ⟨record, recorded, total⟩ :=
    rollRecord_of_single first.sound scanned parsed (by decide) comes bounded 42
  obtain ⟨replays, _, kept⟩ := rollRecord_replays one two first second same "2d1 + 3" 42
  rw [recorded, shown] at replays
  generalize again : ((rollRecord "2d1 + 3" 42).run two).1 = answer at replays
  cases replays with
  | record alike => exact ⟨first, second, same, record, _, recorded, rfl, alike, total, kept⟩

end Roller

end DiceFormula
