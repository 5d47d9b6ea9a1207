import DiceFormula.Proofs.Expr.Nesting
import DiceFormula.Proofs.Random.Face
import DiceFormula.Proofs.Roll.Faults
import DiceFormula.Proofs.Roller.Observation
import DiceFormula.Proofs.Roller.Record
import DiceFormula.Proofs.Token.LongNumeral

namespace DiceFormula

/-- What may be told of a text, or of a roll of it. -/
inductive Diagnosis.Documented (rerollLimit : Int) : Diagnosis → Prop
  | validation (detail : String) : Documented rerollLimit ⟨"VALIDATION_ERROR", detail⟩
  | tokenization (detail : String) : Documented rerollLimit ⟨"TOKENIZATION_ERROR", detail⟩
  | parse {detail : String} (recognized : ¬"Unrecognized token".toList <+: detail.toList) :
      Documented rerollLimit ⟨"PARSE_ERROR", detail⟩
  | evaluation {detail : String} (divided : "Division by zero".toList <+: detail.toList) :
      Documented rerollLimit ⟨"EVALUATION_ERROR", detail⟩
  | rerolls : Documented rerollLimit
      ⟨"MAX_REROLLS_EXCEEDED", s!"Maximum rerolls exceeded ({rerollLimit}) for a single die"⟩

inductive Fault.Documented (rerollLimit : Int) : Fault → Prop
  | tooLong (length : Nat) (limit : Int) : Documented rerollLimit (.scan (.tooLong length limit))
  | rejected (position : Nat) (fault : DiceFault) :
      Documented rerollLimit (.scan (.rejected position fault))
  | unreadable (position : Nat) (fragment : String) :
      Documented rerollLimit (.scan (.unreadable position fragment))
  | parse (fault : ParseFault) : Documented rerollLimit (.parse fault)
  | divisionByZero (dividend : Int) : Documented rerollLimit (.roll (.divisionByZero dividend))
  | divisorAlwaysZero : Documented rerollLimit (.roll .divisorAlwaysZero)
  | rerollsExhausted : Documented rerollLimit (.roll (.rerollsExhausted rerollLimit))

theorem ParseCause.summary_begins (cause : ParseCause) :
    ∃ mark rest, cause.summary.toList = mark ++ rest ∧
      mark ∈ ["Em".toList, "Ex".toList, "Une".toList, "Unm".toList, "Pa".toList] := by
  cases cause with
  | empty => exact ⟨"Em".toList, _, rfl, by decide⟩
  | leadingOperator => exact ⟨"Ex".toList, _, rfl, by decide⟩
  | trailingOperator => exact ⟨"Ex".toList, _, rfl, by decide⟩
  | unexpectedEnd => exact ⟨"Une".toList, _, rfl, by decide⟩
  | emptyGroup => exact ⟨"Em".toList, _, rfl, by decide⟩
  | nestedTooDeep =>
    exact ⟨"Pa".toList, "rentheses nested deeper than 50 levels".toList, by decide +kernel,
      by decide⟩
  | unmatchedOpening => exact ⟨"Unm".toList, _, rfl, by decide⟩
  | unmatchedClosing => exact ⟨"Unm".toList, _, rfl, by decide⟩
  | valueMissing => exact ⟨"Ex".toList, _, rfl, by decide⟩
  | unexpectedOperator symbol =>
    obtain ⟨rest, same⟩ := (begins_unexpected symbol).1
    exact ⟨"Une".toList, rest, same.symm, by decide⟩
  | unexpectedToken text =>
    obtain ⟨rest, same⟩ := (begins_unexpected text).2
    exact ⟨"Une".toList, rest, same.symm, by decide⟩

theorem ParseFault.recognized (fault : ParseFault) :
    ¬"Unrecognized token".toList <+: fault.diagnosis.detail.toList := by
  obtain ⟨mark, rest, summary, known⟩ := fault.cause.summary_begins
  have detail : fault.diagnosis.detail.toList =
      mark ++ (rest ++ " (position ".toList ++ (toString fault.position).toList ++ ")".toList) := by
    simp only [ParseFault.diagnosis, String.toList_append, ← List.append_assoc, ← summary]
    rfl
  rw [detail]
  rintro ⟨after, same⟩
  simp only [List.mem_cons, List.not_mem_nil, or_false] at known
  rcases known with rfl | rfl | rfl | rfl | rfl
  all_goals cases same

theorem Fault.Documented.diagnosis {rerollLimit : Int} {fault : Fault}
    (documented : fault.Documented rerollLimit) :
    (∃ diagnosis, fault.diagnosis? = some diagnosis ∧ diagnosis.Documented rerollLimit) ∨
      ∃ dividend, fault = .roll (.divisionByZero dividend) ∧ Text.isWritable dividend = false := by
  cases documented with
  | tooLong length limit => exact .inl ⟨_, rfl, .validation _⟩
  | rejected position fault => exact .inl ⟨_, rfl, .validation _⟩
  | unreadable position fragment => exact .inl ⟨_, rfl, .tokenization _⟩
  | parse fault => exact .inl ⟨_, rfl, .parse fault.recognized⟩
  | divisorAlwaysZero => exact .inl ⟨_, rfl, .evaluation (by decide)⟩
  | rerollsExhausted => exact .inl ⟨_, rfl, .rerolls⟩
  | divisionByZero dividend =>
    cases writable : Text.isWritable dividend with
    | false => exact .inr ⟨dividend, rfl, writable⟩
    | true =>
      have told : (Fault.roll (.divisionByZero dividend)).diagnosis? =
          some ⟨"EVALUATION_ERROR", s!"Division by zero ({dividend} / 0)"⟩ := by
        rw [Fault.diagnosis?, RollFault.diagnosis?, if_pos writable]
      refine .inl ⟨_, told, .evaluation ⟨" (".toList ++ (toString dividend).toList ++
        " / 0)".toList, ?_⟩⟩
      rw [String.toList_append, String.toList_append]
      rfl

variable {limit : Int} {text : String}

theorem documented_of_ofText {rerollLimit : Int} (short : limit ≤ Text.longestNumeral)
    {fault : Fault} (failed : Expr.ofText limit text = .error fault) :
    fault.Documented rerollLimit := by
  rcases error_of_bind failed with scanned | ⟨tokens, _, parsed⟩
  · obtain ⟨cause, stopped, rfl⟩ := error_of_mapError scanned
    cases cause with
    | tooLong length limit => exact .tooLong length limit
    | unreadable position fragment => exact .unreadable position fragment
    | rejected position fault => exact .rejected position fault
    | numeralTooLong => exact absurd (hasLongNumeral_of_tokenize stopped).2 (Int.not_lt.mpr short)
  · obtain ⟨cause, rfl⟩ := parse_fault_of_parseTokens parsed
    exact .parse cause

namespace Roller

variable {settings : Settings} {roller : Roller} {e : Expr}

def FailsWith (roller : Roller) (expected : Fault → Prop) (work : Working α) : Prop :=
  ∀ fault, (work.run roller).1 = .error fault → expected fault

/-- Rolling the text comes to a number that cannot be written. -/
def Overlong (roller : Roller) (text : String) (given : Option Source) : Prop :=
  ∃ e, Expr.ofText roller.lengthLimit text = .ok e ∧
    e.Overlong roller.settings.maxRerolls ({ supply := roller.source given } : Trace Source)

theorem expected_of_rolling (canonical : e.CanonicalNodes) (given : Option Source)
    {fault : RollFault} (failed : (roller.rolling e given none).1 = .error fault) :
    fault.Expected roller.settings.maxRerolls := by
  refine expected_of_evaluate canonical (fun pool member => ?_) rfl failed
  obtain ⟨_, least, most⟩ := canonical.pools pool member
  exact Source.shows least (Int.le_trans most mostSides_le_significandLimit)

theorem documented_of_expected {rerollLimit : Int} {fault : RollFault}
    (expected : fault.Expected rerollLimit) : (Fault.roll fault).Documented rerollLimit := by
  cases expected with
  | divisionByZero dividend => exact .divisionByZero dividend
  | rerollsExhausted => exact .rerollsExhausted

theorem fault_of_conclude {elapsed : Float} {rolled : Except RollFault Int × Trace Source}
    {fault : Fault} (canonical : e.CanonicalNodes)
    (failed : roller.conclude text e elapsed rolled = .error fault) :
    (∃ cause, rolled.1 = .error cause ∧ fault = .roll cause) ∨
      fault = .roll .divisorAlwaysZero := by
  rcases error_of_bind failed with evaluated | ⟨value, _, failed⟩
  · obtain ⟨cause, stopped, rfl⟩ := error_of_mapError evaluated
    exact .inl ⟨cause, stopped, rfl⟩
  · rcases error_of_bind failed with bounded | ⟨bounds, _, failed⟩
    · obtain ⟨cause, unbounded, rfl⟩ := error_of_mapError bounded
      exact .inr (by rw [canonical.bounds_fault unbounded])
    · cases failed

theorem documented_of_concluded {elapsed : Float} {given : Option Source} {fault : Fault}
    (canonical : e.CanonicalNodes)
    (failed : roller.conclude text e elapsed (roller.rolling e given none) = .error fault) :
    fault.Documented roller.settings.maxRerolls := by
  rcases fault_of_conclude canonical failed with ⟨cause, stopped, rfl⟩ | rfl
  · exact documented_of_expected (expected_of_rolling canonical given stopped)
  · exact .divisorAlwaysZero

theorem documented_or_overlong {elapsed : Float} {given : Option Source} {recorder : Recorder}
    {fault : Fault} (canonical : e.CanonicalNodes)
    (failed : roller.conclude text e elapsed (roller.rolling e given (some recorder)) =
      .error fault) :
    fault.Documented roller.settings.maxRerolls ∨ fault = .roll .resultTooLong ∧
      e.Overlong roller.settings.maxRerolls ({ supply := roller.source given } : Trace Source) := by
  obtain ⟨stops, alike⟩ := evaluate_unwatched roller.settings.maxRerolls e
    { supply := roller.source given } recorder
  rcases fault_of_conclude canonical failed with ⟨cause, stopped, rfl⟩ | rfl
  · by_cases long : e.Overlong roller.settings.maxRerolls
      ({ supply := roller.source given } : Trace Source)
    · have cause_eq := (stops long).symm.trans stopped
      cases cause_eq
      exact .inr ⟨rfl, long⟩
    · have silent : (roller.rolling e given none).1 = .error cause :=
        (alike long).1.symm.trans stopped
      exact .inl (documented_of_expected (expected_of_rolling canonical given silent))
  · exact .inl .divisorAlwaysZero

def Foreseen (roller : Roller) (text : String) (given : Option Source) (fault : Fault) : Prop :=
  fault.Documented roller.settings.maxRerolls ∨
    fault = .roll .resultTooLong ∧ roller.Overlong text given

section Short

variable (sound : roller.Sound roller.settings)
  (short : roller.settings.maxExpressionLength ≤ Text.longestNumeral)

include sound short

theorem failsWith_parse (text : String) :
    roller.FailsWith (Fault.Documented roller.settings.maxRerolls) (parse text none) := by
  intro fault failed
  rw [sound.parse_eq text (by simp)] at failed
  exact documented_of_ofText (Int.ofNat_le.mpr short) failed

theorem failsWith_range (text : String) :
    roller.FailsWith (Fault.Documented roller.settings.maxRerolls) (range text) := by
  intro fault failed
  rw [range_eq sound] at failed
  rcases error_of_bind failed with unread | ⟨e, read, failed⟩
  · exact documented_of_ofText (Int.ofNat_le.mpr short) unread
  · obtain ⟨cause, unbounded, rfl⟩ := error_of_mapError failed
    rw [(canonical_of_ofText read).nodes.bounds_fault unbounded]
    exact .divisorAlwaysZero

theorem failsWith_evaluate (text : String) (given : Option Source) :
    roller.FailsWith (Fault.Documented roller.settings.maxRerolls) (evaluate text given) := by
  intro fault failed
  rw [evaluate_eq sound] at failed
  rcases error_of_bind failed with unread | ⟨e, read, failed⟩
  · exact documented_of_ofText (Int.ofNat_le.mpr short) unread
  · obtain ⟨cause, stopped, rfl⟩ := error_of_mapError failed
    have canonical := (canonical_of_ofText read).nodes
    exact documented_of_expected (expected_of_rolling canonical given stopped)

theorem failsWith_evaluateDetailed (text : String) (given : Option Source) :
    roller.FailsWith (Fault.Documented roller.settings.maxRerolls)
      (evaluateDetailed text given) := by
  intro fault failed
  obtain ⟨elapsed, detailed⟩ := evaluateDetailed_eq sound text given
  rw [detailed] at failed
  rcases error_of_bind failed with unread | ⟨e, read, failed⟩
  · exact documented_of_ofText (Int.ofNat_le.mpr short) unread
  · exact documented_of_concluded (canonical_of_ofText read).nodes (error_of_map failed)

theorem failsWith_explainOutcome (text : String) (options : Option TranscriptOptions)
    (given : Option Source) :
    roller.FailsWith (roller.Foreseen text given) (explainOutcome text options given) := by
  intro fault failed
  obtain ⟨elapsed, explained⟩ := explainOutcome_eq sound text options given
  rw [explained] at failed
  rcases error_of_bind failed with unscanned | ⟨tokens, scanned, failed⟩
  · have unread : Expr.ofText roller.settings.maxExpressionLength text = .error fault := by
      rw [Expr.ofText, unscanned]
      rfl
    exact .inl (documented_of_ofText (Int.ofNat_le.mpr short) unread)
  · have read : Expr.ofText roller.settings.maxExpressionLength text = parseTokens tokens := by
      rw [Expr.ofText, scanned, ok_bind]
    rcases error_of_bind failed with unparsed | ⟨e, parsed, failed⟩
    · exact .inl (documented_of_ofText (Int.ofNat_le.mpr short) (read.trans unparsed))
    · have canonical := (canonical_of_ofText (read.trans parsed)).nodes
      rcases documented_or_overlong canonical (error_of_map failed) with documented | ⟨same, long⟩
      · exact .inl documented
      · exact .inr ⟨same, e, read.trans parsed, long⟩

theorem failsWith_explain (text : String) {format : String}
    (known : format ∈ ["text", "markdown"]) :
    roller.FailsWith (roller.Foreseen text none) (explain text format) := by
  intro fault failed
  rw [explain, run_bind] at failed
  have explained := failsWith_explainOutcome sound short text none none
  cases ran : (explainOutcome text none none).run roller with
  | mk result after =>
    cases result with
    | error other =>
      rw [ran] at failed
      cases failed
      exact explained _ (congrArg Prod.fst ran)
    | ok told =>
      rw [ran] at failed
      simp only [List.mem_cons, List.not_mem_nil, or_false] at known
      rcases known with rfl | rfl
      all_goals cases failed

theorem failsWith_rollRecord (text : String) (seed : Int) :
    roller.FailsWith (roller.Foreseen text (some (.ofSeed seed))) (rollRecord text seed) := by
  intro fault failed
  rw [rollRecord_eq sound] at failed
  rcases error_of_bind failed with unexplained | ⟨told, _, failed⟩
  · exact failsWith_explainOutcome sound short text none _ fault unexplained
  · rcases error_of_bind failed with unread | ⟨e, _, failed⟩
    · exact .inl (documented_of_ofText (Int.ofNat_le.mpr short) unread)
    · cases failed

end Short

/-- Where no numeral can be too long to be read, whatever is done with a text fails as documented:
    the text is not accepted, or it divides by zero, or it rerolls a die too often. An account may
    fail for another reason, if a number comes up that is too long to be written. -/
theorem fails_as_documented (roller : Roller) (reachable : roller.Reachable)
    (short : roller.settings.maxExpressionLength ≤ Text.longestNumeral) (text : String) :
    let documented := Fault.Documented roller.settings.maxRerolls
    roller.FailsWith documented (parse text none) ∧
    roller.FailsWith documented (range text) ∧
    (∀ given, roller.FailsWith documented (evaluate text given)) ∧
    (∀ given, roller.FailsWith documented (evaluateDetailed text given)) ∧
    (∀ options given,
      roller.FailsWith (roller.Foreseen text given) (explainOutcome text options given)) ∧
    (∀ format ∈ ["text", "markdown"],
      roller.FailsWith (roller.Foreseen text none) (explain text format)) ∧
    (∀ seed, roller.FailsWith (roller.Foreseen text (some (.ofSeed seed))) (rollRecord text seed)) ∧
    (∀ fault, documented fault →
      (∃ diagnosis, fault.diagnosis? = some diagnosis ∧
        diagnosis.Documented roller.settings.maxRerolls) ∨
      ∃ dividend, fault = .roll (.divisionByZero dividend) ∧
        Text.isWritable dividend = false) := by
  have sound := reachable.sound
  refine ⟨failsWith_parse sound short text, failsWith_range sound short text,
    failsWith_evaluate sound short text, failsWith_evaluateDetailed sound short text,
    failsWith_explainOutcome sound short text, fun format known => ?_,
    failsWith_rollRecord sound short text, fun fault documented => documented.diagnosis⟩
  exact failsWith_explain sound short text known

theorem fails_as_documented_dividing :
    let roller := create {} {} none (.twosThenOnes 0 0) ⟨fun _ => 0, 0⟩
    roller.Reachable ∧ roller.settings.maxExpressionLength ≤ Text.longestNumeral ∧
      ((evaluate "4 / 0" none).run roller).1 = .error (.roll (.divisionByZero 4)) ∧
      Fault.Documented 100 (.roll (.divisionByZero 4)) ∧
      ((range "4 / 0").run roller).1 = .error (.roll .divisorAlwaysZero) ∧
      Fault.Documented 100 (.roll .divisorAlwaysZero) ∧
      ((explain "1d1r1" "text").run roller).1 = .error (.roll (.rerollsExhausted 100)) ∧
      roller.Foreseen "1d1r1" none (.roll (.rerollsExhausted 100)) := by
  intro roller
  have reachable : roller.Reachable := .create _ _ _ _ _
  have short : roller.settings.maxExpressionLength ≤ Text.longestNumeral := by decide
  have divided : ((evaluate "4 / 0" none).run roller).1 = .error (.roll (.divisionByZero 4)) := by
    decide +kernel
  have bounded : ((range "4 / 0").run roller).1 = .error (.roll .divisorAlwaysZero) := by
    decide +kernel
  have exhausted : ((explain "1d1r1" "text").run roller).1 =
      .error (.roll (.rerollsExhausted 100)) := by decide +kernel
  obtain ⟨_, ranges, evaluates, _⟩ := fails_as_documented roller reachable short "4 / 0"
  obtain ⟨_, _, _, _, _, explains, _⟩ := fails_as_documented roller reachable short "1d1r1"
  exact ⟨reachable, short, divided, evaluates none _ divided, bounded, ranges _ bounded, exhausted,
    explains "text" (by decide) _ exhausted⟩

end Roller

end DiceFormula
