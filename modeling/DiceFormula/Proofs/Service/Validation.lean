import DiceFormula.Proofs.Expr.Parsing
import DiceFormula.Proofs.Service.Reachable
import DiceFormula.Proofs.Token.LongNumeral

namespace DiceFormula

/-- What there is to tell of a text: nothing where it has a tree, and else what its fault says. -/
inductive Tells : Except Fault Expr → List String → Prop
  | nothing (e : Expr) : Tells (.ok e) []
  | message {fault : Fault} {diagnosis : Diagnosis} (known : fault.diagnosis? = some diagnosis) :
      Tells (.error fault) [diagnosis.message]

/-- Both of the roller's validations come to an answer, and to the right one. -/
def Roller.Answers (roller : Roller) (text : String) : Prop :=
  ∃ messages, Tells (Expr.ofText roller.lengthLimit text) messages ∧
    ((validationErrors text).run roller).1 = .ok messages ∧
    ((validate text).run roller).1 = .ok messages.isEmpty

def Service.Answers (service : Service) (roller : Roller) (text : String) : Prop :=
  ∃ messages, Tells (Expr.ofText roller.lengthLimit text) messages ∧
    ((Service.validate text).run service).1 = .ok ⟨messages.isEmpty, messages⟩

theorem tells_or_tooLong (limit : Int) (text : String) :
    (∃ messages, Tells (Expr.ofText limit text) messages) ∨
      tokenize limit text = .error .numeralTooLong := by
  cases read : Expr.ofText limit text with
  | ok e => exact .inl ⟨[], .nothing e⟩
  | error fault =>
    rcases error_of_bind read with scanned | ⟨tokens, _, parsed⟩
    · obtain ⟨cause, failed, rfl⟩ := error_of_mapError scanned
      cases cause with
      | numeralTooLong => exact .inr failed
      | _ => exact .inl ⟨_, .message rfl⟩
    · obtain ⟨cause, rfl⟩ := parse_fault_of_parseTokens parsed
      exact .inl ⟨_, .message rfl⟩

namespace Roller

variable {settings : Settings} {roller : Roller} {text : String}

theorem validationErrors_eq (sound : roller.Sound settings) (text : String) :
    ((validationErrors text).run roller).1 =
      match Expr.ofText settings.maxExpressionLength text with
      | .ok _ => .ok []
      | .error fault =>
        match fault.diagnosis? with
        | some diagnosis => .ok [diagnosis.message]
        | none => .error fault := by
  have read : ((parse text none).run roller).1 = _ := sound.parse_eq text (by simp)
  rw [validationErrors, run_tryCatch, run_bind, run_discard, ← read]
  cases (parse text none).run roller with
  | mk result left =>
    cases result with
    | ok e => rfl
    | error fault =>
      dsimp only [Except.map]
      cases fault.diagnosis? with
      | some diagnosis => rfl
      | none => rfl

theorem errors_of_tells (sound : roller.Sound settings) {messages : List String}
    (told : Tells (Expr.ofText settings.maxExpressionLength text) messages) :
    ((validationErrors text).run roller).1 = .ok messages := by
  rw [validationErrors_eq sound]
  generalize Expr.ofText settings.maxExpressionLength text = read at told
  cases told with
  | nothing e => rfl
  | message known => simp only [known]

theorem errors_of_tooLong (sound : roller.Sound settings)
    (long : tokenize settings.maxExpressionLength text = .error .numeralTooLong) :
    ((validationErrors text).run roller).1 = .error (.scan .numeralTooLong) := by
  rw [validationErrors_eq sound, Expr.ofText, scanText, long]
  rfl

theorem run_validate (roller : Roller) (text : String) :
    ((validate text).run roller).1 = ((validationErrors text).run roller).1.map List.isEmpty := by
  rw [validate, run_return]

theorem answers_iff (reachable : roller.Reachable) (text : String) :
    roller.Answers text ↔ tokenize roller.lengthLimit text ≠ .error .numeralTooLong := by
  constructor
  · rintro ⟨messages, _, told, _⟩ long
    rw [errors_of_tooLong reachable.sound long] at told
    cases told
  · intro short
    rcases tells_or_tooLong roller.lengthLimit text with ⟨messages, told⟩ | long
    · have answered := errors_of_tells reachable.sound told
      refine ⟨messages, told, answered, ?_⟩
      rw [run_validate, answered]
      rfl
    · exact absurd long short

end Roller

namespace Service

variable {service : Service} {roller : Roller} {text : String}

theorem run_validate (made : service.current = .ok roller) (text : String) :
    ((validate text).run service).1 =
      (((Roller.validationErrors text).run roller).1.mapError .formula).map
        fun errors => ⟨errors.isEmpty, errors⟩ := by
  rw [validate, run_return, run_use, made]

theorem answers_iff_roller (made : service.current = .ok roller) (text : String) :
    service.Answers roller text ↔ roller.Answers text := by
  unfold Answers Roller.Answers
  rw [run_validate made, Roller.run_validate]
  cases ((Roller.validationErrors text).run roller).1 with
  | error fault =>
    constructor
    · rintro ⟨_, _, answered⟩
      cases answered
    · rintro ⟨_, _, answered, _⟩
      cases answered
  | ok errors =>
    constructor
    · rintro ⟨messages, told, answered⟩
      have same : errors = messages := congrArg Verdict.errors (Except.ok.inj answered)
      subst same
      exact ⟨errors, told, rfl, rfl⟩
    · rintro ⟨_, told, answered, _⟩
      cases answered
      exact ⟨errors, told, rfl⟩

theorem current_of_roller (there : service.roller = some roller) :
    service.current = .ok roller := by
  rw [current, there]

end Service

theorem tokenize_ones {limit : Int} {count : Nat} {rest : List Char}
    (long : Text.longestNumeral < count) (breaks : Breaks rest)
    (condensed : Text.condense rest = rest) (room : (count + rest.length : Int) ≤ limit) :
    tokenize limit (String.ofList (List.replicate count '1' ++ rest)) =
      .error .numeralTooLong := by
  have length : (List.replicate count '1').length = count := List.length_replicate
  have numeral : IsNumeral (List.replicate count '1') := by
    refine ⟨List.ne_nil_of_length_pos (by omega), fun c member => ?_⟩
    rw [List.eq_of_mem_replicate member]
    decide
  exact tokenize_of_long numeral (by omega) breaks condensed (by omega)

theorem tokenize_never_tooLong_iff (limit : Nat) :
    (∀ text, tokenize limit text ≠ .error .numeralTooLong) ↔ limit ≤ Text.longestNumeral := by
  constructor
  · intro short
    by_contra large
    have breaks : Breaks [] := fun c first => by cases first
    refine short _ (tokenize_ones (Nat.lt_succ_self _) breaks rfl ?_)
    rw [List.length_nil]
    omega
  · intro small text long
    have large := (hasLongNumeral_of_tokenize long).2
    omega

/-- Validation answers a text, unless the scan comes upon a numeral that is too long to be read.
    That fault passes through. There is no such text just where no text may be as long as that. -/
theorem validation_answers_iff (roller : Roller) :
    (roller.Reachable →
      (∀ text, roller.Answers text ↔
        tokenize roller.lengthLimit text ≠ .error .numeralTooLong) ∧
      (∀ text, tokenize roller.lengthLimit text = .error .numeralTooLong →
        HasLongNumeral (Text.condense text.toList) ∧
          ((Roller.validationErrors text).run roller).1 = .error (.scan .numeralTooLong) ∧
          ((Roller.validate text).run roller).1 = .error (.scan .numeralTooLong)) ∧
      ((∀ text, roller.Answers text) ↔
        roller.settings.maxExpressionLength ≤ Text.longestNumeral)) ∧
    (∀ service : Service, service.Reachable → service.roller = some roller →
      (∀ text, service.Answers roller text ↔
        tokenize roller.lengthLimit text ≠ .error .numeralTooLong) ∧
      (∀ text, tokenize roller.lengthLimit text = .error .numeralTooLong →
        ((Service.validate text).run service).1 = .error (.formula (.scan .numeralTooLong))) ∧
      ((∀ text, service.Answers roller text) ↔
        roller.settings.maxExpressionLength ≤ Text.longestNumeral)) := by
  constructor
  · intro reachable
    have answers_iff := Roller.answers_iff reachable
    refine ⟨answers_iff, fun text long => ?_,
      (forall_congr' answers_iff).trans (tokenize_never_tooLong_iff _)⟩
    have failed := Roller.errors_of_tooLong reachable.sound long
    refine ⟨(hasLongNumeral_of_tokenize long).1, failed, ?_⟩
    rw [Roller.run_validate, failed]
    rfl
  · intro service reachable there
    have made := Service.current_of_roller there
    have valid := reachable.lasting roller there
    have answers_iff (text : String) : service.Answers roller text ↔
        tokenize roller.lengthLimit text ≠ .error .numeralTooLong :=
      (Service.answers_iff_roller made text).trans (Roller.answers_iff valid text)
    refine ⟨answers_iff, fun text long => ?_,
      (forall_congr' answers_iff).trans (tokenize_never_tooLong_iff _)⟩
    rw [Service.run_validate made, Roller.errors_of_tooLong valid.sound long]
    rfl

/-- With room for five thousand characters, a sum that ends in a sign is not reported if it begins
    with 4301 digits. -/
theorem validation_fails_at_long_numeral :
    let roller := Roller.create { maxExpressionLength := 5000 } {} none (.ofSeed 0) ⟨fun _ => 0, 0⟩
    let text := String.ofList (List.replicate 4301 '1' ++ ['+'])
    roller.Reachable ∧
      ((Roller.validationErrors text).run roller).1 = .error (.scan .numeralTooLong) ∧
      ((Roller.validate text).run roller).1 = .error (.scan .numeralTooLong) ∧
      ¬roller.Answers text := by
  intro roller text
  have reachable : roller.Reachable := .create _ _ _ _ _
  have breaks : Breaks ['+'] := fun c first => by
    cases first
    decide
  have long : tokenize roller.lengthLimit text = .error .numeralTooLong :=
    tokenize_ones (by decide) breaks (by decide) (by decide)
  have failed := Roller.errors_of_tooLong reachable.sound long
  refine ⟨reachable, failed, ?_, fun answered => ?_⟩
  · rw [Roller.run_validate, failed]
    rfl
  · exact (Roller.answers_iff reachable text).mp answered long

theorem validation_answers_by_default :
    let start : Service := { environment := {}, ambient := .ofSeed 0, clock := ⟨fun _ => 0, 0⟩ }
    let service := (Call.settings.serve.run start).2
    let roller := Roller.create {} {} none start.ambient start.clock
    service.Reachable ∧ service.roller = some roller ∧ (∀ text, roller.Answers text) ∧
      (∀ text, service.Answers roller text) ∧
      ((Service.validate "2d6 +").run service).1.toOption =
        some ⟨false, ["[PARSE_ERROR] Expression cannot end with an operator (position 3)"]⟩ := by
  intro start service roller
  have made : Settings.ofEnvironment {} = .ok {} := by rfl
  have there : service.roller = some roller := by
    have current : start.current = .ok roller := by
      rw [Service.current]
      show (Settings.ofEnvironment {} >>= _) = _
      rw [made]
      rfl
    show (Call.settings.serve.run start).2.roller = _
    rw [Call.serve, run_return, Service.settings, Service.run_use, current]
    rfl
  have reachable : service.Reachable := .call (.start _ _ _) .settings
  have small : roller.settings.maxExpressionLength ≤ Text.longestNumeral := by decide
  have valid : roller.Reachable := .create _ _ _ _ _
  refine ⟨reachable, there, ?_, ?_, by decide +kernel⟩
  · exact ((validation_answers_iff roller).1 valid).2.2.mpr small
  · exact ((validation_answers_iff roller).2 service reachable there).2.2.mpr small

end DiceFormula
