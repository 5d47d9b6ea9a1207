import DiceFormula.Proofs.Expr.Reading
import DiceFormula.Proofs.Token.Lossless

namespace DiceFormula

structure ParseFault.Names (fault : ParseFault) (token : Token) : Prop where
  position : fault.position = token.position
  text : fault.token = some token.text

/-- Among the tokens the fault names a parenthesis, before which so many groups are open. -/
def ParseFault.Blames (fault : ParseFault) (tokens : List Token) (isOpen : Bool) (depth : Nat) :
    Prop :=
  ∃ before token after, tokens = before ++ token :: after ∧ fault.Names token ∧
    token.lexeme = .paren isOpen ∧ Nested before depth

/-- Faults that have to do with the nesting are told from how deep it is. -/
structure ParseFault.Diagnoses (fault : ParseFault) (tokens : List Token) : Prop where
  unmatched : fault.cause = .unmatchedClosing → fault.Blames tokens false 0
  missing : fault.cause = .valueMissing → ∃ depth, fault.Blames tokens false (depth + 1)
  deep : fault.cause = .nestedTooDeep → fault.Blames tokens true deepestNesting

variable {tokens : List Token} {fault : ParseFault}

theorem Reading.Refuses.diagnoses {stop : Int} {reading : Reading} {before rest : List Token}
    (refuses : reading.Refuses stop rest fault) (opened : Opened before reading.groups) :
    fault.Diagnoses (before ++ rest) := by
  have nested := opened.nested
  cases refuses with
  | unexpectedEnd => exact ⟨nofun, nofun, nofun⟩
  | unexpectedOperator lexeme => exact ⟨nofun, nofun, nofun⟩
  | @unmatchedClosing reading token rest closes none =>
    rw [none] at nested
    exact ⟨fun _ => ⟨before, token, rest, rfl, ⟨rfl, rfl⟩, closes, nested⟩, nofun, nofun⟩
  | @valueMissing group outer level token rest closes =>
    exact ⟨nofun, fun _ => ⟨_, before, token, rest, rfl, ⟨rfl, rfl⟩, closes, nested⟩, nofun⟩
  | emptyGroup opens closes => exact ⟨nofun, nofun, nofun⟩
  | @nestedTooDeep groups level token rest opens filled deep =>
    have full : groups.length = deepestNesting := Nat.le_antisymm opened.shallow deep
    rw [Reading.groups, full] at nested
    exact ⟨nofun, nofun, fun _ => ⟨before, token, rest, rfl, ⟨rfl, rfl⟩, opens, nested⟩⟩
  | unclosed => exact ⟨nofun, nofun, nofun⟩
  | @cannotFollow groups sum term token rest strange =>
    cases groups with
    | nil => exact ⟨nofun, nofun, nofun⟩
    | cons group outer => exact ⟨nofun, nofun, nofun⟩

theorem diagnoses_of_ofTokens (failed : Expr.ofTokens tokens = .error fault) :
    fault.Diagnoses tokens := by
  cases Expr.rejects_of_ofTokens failed with
  | empty nothing => exact ⟨nofun, nofun, nofun⟩
  | leading begins sign => exact ⟨nofun, nofun, nofun⟩
  | trailing ends sign => exact ⟨nofun, nofun, nofun⟩
  | refused split ends taken refuses =>
    rw [split]
    exact refuses.diagnoses (opened_of_takesAll taken)

theorem ParseCause.begins_unexpected (text : String) :
    "Une".toList <+: (unexpectedOperator text).summary.toList ∧
      "Une".toList <+: (unexpectedToken text).summary.toList := by
  constructor
  · refine ⟨"xpected operator '".toList ++ text.toList ++ "'".toList, ?_⟩
    show _ = ("Unexpected operator '" ++ text ++ "'").toList
    rw [String.toList_append, String.toList_append]
    rfl
  · refine ⟨"xpected token '".toList ++ text.toList ++ "'".toList, ?_⟩
    show _ = ("Unexpected token '" ++ text ++ "'").toList
    rw [String.toList_append, String.toList_append]
    rfl

theorem ParseCause.eq_of_summary {cause told : ParseCause}
    (nesting : told ∈ [unmatchedOpening, unmatchedClosing, valueMissing, nestedTooDeep])
    (same : cause.summary = told.summary) : cause = told := by
  have expected : ∀ told ∈ [unmatchedOpening, unmatchedClosing, valueMissing, nestedTooDeep],
      ¬"Une".toList <+: told.summary.toList := by decide +kernel
  have distinct : ∀ told ∈ [unmatchedOpening, unmatchedClosing, valueMissing, nestedTooDeep],
      ∀ cause ∈ [empty, leadingOperator, trailingOperator, unexpectedEnd, emptyGroup, nestedTooDeep,
        unmatchedOpening, unmatchedClosing, valueMissing],
      cause.summary = told.summary → cause = told := by decide +kernel
  cases cause with
  | unexpectedOperator text => exact absurd (same ▸ (begins_unexpected text).1) (expected _ nesting)
  | unexpectedToken text => exact absurd (same ▸ (begins_unexpected text).2) (expected _ nesting)
  | _ => exact distinct _ nesting _ (by decide) same

theorem positions_ascend {limit : Int} {text : String}
    (scanned : tokenize limit text = .ok tokens) :
    tokens.Pairwise fun one other => one.position < other.position := by
  have cut := ((tokenize_eq_ok_iff text tokens).mp scanned).2
  have ascending : tokens.IsChain fun one other => one.position < other.position := by
    refine cut.contiguous.imp_of_mem_imp fun one other member _ next => ?_
    have long : one.text.length ≠ 0 :=
      fun none => cut.nonempty one member (String.length_eq_zero_iff.mp none)
    rw [next, Token.stop]
    omega
  have : Trans (fun one other : Token => one.position < other.position)
      (fun one other : Token => one.position < other.position)
      (fun one other : Token => one.position < other.position) := ⟨Int.lt_trans⟩
  exact ascending.pairwise

/-- What is told of the parentheses of a text agrees with how they are nested: a closing one has no
    partner, or stands in a group that is still open, or an opening one stands in fifty of them. -/
theorem nesting_diagnosed {limit : Int} {text : String}
    (scanned : tokenize limit text = .ok tokens) (failed : Expr.ofTokens tokens = .error fault) :
    (tokens.Pairwise fun one other => one.position < other.position) ∧
    (fault.cause.summary = "Unmatched closing parenthesis" →
      ∃ before token after, tokens = before ++ token :: after ∧ fault.Names token ∧
        token.lexeme = .paren false ∧ openings before = closings before ∧
        NeverOverclosed before) ∧
    (fault.cause.summary = "Expected a value before closing parenthesis" →
      ∃ before token after, tokens = before ++ token :: after ∧ fault.Names token ∧
        token.lexeme = .paren false ∧ closings before < openings before) ∧
    (fault.cause.summary = "Parentheses nested deeper than 50 levels" →
      ∃ before token after, tokens = before ++ token :: after ∧ fault.Names token ∧
        token.lexeme = .paren true ∧ stillOpen before = 50) := by
  have diagnosed := diagnoses_of_ofTokens failed
  refine ⟨positions_ascend scanned, fun told => ?_, fun told => ?_, fun told => ?_⟩
  · obtain ⟨before, token, after, split, named, closes, nested⟩ :=
      diagnosed.unmatched (ParseCause.eq_of_summary (by decide) told)
    cases nested with
    | balanced balanced =>
      exact ⟨before, token, after, split, named, closes, balanced.even, balanced.sane⟩
  · obtain ⟨depth, before, token, after, split, named, closes, nested⟩ :=
      diagnosed.missing (ParseCause.eq_of_summary (by decide) told)
    have opened := nested.openings_eq
    exact ⟨before, token, after, split, named, closes, by omega⟩
  · have summary : ParseCause.nestedTooDeep.summary =
        "Parentheses nested deeper than 50 levels" := by decide +kernel
    obtain ⟨before, token, after, split, named, opens, nested⟩ :=
      diagnosed.deep (ParseCause.eq_of_summary (by decide) (told.trans summary.symm))
    exact ⟨before, token, after, split, named, opens, nested.stillOpen_eq⟩

/-- `(1)+2)` has a parenthesis too many, `((2)*)` leaves out an operand, and of fifty-one groups in
    one another the last is refused. -/
theorem nesting_diagnosed_in_each_way :
    let leftover : List Token := [⟨"(", 0, .paren true⟩, ⟨"1", 1, .atom (.number 1)⟩,
      ⟨")", 2, .paren false⟩, ⟨"+", 3, .operator .add⟩, ⟨"2", 4, .atom (.number 2)⟩,
      ⟨")", 5, .paren false⟩]
    let missing : List Token := [⟨"(", 0, .paren true⟩, ⟨"(", 1, .paren true⟩,
      ⟨"2", 2, .atom (.number 2)⟩, ⟨")", 3, .paren false⟩, ⟨"*", 4, .operator .multiply⟩,
      ⟨")", 5, .paren false⟩]
    let deep : List Token := (List.range 51).map (fun n => ⟨"(", n, .paren true⟩) ++
      [⟨"1", 51, .atom (.number 1)⟩]
    let unmatched : ParseFault := ⟨.unmatchedClosing, 5, some ")"⟩
    let noValue : ParseFault := ⟨.valueMissing, 5, some ")"⟩
    let tooDeep : ParseFault := ⟨.nestedTooDeep, 50, some "("⟩
    (Expr.ofTokens leftover = .error unmatched ∧
      ∃ before token after, leftover = before ++ token :: after ∧ unmatched.Names token ∧
        token.lexeme = .paren false ∧ openings before = closings before ∧
        NeverOverclosed before) ∧
    (Expr.ofTokens missing = .error noValue ∧
      ∃ before token after, missing = before ++ token :: after ∧ noValue.Names token ∧
        token.lexeme = .paren false ∧ closings before < openings before) ∧
    (Expr.ofTokens deep = .error tooDeep ∧
      ∃ before token after, deep = before ++ token :: after ∧ tooDeep.Names token ∧
        token.lexeme = .paren true ∧ stillOpen before = 50) := by
  intro leftover missing deep unmatched noValue tooDeep
  have leftoverRead : tokenize defaultLengthLimit "(1)+2)" = .ok leftover := by decide +kernel
  have missingRead : tokenize defaultLengthLimit "((2)*)" = .ok missing := by decide +kernel
  have deepRead : tokenize defaultLengthLimit (String.ofList (List.replicate 51 '(' ++ ['1'])) =
      .ok deep := by decide +kernel
  have leftoverFails : Expr.ofTokens leftover = .error unmatched := by decide +kernel
  have missingFails : Expr.ofTokens missing = .error noValue := by decide +kernel
  have deepFails : Expr.ofTokens deep = .error tooDeep := by decide +kernel
  exact ⟨⟨leftoverFails, (nesting_diagnosed leftoverRead leftoverFails).2.1 rfl⟩,
    ⟨missingFails, (nesting_diagnosed missingRead missingFails).2.2.1 rfl⟩,
    ⟨deepFails, (nesting_diagnosed deepRead deepFails).2.2.2 (by decide +kernel)⟩⟩

end DiceFormula
