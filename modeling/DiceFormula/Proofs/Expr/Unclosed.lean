import DiceFormula.Proofs.Expr.Nesting
import DiceFormula.Proofs.Expr.Parsing

namespace DiceFormula

def Completable (tokens : List Token) : Prop :=
  ∃ (e : Expr) (depth : Nat),
    e.Explains (tokens.map Token.lexeme ++ List.replicate depth (.paren false))

/-- The tokens can be read up to here, in a group that was opened and not closed; and nothing comes
    next, or something that cannot go on. -/
structure BrokenOff (before : List Token) (opening : Token) (inner rest : List Token) : Prop where
  opens : opening.lexeme = .paren true
  inside : Balanced inner
  complete : Completable (before ++ opening :: inner)
  stops : ∀ token, rest.head? = some token → ¬token.Continues
  ends : ∀ token, rest.getLast? = some token → ¬token.IsOperator

variable {tokens before read inner rest : List Token} {opening : Token} {fault : ParseFault}

namespace Reading

variable {stop : Int} {reading : Reading}

theorem Refuses.of_unmatchedOpening (refuses : Refuses stop reading rest fault)
    (cause : fault.cause = .unmatchedOpening) :
    ∃ group outer sum term, reading = operator (group :: outer) sum term ∧
      fault = ⟨.unmatchedOpening, group.opening.position, some group.opening.text⟩ ∧
      ∀ token, rest.head? = some token → ¬token.Continues := by
  cases refuses with
  | @unclosed group outer sum term =>
    refine ⟨group, outer, sum, term, rfl, rfl, fun first begins => ?_⟩
    cases begins
  | @cannotFollow groups sum term token rest strange =>
    cases groups with
    | nil => cases cause
    | cons group outer =>
      refine ⟨group, outer, sum, term, rfl, rfl, fun first begins => ?_⟩
      cases begins
      exact strange
  | _ => cases cause

theorem Refuses.of_unexpectedToken {text : String} (refuses : Refuses stop reading rest fault)
    (cause : fault.cause = .unexpectedToken text) :
    reading.groups = [] ∧ ∃ token after, rest = token :: after ∧ fault.Names token := by
  cases refuses with
  | @cannotFollow groups sum term token rest strange =>
    cases groups with
    | nil => exact ⟨rfl, token, rest, rfl, rfl, rfl⟩
    | cons group outer => cases cause
  | _ => cases cause

theorem parse_closings (stop : Int) {closing : Token} (closes : closing.lexeme = .paren false)
    (groups : List Group) (sum : Option (Expr × Operator)) (term : Expr) :
    ∃ e, (operator groups sum term).parse stop (List.replicate groups.length closing) = .ok e := by
  induction groups generalizing sum term with
  | nil => exact ⟨complete sum term, rfl⟩
  | cons group outer ih =>
    rw [List.length_cons, List.replicate_succ, parse_of_takes (.closing closes)]
    · exact ih _ _
    · rw [closes]
      exact nofun

end Reading

theorem completable_iff :
    Completable tokens ↔
      ∃ groups sum term, Reading.start.TakesAll tokens (.operator groups sum term) := by
  obtain ⟨closing, closes⟩ : ∃ closing : Token, closing.lexeme = .paren false :=
    ⟨⟨")", 0, .paren false⟩, rfl⟩
  have lexemes (depth : Nat) :
      (tokens ++ List.replicate depth closing).map Token.lexeme =
        tokens.map Token.lexeme ++ List.replicate depth (.paren false) := by
    rw [List.map_append, List.map_replicate, closes]
  constructor
  · rintro ⟨e, depth, explained⟩
    rw [← lexemes, ← parseTokens_eq_ok_iff] at explained
    have parsed := Expr.parse_of_ofTokens (ok_of_mapError explained)
    obtain ⟨sum, term, _, all⟩ := Reading.takesAll_of_parse parsed
    obtain ⟨next, taken, closed⟩ := all.split
    cases next with
    | operator groups sum term => exact ⟨groups, sum, term, taken⟩
    | operand groups level =>
      cases depth with
      | zero => cases closed
      | succ depth =>
        cases closed with
        | cons takes on => exact absurd closes (Reading.not_closing_of_takes takes)
  · rintro ⟨groups, sum, term, taken⟩
    have final : ∀ token, (List.replicate groups.length closing).getLast? = some token →
        ¬token.IsOperator := by
      rintro token last ⟨sign, lexeme⟩
      have same : token = closing := List.eq_of_mem_replicate (List.mem_of_getLast? last)
      rw [same, closes] at lexeme
      cases lexeme
    obtain ⟨e, parsed⟩ := Reading.parse_closings
      (endOf (tokens ++ List.replicate groups.length closing)) closes groups sum term
    rw [← Expr.ofTokens_of_takesAll taken final] at parsed
    refine ⟨e, groups.length, ?_⟩
    rw [← lexemes, ← parseTokens_eq_ok_iff, parseTokens, parsed]
    rfl

theorem Opened.innermost {groups : List Group} (opened : Opened (before ++ opening :: inner) groups)
    (opens : opening.lexeme = .paren true) (inside : Balanced inner) :
    ∃ group outer, groups = group :: outer ∧ group.opening = opening := by
  generalize whole : before ++ opening :: inner = tokens at opened
  cases opened with
  | balanced balanced =>
    rw [← whole] at balanced
    exact absurd balanced (not_balanced_of_opening opens inside.sane)
  | @within around within group outer _ begins room balanced =>
    refine ⟨group, outer, rfl, ?_⟩
    -- Were they two parentheses, the later one would stand in what is balanced after the other.
    rcases List.append_eq_append_iff.mp whole with ⟨between, _, later⟩ | ⟨between, _, later⟩
    · cases between with
      | nil => exact (List.cons.inj later).1.symm
      | cons first between =>
        have inner_eq : inner = between ++ group.opening :: within := (List.cons.inj later).2
        rw [inner_eq] at inside
        exact absurd inside (not_balanced_of_opening begins balanced.sane)
    · cases between with
      | nil => exact (List.cons.inj later).1
      | cons first between =>
        have within_eq : within = between ++ opening :: inner := (List.cons.inj later).2
        rw [within_eq] at balanced
        exact absurd balanced (not_balanced_of_opening opens inside.sane)

theorem brokenOff_of_takesAll {group : Group} {outer : List Group}
    {sum : Option (Expr × Operator)} {term : Expr}
    (taken : Reading.start.TakesAll read (.operator (group :: outer) sum term))
    (stops : ∀ token, rest.head? = some token → ¬token.Continues)
    (ends : ∀ token, rest.getLast? = some token → ¬token.IsOperator) :
    ∃ before inner, read = before ++ group.opening :: inner ∧
      BrokenOff before group.opening inner rest := by
  have complete : Completable read := completable_iff.mpr ⟨_, sum, term, taken⟩
  cases opened_of_takesAll taken with
  | within around opens room balanced =>
    exact ⟨_, _, rfl, opens, balanced, complete, stops, ends⟩

theorem BrokenOff.ofTokens_eq (broken : BrokenOff before opening inner rest) :
    Expr.ofTokens (before ++ opening :: (inner ++ rest)) =
      .error ⟨.unmatchedOpening, opening.position, some opening.text⟩ := by
  obtain ⟨groups, sum, term, taken⟩ := completable_iff.mp broken.complete
  obtain ⟨group, outer, rfl, rfl⟩ :=
    (opened_of_takesAll taken).innermost broken.opens broken.inside
  have split : before ++ group.opening :: (inner ++ rest) =
      (before ++ group.opening :: inner) ++ rest := by
    rw [List.append_assoc, List.cons_append]
  rw [split, Expr.ofTokens_of_takesAll taken broken.ends]
  cases rest with
  | nil => rfl
  | cons token rest => exact Reading.parse_of_refuses (.cannotFollow (broken.stops token rfl))

theorem unmatchedOpening_iff :
    (Expr.ofTokens tokens = .error fault ∧ fault.cause = .unmatchedOpening) ↔
      ∃ before opening inner rest, tokens = before ++ opening :: (inner ++ rest) ∧
        BrokenOff before opening inner rest ∧
        fault = ⟨.unmatchedOpening, opening.position, some opening.text⟩ := by
  constructor
  · rintro ⟨failed, cause⟩
    cases Expr.rejects_of_ofTokens failed with
    | empty nothing => cases cause
    | leading begins sign => cases cause
    | trailing ends sign => cases cause
    | @refused read rest last fault split ends taken refuses =>
      obtain ⟨group, outer, sum, term, rfl, rfl, stops⟩ := refuses.of_unmatchedOpening cause
      have final : ∀ token, rest.getLast? = some token → ¬token.IsOperator := by
        intro token last
        refine ends token ?_
        rw [split, List.getLast?_append, last, Option.some_or]
      obtain ⟨before, inner, rfl, broken⟩ := brokenOff_of_takesAll taken stops final
      rw [List.append_assoc, List.cons_append] at split
      exact ⟨before, group.opening, inner, rest, split, broken, rfl⟩
  · rintro ⟨before, opening, inner, rest, rfl, broken, rfl⟩
    exact ⟨broken.ofTokens_eq, rfl⟩

theorem balanced_of_unexpectedToken {text : String} (failed : Expr.ofTokens tokens = .error fault)
    (cause : fault.cause = .unexpectedToken text) :
    ∃ before token after, tokens = before ++ token :: after ∧ fault.Names token ∧
      Balanced before := by
  cases Expr.rejects_of_ofTokens failed with
  | empty nothing => cases cause
  | leading begins sign => cases cause
  | trailing ends sign => cases cause
  | @refused read rest last fault split ends taken refuses =>
    obtain ⟨none, token, after, rfl, named⟩ := refuses.of_unexpectedToken cause
    have opened := opened_of_takesAll taken
    rw [none] at opened
    cases opened with
    | balanced balanced => exact ⟨read, token, after, split, named, balanced⟩

/-- An opening parenthesis is called unmatched just where the formula breaks off within its group.
    It has a partner all the same if what was not read closes more than it opens; and a token that
    cannot follow is itself reported only where no group is open. -/
theorem unmatched_opening_reported_iff {limit : Int} {text : String}
    (scanned : tokenize limit text = .ok tokens) :
    (tokens.Pairwise fun one other => one.position < other.position) ∧
    (∀ fault, (Expr.ofTokens tokens = .error fault ∧
        fault.cause.summary = "Unmatched opening parenthesis") ↔
      ∃ before opening inner rest, tokens = before ++ opening :: (inner ++ rest) ∧
        BrokenOff before opening inner rest ∧
        fault = ⟨.unmatchedOpening, opening.position, some opening.text⟩ ∧
        (PartnerIn (inner ++ rest) ↔ ¬NeverOverclosed rest)) ∧
    (∀ fault piece, Expr.ofTokens tokens = .error fault → fault.cause = .unexpectedToken piece →
      ∃ before token after, tokens = before ++ token :: after ∧ fault.Names token ∧
        Balanced before) := by
  refine ⟨positions_ascend scanned, fun fault => ?_,
    fun fault piece failed cause => balanced_of_unexpectedToken failed cause⟩
  have told : fault.cause.summary = "Unmatched opening parenthesis" ↔
      fault.cause = .unmatchedOpening := by
    constructor
    · intro same
      exact ParseCause.eq_of_summary (by decide) same
    · intro cause
      rw [cause]
      rfl
  rw [told, unmatchedOpening_iff]
  constructor
  · rintro ⟨before, opening, inner, rest, split, broken, same⟩
    have partner : PartnerIn (inner ++ rest) ↔ ¬NeverOverclosed rest := by
      rw [partnerIn_iff, broken.inside.neverOverclosed_append_iff]
    exact ⟨before, opening, inner, rest, split, broken, same, partner⟩
  · rintro ⟨before, opening, inner, rest, split, broken, same, _⟩
    exact ⟨before, opening, inner, rest, split, broken, same⟩

/-- In `(2(3))` every parenthesis has its partner, and the first is called unmatched. -/
theorem unmatched_opening_reported_of_partner :
    let tokens : List Token := [⟨"(", 0, .paren true⟩, ⟨"2", 1, .atom (.number 2)⟩,
      ⟨"(", 2, .paren true⟩, ⟨"3", 3, .atom (.number 3)⟩, ⟨")", 4, .paren false⟩,
      ⟨")", 5, .paren false⟩]
    let fault : ParseFault := ⟨.unmatchedOpening, 0, some "("⟩
    tokenize defaultLengthLimit "(2(3))" = .ok tokens ∧ Expr.ofTokens tokens = .error fault ∧
      fault.cause.summary = "Unmatched opening parenthesis" ∧ PartnerIn tokens.tail ∧
      Balanced tokens := by
  intro tokens fault
  refine ⟨by decide +kernel, by decide +kernel, rfl, ?_, by decide, by decide⟩
  rw [partnerIn_iff]
  decide

theorem unmatched_opening_reported_of_dice :
    let tokens : List Token := [⟨"1", 0, .atom (.number 1)⟩, ⟨"+", 1, .operator .add⟩,
      ⟨"(", 2, .paren true⟩, ⟨"2d6", 3, .atom (.dice ⟨2, 6⟩)⟩]
    let fault : ParseFault := ⟨.unmatchedOpening, 2, some "("⟩
    tokenize defaultLengthLimit "1+(2d6" = .ok tokens ∧ Expr.ofTokens tokens = .error fault ∧
      ∃ before opening inner rest, tokens = before ++ opening :: (inner ++ rest) ∧
        BrokenOff before opening inner rest ∧
        fault = ⟨.unmatchedOpening, opening.position, some opening.text⟩ ∧
        (PartnerIn (inner ++ rest) ↔ ¬NeverOverclosed rest) := by
  intro tokens fault
  have scanned : tokenize defaultLengthLimit "1+(2d6" = .ok tokens := by decide +kernel
  have failed : Expr.ofTokens tokens = .error fault := by decide +kernel
  have reported := (unmatched_opening_reported_iff scanned).2.1 fault
  exact ⟨scanned, failed, reported.mp ⟨failed, rfl⟩⟩

end DiceFormula
