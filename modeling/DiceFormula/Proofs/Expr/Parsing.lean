import DiceFormula.Expr.Basic
import DiceFormula.Expr.OfText
import DiceFormula.Proofs.Expr.Parts
import DiceFormula.Proofs.Expr.Reading
import DiceFormula.Proofs.Run

namespace DiceFormula

inductive Phrase
  | sum
  | product
  | operand

namespace Expr

/-- Sums are chains of products, products are chains of operands, and both lean to the left.
    A group holds a sum. -/
inductive Derives : Phrase → Expr → Prop
  | atom (a : Atom) : Derives .operand (.atom a)
  | group {inner : Expr} (sum : Derives .sum inner) : Derives .operand (.group inner)
  | operand {e : Expr} (operand : Derives .operand e) : Derives .product e
  | multiplied {operator : Operator} {left right : Expr}
      (sign : operator.isMultiplicative = true) (product : Derives .product left)
      (operand : Derives .operand right) : Derives .product (.binary operator left right)
  | product {e : Expr} (product : Derives .product e) : Derives .sum e
  | added {operator : Operator} {left right : Expr}
      (sign : operator.isAdditive = true) (sum : Derives .sum left)
      (product : Derives .product right) : Derives .sum (.binary operator left right)

end Expr

open DiceFormula.Expr (Derives)

/-- The tree reads as these lexemes, has the shape of a formula, and is nested no deeper than a
    formula may be. -/
structure Expr.Explains (e : Expr) (lexemes : List Lexeme) : Prop where
  reading : e.lexemes = lexemes
  shape : Derives .sum e
  shallow : e.nesting ≤ deepestNesting

def waitingLexemes : Option (Expr × Operator) → List Lexeme
  | some (left, operator) => left.lexemes ++ [.operator operator]
  | none => []

def Level.lexemes (level : Level) : List Lexeme :=
  waitingLexemes level.sum ++ waitingLexemes level.product

def openLexemes : List Group → List Lexeme
  | [] => []
  | group :: outer => openLexemes outer ++ group.around.lexemes ++ [.paren true]

def roomWithin (groups : List Group) : Nat := deepestNesting - groups.length

def Waits (sign : Operator → Bool) (phrase : Phrase) (room : Nat)
    (waiting : Option (Expr × Operator)) : Prop :=
  ∀ left operator, waiting = some (left, operator) →
    sign operator = true ∧ Derives phrase left ∧ left.nesting ≤ room

structure Level.WellFormed (room : Nat) (level : Level) : Prop where
  sum : Waits Operator.isAdditive .sum room level.sum
  product : Waits Operator.isMultiplicative .product room level.product

def GroupsWellFormed : List Group → Prop
  | [] => True
  | group :: outer =>
    outer.length < deepestNesting ∧ group.around.WellFormed (roomWithin outer) ∧
      GroupsWellFormed outer

namespace Reading

def lexemes : Reading → List Lexeme
  | operand groups level => openLexemes groups ++ level.lexemes
  | operator groups sum term => openLexemes groups ++ waitingLexemes sum ++ term.lexemes

def WellFormed : Reading → Prop
  | operand groups level => GroupsWellFormed groups ∧ level.WellFormed (roomWithin groups)
  | operator groups sum term =>
    GroupsWellFormed groups ∧ Waits Operator.isAdditive .sum (roomWithin groups) sum ∧
      Derives .product term ∧ term.nesting ≤ roomWithin groups

end Reading

theorem Waits.none (sign : Operator → Bool) (phrase : Phrase) (room : Nat) :
    Waits sign phrase room none := by
  intro left operator waiting
  cases waiting

theorem Waits.some {sign : Operator → Bool} {phrase : Phrase} {room : Nat} {left : Expr}
    {operator : Operator} (signed : sign operator = true) (shape : Derives phrase left)
    (shallow : left.nesting ≤ room) : Waits sign phrase room (some (left, operator)) := by
  intro other sign same
  cases same
  exact ⟨signed, shape, shallow⟩

theorem Level.start_wellFormed (room : Nat) : Level.start.WellFormed room :=
  ⟨Waits.none _ _ room, Waits.none _ _ room⟩

theorem lexemes_complete (waiting : Option (Expr × Operator)) (right : Expr) :
    (complete waiting right).lexemes = waitingLexemes waiting ++ right.lexemes := by
  cases waiting with
  | none => rfl
  | some operation => simp [complete, waitingLexemes, Expr.lexemes]

theorem Waits.complete_product {room : Nat} {waiting : Option (Expr × Operator)} {right : Expr}
    (waits : Waits Operator.isMultiplicative .product room waiting)
    (shape : Derives .operand right) (shallow : right.nesting ≤ room) :
    Derives .product (complete waiting right) ∧ (complete waiting right).nesting ≤ room := by
  cases waiting with
  | none => exact ⟨.operand shape, shallow⟩
  | some operation =>
    obtain ⟨signed, leftShape, leftShallow⟩ := waits operation.1 operation.2 rfl
    exact ⟨.multiplied signed leftShape shape, Nat.max_le.mpr ⟨leftShallow, shallow⟩⟩

theorem Waits.complete_sum {room : Nat} {waiting : Option (Expr × Operator)} {right : Expr}
    (waits : Waits Operator.isAdditive .sum room waiting)
    (shape : Derives .product right) (shallow : right.nesting ≤ room) :
    Derives .sum (complete waiting right) ∧ (complete waiting right).nesting ≤ room := by
  cases waiting with
  | none => exact ⟨.product shape, shallow⟩
  | some operation =>
    obtain ⟨signed, leftShape, leftShallow⟩ := waits operation.1 operation.2 rfl
    exact ⟨.added signed leftShape shape, Nat.max_le.mpr ⟨leftShallow, shallow⟩⟩

namespace Reading

variable {reading next last : Reading} {token : Token} {tokens : List Token}

theorem Takes.lexemes_eq (takes : Takes reading token next) :
    next.lexemes = reading.lexemes ++ [token.lexeme] := by
  cases takes with
  | atom lexeme => simp [lexemes, lexemes_complete, Level.lexemes, Expr.lexemes, lexeme]
  | opening opens room =>
    simp [lexemes, openLexemes, Level.lexemes, Level.start, waitingLexemes, opens]
  | additive lexeme adds =>
    simp [lexemes, lexemes_complete, Level.lexemes, waitingLexemes, lexeme]
  | multiplicative lexeme additive multiplies =>
    simp [lexemes, Level.lexemes, waitingLexemes, lexeme]
  | closing closes =>
    simp [lexemes, lexemes_complete, openLexemes, Level.lexemes, Expr.lexemes, closes]

theorem Takes.wellFormed (takes : Takes reading token next) (sound : reading.WellFormed) :
    next.WellFormed := by
  cases takes with
  | atom lexeme =>
    obtain ⟨outer, level⟩ := sound
    exact ⟨outer, level.sum, level.product.complete_product (.atom _) (Nat.zero_le _)⟩
  | opening opens room =>
    obtain ⟨outer, level⟩ := sound
    exact ⟨⟨room, level, outer⟩, Level.start_wellFormed _⟩
  | additive lexeme adds =>
    obtain ⟨outer, waits, shape, shallow⟩ := sound
    have whole := waits.complete_sum shape shallow
    exact ⟨outer, .some adds whole.1 whole.2, .none _ _ _⟩
  | multiplicative lexeme additive multiplies =>
    obtain ⟨outer, waits, shape, shallow⟩ := sound
    exact ⟨outer, waits, .some multiplies shape shallow⟩
  | @closing group around sum term token closes =>
    obtain ⟨⟨_, level, beyond⟩, waits, shape, shallow⟩ := sound
    have whole := waits.complete_sum shape shallow
    have closed : (Expr.group (complete sum term)).nesting ≤ roomWithin around := by
      simp only [Expr.nesting, roomWithin, List.length_cons] at whole ⊢
      omega
    exact ⟨beyond, level.sum, level.product.complete_product (.group whole.1) closed⟩

theorem TakesAll.lexemes_eq (all : TakesAll reading tokens last) :
    last.lexemes = reading.lexemes ++ tokens.map Token.lexeme := by
  induction all with
  | nil reading => exact (List.append_nil _).symm
  | cons takes on ih =>
    rw [ih, takes.lexemes_eq, List.map_cons, List.append_assoc, List.singleton_append]

theorem TakesAll.wellFormed (all : TakesAll reading tokens last) (sound : reading.WellFormed) :
    last.WellFormed := by
  induction all with
  | nil reading => exact sound
  | cons takes on ih => exact ih (takes.wellFormed sound)

end Reading

theorem sound_of_parseTokens {tokens : List Token} {e : Expr}
    (accepted : parseTokens tokens = .ok e) : e.Explains (tokens.map Token.lexeme) := by
  have parsed := Expr.parse_of_ofTokens (ok_of_mapError accepted)
  obtain ⟨sum, term, rfl, all⟩ := Reading.takesAll_of_parse parsed
  obtain ⟨_, waits, shape, shallow⟩ := all.wellFormed ⟨trivial, Level.start_wellFormed _⟩
  have whole := waits.complete_sum shape shallow
  exact ⟨(lexemes_complete sum term).trans all.lexemes_eq, whole.1, whole.2⟩

/-- How the reader takes in a phrase, whatever comes after it. The last product of a sum is still
    open to further factors. -/
def Phrase.ReadsAs : Phrase → Expr → Prop
  | operand, e => ∀ stop groups level tokens rest, tokens.map Token.lexeme = e.lexemes →
      groups.length + e.nesting ≤ deepestNesting →
      parseOperand stop groups level (tokens ++ rest) =
        parseOperator stop groups level.sum (complete level.product e) rest
  | product, e => ∀ stop groups sum tokens rest, tokens.map Token.lexeme = e.lexemes →
      groups.length + e.nesting ≤ deepestNesting →
      parseOperand stop groups ⟨sum, none⟩ (tokens ++ rest) = parseOperator stop groups sum e rest
  | sum, e => ∀ stop groups tokens, tokens.map Token.lexeme = e.lexemes →
      groups.length + e.nesting ≤ deepestNesting →
      ∃ sum term, complete sum term = e ∧ ∀ rest,
        parseOperand stop groups .start (tokens ++ rest) = parseOperator stop groups sum term rest

theorem readsAs_atom (a : Atom) : Phrase.operand.ReadsAs (.atom a) := by
  intro stop groups level tokens rest reading _
  obtain ⟨token, after, rfl, lexeme, empty⟩ := List.map_eq_cons_iff.mp reading
  rw [List.map_eq_nil_iff.mp empty, List.singleton_append]
  exact Reading.parse_of_takes (.atom lexeme) fun opens => by cases lexeme.symm.trans opens

theorem readsAs_group {inner : Expr} (sum : Phrase.sum.ReadsAs inner) :
    Phrase.operand.ReadsAs (.group inner) := by
  intro stop groups level tokens rest reading shallow
  obtain ⟨opening, after, rfl, opens, body⟩ := List.map_eq_cons_iff.mp reading
  obtain ⟨tokens, closing, rfl, inside, last⟩ := List.map_eq_append_iff.mp body
  obtain ⟨closer, none, rfl, closes, empty⟩ := List.map_eq_cons_iff.mp last
  rw [List.map_eq_nil_iff.mp empty]
  have room : groups.length < deepestNesting := by
    simp only [Expr.nesting] at shallow
    omega
  have deeper : (⟨opening, level⟩ :: groups : List Group).length + inner.nesting ≤
      deepestNesting := by
    simp only [Expr.nesting, List.length_cons] at shallow ⊢
    omega
  have filled : ((tokens ++ closer :: rest).head?.map Token.lexeme) ≠ some (.paren false) := by
    rw [← List.head?_map, List.map_append, inside]
    rcases inner.head?_lexemes ((closer :: rest).map Token.lexeme) with ⟨a, first⟩ | first
    all_goals
      rw [first]
      simp
  obtain ⟨waiting, term, whole, reads⟩ := sum stop (⟨opening, level⟩ :: groups) tokens inside deeper
  calc parseOperand stop groups level (opening :: (tokens ++ [closer]) ++ rest)
      = parseOperand stop (⟨opening, level⟩ :: groups) .start (tokens ++ closer :: rest) := by
        rw [List.cons_append, List.append_assoc, List.singleton_append]
        exact Reading.parse_of_takes (.opening opens room) fun _ => filled
    _ = parseOperator stop (⟨opening, level⟩ :: groups) waiting term (closer :: rest) := reads _
    _ = parseOperator stop groups level.sum (complete level.product (.group inner)) rest := by
        rw [← whole]
        exact Reading.parse_of_takes (.closing closes) fun opens => by cases closes.symm.trans opens

theorem readsAs_product_of_operand {e : Expr} (operand : Phrase.operand.ReadsAs e) :
    Phrase.product.ReadsAs e :=
  fun stop groups sum tokens rest reading shallow =>
    operand stop groups ⟨sum, none⟩ tokens rest reading shallow

theorem readsAs_multiplied {operator : Operator} {left right : Expr}
    (sign : operator.isMultiplicative = true) (product : Phrase.product.ReadsAs left)
    (operand : Phrase.operand.ReadsAs right) :
    Phrase.product.ReadsAs (.binary operator left right) := by
  intro stop groups sum tokens rest reading shallow
  obtain ⟨before, others, rfl, leftReading, tail⟩ := List.map_eq_append_iff.mp reading
  obtain ⟨token, after, rfl, lexeme, rightReading⟩ := List.map_eq_cons_iff.mp tail
  have bounds := Nat.max_le.mp (Nat.le_sub_of_add_le' shallow)
  have leftShallow : groups.length + left.nesting ≤ deepestNesting := by omega
  have rightShallow : groups.length + right.nesting ≤ deepestNesting := by omega
  have additive : operator.isAdditive = false := by
    cases operator <;> simp_all [Operator.isMultiplicative, Operator.isAdditive]
  calc parseOperand stop groups ⟨sum, none⟩ (before ++ token :: after ++ rest)
      = parseOperator stop groups sum left (token :: after ++ rest) := by
        rw [List.append_assoc]
        exact product stop groups sum before _ leftReading leftShallow
    _ = parseOperand stop groups ⟨sum, some (left, operator)⟩ (after ++ rest) :=
        Reading.parse_of_takes (.multiplicative lexeme additive sign) fun opens => by
          cases lexeme.symm.trans opens
    _ = parseOperator stop groups sum (.binary operator left right) rest :=
        operand stop groups _ after rest rightReading rightShallow

theorem readsAs_sum_of_product {e : Expr} (product : Phrase.product.ReadsAs e) :
    Phrase.sum.ReadsAs e :=
  fun stop groups tokens reading shallow =>
    ⟨none, e, rfl, fun rest => product stop groups none tokens rest reading shallow⟩

theorem readsAs_added {operator : Operator} {left right : Expr}
    (sign : operator.isAdditive = true) (sum : Phrase.sum.ReadsAs left)
    (product : Phrase.product.ReadsAs right) :
    Phrase.sum.ReadsAs (.binary operator left right) := by
  intro stop groups tokens reading shallow
  obtain ⟨before, others, rfl, leftReading, tail⟩ := List.map_eq_append_iff.mp reading
  obtain ⟨token, after, rfl, lexeme, rightReading⟩ := List.map_eq_cons_iff.mp tail
  have bounds := Nat.max_le.mp (Nat.le_sub_of_add_le' shallow)
  have leftShallow : groups.length + left.nesting ≤ deepestNesting := by omega
  have rightShallow : groups.length + right.nesting ≤ deepestNesting := by omega
  obtain ⟨waiting, term, whole, reads⟩ := sum stop groups before leftReading leftShallow
  refine ⟨some (left, operator), right, rfl, fun rest => ?_⟩
  calc parseOperand stop groups .start (before ++ token :: after ++ rest)
      = parseOperator stop groups waiting term (token :: after ++ rest) := by
        rw [List.append_assoc]
        exact reads _
    _ = parseOperand stop groups ⟨some (left, operator), none⟩ (after ++ rest) := by
        rw [← whole]
        exact Reading.parse_of_takes (.additive lexeme sign) fun opens => by
          cases lexeme.symm.trans opens
    _ = parseOperator stop groups (some (left, operator)) right rest :=
        product stop groups _ after rest rightReading rightShallow

theorem readsAs_of_derives {phrase : Phrase} {e : Expr} (derivation : Derives phrase e) :
    phrase.ReadsAs e := by
  induction derivation with
  | atom a => exact readsAs_atom a
  | group _ sum => exact readsAs_group sum
  | operand _ operand => exact readsAs_product_of_operand operand
  | multiplied sign _ _ product operand => exact readsAs_multiplied sign product operand
  | product _ product => exact readsAs_sum_of_product product
  | added sign _ _ sum product => exact readsAs_added sign sum product

theorem parseTokens_of_explains {tokens : List Token} {e : Expr}
    (explained : e.Explains (tokens.map Token.lexeme)) : parseTokens tokens = .ok e := by
  have starts := e.head?_lexemes []
  have final := e.getLast?_lexemes []
  rw [explained.reading, List.append_nil, List.head?_map] at starts
  rw [explained.reading, List.nil_append, List.getLast?_map] at final
  have nonempty : tokens ≠ [] := by
    rintro rfl
    simp at starts
  have begins : ∀ token, tokens.head? = some token → ¬token.IsOperator := by
    rintro token first ⟨sign, lexeme⟩
    rw [first] at starts
    simp [lexeme] at starts
  have ends : ∀ token, tokens.getLast? = some token → ¬token.IsOperator := by
    rintro token last ⟨sign, lexeme⟩
    rw [last] at final
    simp [lexeme] at final
  have bound : ([] : List Group).length + e.nesting ≤ deepestNesting := by
    simpa using explained.shallow
  obtain ⟨waiting, term, whole, reads⟩ := readsAs_of_derives explained.shape (endOf tokens) []
    tokens explained.reading.symm bound
  have parsed := reads []
  rw [List.append_nil] at parsed
  have accepted : Reading.start.parse (endOf tokens) tokens = .ok e :=
    parsed.trans (congrArg Except.ok whole)
  rw [parseTokens, Expr.ofTokens_eq_parse nonempty begins ends, accepted]
  rfl

theorem parseTokens_eq_ok_iff (tokens : List Token) (e : Expr) :
    parseTokens tokens = .ok e ↔ e.Explains (tokens.map Token.lexeme) :=
  ⟨sound_of_parseTokens, parseTokens_of_explains⟩

theorem parse_fault_of_parseTokens {tokens : List Token} {fault : Fault}
    (failed : parseTokens tokens = .error fault) : ∃ cause, fault = .parse cause := by
  obtain ⟨cause, _, rfl⟩ := error_of_mapError failed
  exact ⟨cause, rfl⟩

/-- The parser returns the one tree that reads as the tokens do, whatever their texts and their
    positions, and complains of tokens that no tree reads as. -/
theorem parseTokens_exact (tokens : List Token) :
    (∀ e, parseTokens tokens = .ok e ↔ e.Explains (tokens.map Token.lexeme)) ∧
    ((∀ e : Expr, ¬e.Explains (tokens.map Token.lexeme)) ↔
      ∃ cause, parseTokens tokens = .error (.parse cause)) ∧
    (∀ e other : Expr, e.Explains (tokens.map Token.lexeme) →
      other.Explains (tokens.map Token.lexeme) → e = other) := by
  refine ⟨parseTokens_eq_ok_iff tokens, ⟨fun unexplained => ?_, ?_⟩, ?_⟩
  · cases parsed : parseTokens tokens with
    | ok e => exact absurd (sound_of_parseTokens parsed) (unexplained e)
    | error fault =>
      obtain ⟨cause, rfl⟩ := parse_fault_of_parseTokens parsed
      exact ⟨cause, rfl⟩
  · rintro ⟨cause, failed⟩ e explained
    rw [parseTokens_of_explains explained] at failed
    cases failed
  · intro e other first second
    have parsed := parseTokens_of_explains first
    rw [parseTokens_of_explains second] at parsed
    cases parsed
    rfl

end DiceFormula
