import DiceFormula.Expr.OfText
import DiceFormula.Proofs.Token.Parentheses

namespace DiceFormula

inductive Reading
  | operand (groups : List Group) (level : Level)
  | operator (groups : List Group) (sum : Option (Expr × Operator)) (term : Expr)

def Token.IsOperator (token : Token) : Prop := ∃ sign, token.lexeme = .operator sign

def Token.Continues (token : Token) : Prop :=
  token.lexeme = .paren false ∨ ∃ operator, token.lexeme = .operator operator ∧
    (operator.isAdditive = true ∨ operator.isMultiplicative = true)

namespace Reading

def start : Reading := operand [] .start

def groups : Reading → List Group
  | operand groups _ => groups
  | operator groups _ _ => groups

def parse (stop : Int) : Reading → List Token → Except ParseFault Expr
  | operand groups level => parseOperand stop groups level
  | operator groups sum term => parseOperator stop groups sum term

inductive Takes : Reading → Token → Reading → Prop
  | atom {groups : List Group} {level : Level} {token : Token} {a : Atom}
      (lexeme : token.lexeme = .atom a) :
      Takes (operand groups level) token
        (operator groups level.sum (complete level.product (.atom a)))
  | opening {groups : List Group} {level : Level} {token : Token}
      (opens : token.lexeme = .paren true) (room : groups.length < deepestNesting) :
      Takes (operand groups level) token (operand (⟨token, level⟩ :: groups) .start)
  | additive {groups : List Group} {sum : Option (Expr × Operator)} {term : Expr} {token : Token}
      {sign : Operator} (lexeme : token.lexeme = .operator sign) (adds : sign.isAdditive = true) :
      Takes (operator groups sum term) token
        (operand groups ⟨some (complete sum term, sign), none⟩)
  | multiplicative {groups : List Group} {sum : Option (Expr × Operator)} {term : Expr}
      {token : Token} {sign : Operator} (lexeme : token.lexeme = .operator sign)
      (additive : sign.isAdditive = false) (multiplies : sign.isMultiplicative = true) :
      Takes (operator groups sum term) token (operand groups ⟨sum, some (term, sign)⟩)
  | closing {group : Group} {outer : List Group} {sum : Option (Expr × Operator)} {term : Expr}
      {token : Token} (closes : token.lexeme = .paren false) :
      Takes (operator (group :: outer) sum term) token
        (operator outer group.around.sum
          (complete group.around.product (.group (complete sum term))))

inductive TakesAll : Reading → List Token → Reading → Prop
  | nil (reading : Reading) : TakesAll reading [] reading
  | cons {reading next last : Reading} {token : Token} {tokens : List Token}
      (takes : Takes reading token next) (on : TakesAll next tokens last) :
      TakesAll reading (token :: tokens) last

/-- None of the tokens that are left is read, and this is the fault that is reported. -/
inductive Refuses (stop : Int) : Reading → List Token → ParseFault → Prop
  | unexpectedEnd {groups : List Group} {level : Level} :
      Refuses stop (operand groups level) [] ⟨.unexpectedEnd, stop, none⟩
  | unexpectedOperator {groups : List Group} {level : Level} {token : Token} {rest : List Token}
      {sign : Operator} (lexeme : token.lexeme = .operator sign) :
      Refuses stop (operand groups level) (token :: rest)
        ⟨.unexpectedOperator sign.symbol, token.position, some token.text⟩
  | unmatchedClosing {reading : Reading} {token : Token} {rest : List Token}
      (closes : token.lexeme = .paren false) (none : reading.groups = []) :
      Refuses stop reading (token :: rest) ⟨.unmatchedClosing, token.position, some token.text⟩
  | valueMissing {group : Group} {outer : List Group} {level : Level} {token : Token}
      {rest : List Token} (closes : token.lexeme = .paren false) :
      Refuses stop (operand (group :: outer) level) (token :: rest)
        ⟨.valueMissing, token.position, some token.text⟩
  | emptyGroup {groups : List Group} {level : Level} {opening closing : Token}
      {rest : List Token} (opens : opening.lexeme = .paren true)
      (closes : closing.lexeme = .paren false) :
      Refuses stop (operand groups level) (opening :: closing :: rest)
        ⟨.emptyGroup, opening.position, some "()"⟩
  | nestedTooDeep {groups : List Group} {level : Level} {token : Token} {rest : List Token}
      (opens : token.lexeme = .paren true)
      (filled : rest.head?.map Token.lexeme ≠ some (.paren false))
      (deep : deepestNesting ≤ groups.length) :
      Refuses stop (operand groups level) (token :: rest)
        ⟨.nestedTooDeep, token.position, some token.text⟩
  | unclosed {group : Group} {outer : List Group} {sum : Option (Expr × Operator)} {term : Expr} :
      Refuses stop (operator (group :: outer) sum term) []
        ⟨.unmatchedOpening, group.opening.position, some group.opening.text⟩
  | cannotFollow {groups : List Group} {sum : Option (Expr × Operator)} {term : Expr}
      {token : Token} {rest : List Token} (strange : ¬token.Continues) :
      Refuses stop (operator groups sum term) (token :: rest) (cannotFollow groups token)

variable {stop : Int} {reading next last : Reading} {token : Token} {tokens rest : List Token}
  {fault : ParseFault}

theorem parse_of_refuses (refuses : Refuses stop reading tokens fault) :
    reading.parse stop tokens = .error fault := by
  cases refuses with
  | unexpectedEnd => rfl
  | unexpectedOperator lexeme => rw [parse, parseOperand, lexeme]
  | unmatchedClosing closes none =>
    cases reading with
    | operand groups level =>
      cases none
      rw [parse, parseOperand, closes]
      rfl
    | operator groups sum term =>
      cases none
      rw [parse, parseOperator.eq_def]
      simp only [closes]
  | valueMissing closes =>
    rw [parse, parseOperand, closes]
    rfl
  | emptyGroup opens closes =>
    rw [parse, parseOperand, opens]
    simp only [List.head?_cons, Option.map_some, closes, ↓reduceIte]
  | nestedTooDeep opens filled deep =>
    rw [parse, parseOperand, opens]
    simp only [filled, deep, ↓reduceIte]
  | unclosed => rfl
  | @cannotFollow groups sum term token rest strange =>
    rw [parse, parseOperator.eq_def]
    dsimp only
    split
    · rename_i sign lexeme
      have additive : ¬sign.isAdditive = true := fun adds =>
        strange (.inr ⟨sign, lexeme, .inl adds⟩)
      have multiplicative : ¬sign.isMultiplicative = true := fun multiplies =>
        strange (.inr ⟨sign, lexeme, .inr multiplies⟩)
      rw [if_neg additive, if_neg multiplicative]
    · rename_i lexeme
      exact absurd (.inl lexeme) strange
    · rfl
    · rfl

theorem parse_of_takes (takes : Takes reading token next)
    (filled : token.lexeme = .paren true → rest.head?.map Token.lexeme ≠ some (.paren false)) :
    reading.parse stop (token :: rest) = next.parse stop rest := by
  cases takes with
  | atom lexeme => rw [parse, parseOperand, lexeme, parse]
  | opening opens room =>
    rw [parse, parseOperand, opens, parse]
    simp only [filled opens, Nat.not_le.mpr room, ↓reduceIte]
  | additive lexeme adds =>
    rw [parse, parse, parseOperator.eq_def]
    simp only [lexeme, adds, ↓reduceIte]
  | multiplicative lexeme additive multiplies =>
    rw [parse, parse, parseOperator.eq_def]
    simp only [lexeme, additive, multiplies, Bool.false_eq_true, ↓reduceIte]
  | closing closes =>
    rw [parse, parseOperator.eq_def, parse]
    simp only [closes]

theorem takes_or_refuses (stop : Int) (reading : Reading) (token : Token) (rest : List Token) :
    (∃ next, Takes reading token next ∧
      reading.parse stop (token :: rest) = next.parse stop rest) ∨
    ∃ fault, Refuses stop reading (token :: rest) fault := by
  have taken {next : Reading} (takes : Takes reading token next)
      (filled : token.lexeme = .paren true →
        rest.head?.map Token.lexeme ≠ some (.paren false)) :
      ∃ next, Takes reading token next ∧
        reading.parse stop (token :: rest) = next.parse stop rest :=
    ⟨next, takes, parse_of_takes takes filled⟩
  cases reading with
  | operand groups level =>
    cases lexeme : token.lexeme with
    | atom a => exact .inl (taken (.atom lexeme) (by rw [lexeme]; exact nofun))
    | operator sign => exact .inr ⟨_, .unexpectedOperator lexeme⟩
    | paren isOpen =>
      cases isOpen with
      | false =>
        cases groups with
        | nil => exact .inr ⟨_, .unmatchedClosing lexeme rfl⟩
        | cons group outer => exact .inr ⟨_, .valueMissing lexeme⟩
      | true =>
        by_cases empty : rest.head?.map Token.lexeme = some (.paren false)
        · obtain ⟨closing, first, closes⟩ := Option.map_eq_some_iff.mp empty
          obtain ⟨others, rfl⟩ := List.head?_eq_some_iff.mp first
          exact .inr ⟨_, .emptyGroup lexeme closes⟩
        · by_cases room : groups.length < deepestNesting
          · exact .inl (taken (.opening lexeme room) fun _ => empty)
          · exact .inr ⟨_, .nestedTooDeep lexeme empty (Nat.not_lt.mp room)⟩
  | operator groups sum term =>
    by_cases continues : token.Continues
    · rcases continues with closes | ⟨sign, lexeme, known⟩
      · cases groups with
        | nil => exact .inr ⟨_, .unmatchedClosing closes rfl⟩
        | cons group outer => exact .inl (taken (.closing closes) (by rw [closes]; exact nofun))
      · have filled : token.lexeme = .paren true →
            rest.head?.map Token.lexeme ≠ some (.paren false) := by
          rw [lexeme]
          exact nofun
        cases additive : sign.isAdditive with
        | true => exact .inl (taken (.additive lexeme additive) filled)
        | false =>
          rw [additive, Bool.false_eq_true, false_or] at known
          exact .inl (taken (.multiplicative lexeme additive known) filled)
    · exact .inr ⟨_, .cannotFollow continues⟩

theorem refuses_of_parse (failed : reading.parse stop tokens = .error fault) :
    ∃ read rest last, tokens = read ++ rest ∧ TakesAll reading read last ∧
      Refuses stop last rest fault := by
  induction tokens generalizing reading with
  | nil =>
    refine ⟨[], [], reading, rfl, .nil reading, ?_⟩
    cases reading with
    | operand groups level =>
      cases failed
      exact .unexpectedEnd
    | operator groups sum term =>
      cases groups with
      | nil => cases failed
      | cons group outer =>
        cases failed
        exact .unclosed
  | cons token rest ih =>
    rcases takes_or_refuses stop reading token rest with ⟨next, takes, same⟩ | ⟨other, refuses⟩
    · rw [same] at failed
      obtain ⟨read, left, last, rfl, on, refuses⟩ := ih failed
      exact ⟨token :: read, left, last, rfl, .cons takes on, refuses⟩
    · rw [parse_of_refuses refuses] at failed
      cases failed
      exact ⟨[], token :: rest, reading, rfl, .nil reading, refuses⟩

theorem takesAll_of_parse {e : Expr} (accepted : reading.parse stop tokens = .ok e) :
    ∃ sum term, complete sum term = e ∧ TakesAll reading tokens (operator [] sum term) := by
  induction tokens generalizing reading with
  | nil =>
    cases reading with
    | operand groups level => cases accepted
    | operator groups sum term =>
      cases groups with
      | nil =>
        cases accepted
        exact ⟨sum, term, rfl, .nil _⟩
      | cons group outer => cases accepted
  | cons token rest ih =>
    rcases takes_or_refuses stop reading token rest with ⟨next, takes, same⟩ | ⟨fault, refuses⟩
    · rw [same] at accepted
      obtain ⟨sum, term, whole, on⟩ := ih accepted
      exact ⟨sum, term, whole, .cons takes on⟩
    · rw [parse_of_refuses refuses] at accepted
      cases accepted

theorem begins_of_takes {groups : List Group} {level : Level}
    (takes : Takes (operand groups level) token next) :
    (∃ a, token.lexeme = .atom a) ∨ token.lexeme = .paren true := by
  cases takes with
  | atom lexeme => exact .inl ⟨_, lexeme⟩
  | opening opens room => exact .inr opens

theorem ends_of_takes {groups : List Group} {sum : Option (Expr × Operator)} {term : Expr}
    (takes : Takes reading token (operator groups sum term)) :
    (∃ a, token.lexeme = .atom a) ∨ token.lexeme = .paren false := by
  cases takes with
  | atom lexeme => exact .inl ⟨_, lexeme⟩
  | closing closes => exact .inr closes

theorem not_closing_of_takes {groups : List Group} {level : Level}
    (takes : Takes (operand groups level) token next) : token.lexeme ≠ .paren false := by
  rcases begins_of_takes takes with ⟨a, lexeme⟩ | opens
  · rw [lexeme]
    exact nofun
  · rw [opens]
    exact nofun

theorem parse_of_takesAll {read : List Token} {groups : List Group}
    {sum : Option (Expr × Operator)} {term : Expr}
    (taken : TakesAll reading read (operator groups sum term)) :
    reading.parse stop (read ++ rest) = (operator groups sum term).parse stop rest := by
  generalize reached : operator groups sum term = last at taken
  induction taken with
  | nil reading => rfl
  | @cons reading next last token tokens takes on ih =>
    subst reached
    rw [List.cons_append, parse_of_takes takes ?_, ih rfl]
    intro opens
    cases takes with
    | opening _ room =>
      cases on with
      | cons first _ => exact fun closes => not_closing_of_takes first (Option.some.inj closes)
    | atom lexeme => cases lexeme.symm.trans opens
    | additive lexeme adds => cases lexeme.symm.trans opens
    | multiplicative lexeme additive multiplies => cases lexeme.symm.trans opens
    | closing closes => cases closes.symm.trans opens

theorem TakesAll.split {more : List Token} (all : TakesAll reading (tokens ++ more) last) :
    ∃ next, TakesAll reading tokens next ∧ TakesAll next more last := by
  induction tokens generalizing reading with
  | nil => exact ⟨reading, .nil reading, all⟩
  | cons token tokens ih =>
    cases all with
    | cons takes on =>
      obtain ⟨next, first, second⟩ := ih on
      exact ⟨next, .cons takes first, second⟩

theorem TakesAll.begins {groups : List Group} {level : Level}
    (all : TakesAll (operand groups level) tokens last) :
    ∀ first, tokens.head? = some first → ¬first.IsOperator := by
  rintro first begins ⟨sign, lexeme⟩
  cases all with
  | nil => cases begins
  | cons takes on =>
    cases begins
    rcases begins_of_takes takes with ⟨a, other⟩ | other
    · cases lexeme.symm.trans other
    · cases lexeme.symm.trans other

theorem TakesAll.ends {groups : List Group} {sum : Option (Expr × Operator)} {term : Expr}
    (all : TakesAll reading tokens (operator groups sum term)) :
    ∀ token, tokens.getLast? = some token → ¬token.IsOperator := by
  rintro token final ⟨sign, lexeme⟩
  obtain ⟨before, rfl⟩ := List.getLast?_eq_some_iff.mp final
  obtain ⟨_, _, on⟩ := all.split
  cases on with
  | cons takes on =>
    cases on
    rcases ends_of_takes takes with ⟨a, other⟩ | other
    · cases lexeme.symm.trans other
    · cases lexeme.symm.trans other

end Reading

/-- These groups are open after the tokens, and between any two of their parentheses everything is
    balanced. -/
inductive Opened : List Token → List Group → Prop
  | balanced {tokens : List Token} (balanced : Balanced tokens) : Opened tokens []
  | within {outer inner : List Token} {group : Group} {groups : List Group}
      (around : Opened outer groups) (opens : group.opening.lexeme = .paren true)
      (room : groups.length < deepestNesting) (balanced : Balanced inner) :
      Opened (outer ++ group.opening :: inner) (group :: groups)

namespace Opened

variable {tokens more : List Token} {groups : List Group}

theorem nested (opened : Opened tokens groups) : Nested tokens groups.length := by
  induction opened with
  | balanced balanced => exact .balanced balanced
  | within _ opens _ balanced ih => exact .within ih opens balanced

theorem shallow (opened : Opened tokens groups) : groups.length ≤ deepestNesting := by
  cases opened with
  | balanced balanced => exact Nat.zero_le _
  | within around opens room balanced => exact room

theorem append (opened : Opened tokens groups) (after : Balanced more) :
    Opened (tokens ++ more) groups := by
  cases opened with
  | balanced before => exact .balanced (before.append after)
  | within around opens room before =>
    rw [List.append_assoc, List.cons_append]
    exact .within around opens room (before.append after)

theorem takes {reading next : Reading} {token : Token} (opened : Opened tokens reading.groups)
    (takes : reading.Takes token next) : Opened (tokens ++ [token]) next.groups := by
  have single (other : ∀ isOpen, token.lexeme ≠ .paren isOpen) :
      Opened (tokens ++ [token]) reading.groups := opened.append (.single other)
  cases takes with
  | atom lexeme => exact single fun isOpen => by rw [lexeme]; exact nofun
  | @opening groups level _ opens room =>
    have deeper : Opened (tokens ++ (Group.mk token level).opening :: [])
        (⟨token, level⟩ :: groups) :=
      .within opened opens room .nil
    exact deeper
  | additive lexeme adds => exact single fun isOpen => by rw [lexeme]; exact nofun
  | multiplicative lexeme additive multiplies =>
    exact single fun isOpen => by rw [lexeme]; exact nofun
  | closing closes =>
    cases opened with
    | within around opens room inner =>
      rw [List.append_assoc]
      exact around.append (inner.group opens closes)

theorem takesAll {reading last : Reading} (opened : Opened tokens reading.groups)
    (all : reading.TakesAll more last) : Opened (tokens ++ more) last.groups := by
  induction all generalizing tokens with
  | nil reading => rwa [List.append_nil]
  | cons takes on ih =>
    rw [List.append_cons]
    exact ih (opened.takes takes)

end Opened

theorem opened_of_takesAll {read : List Token} {last : Reading}
    (all : Reading.start.TakesAll read last) : Opened read last.groups := by
  have none : Opened [] Reading.start.groups := .balanced .nil
  exact none.takesAll all

def endOf (tokens : List Token) : Int := (tokens.getLast?.map Token.stop).getD 0

/-- Why tokens make no formula: the first and the last are looked at in advance, the others as they
    come. -/
inductive Expr.Rejects (tokens : List Token) : ParseFault → Prop
  | empty (nothing : tokens = []) : Rejects tokens ⟨.empty, 0, none⟩
  | leading {first : Token} (begins : tokens.head? = some first) (sign : first.IsOperator) :
      Rejects tokens ⟨.leadingOperator, first.position, some first.text⟩
  | trailing {last : Token} (ends : tokens.getLast? = some last) (sign : last.IsOperator) :
      Rejects tokens ⟨.trailingOperator, last.position, some last.text⟩
  | refused {read rest : List Token} {last : Reading} {fault : ParseFault}
      (split : tokens = read ++ rest)
      (ends : ∀ token, tokens.getLast? = some token → ¬token.IsOperator)
      (taken : Reading.start.TakesAll read last)
      (refuses : last.Refuses (endOf tokens) rest fault) : Rejects tokens fault

namespace Expr

variable {tokens : List Token} {fault : ParseFault}

theorem ofTokens_eq_parse (nonempty : tokens ≠ [])
    (begins : ∀ token, tokens.head? = some token → ¬token.IsOperator)
    (ends : ∀ token, tokens.getLast? = some token → ¬token.IsOperator) :
    Expr.ofTokens tokens = Reading.start.parse (endOf tokens) tokens := by
  cases tokens with
  | nil => exact absurd rfl nonempty
  | cons first rest =>
    have last := List.getLast?_eq_some_getLast (List.cons_ne_nil first rest)
    simp only [Expr.ofTokens]
    split
    · rename_i sign lexeme
      exact absurd ⟨sign, lexeme⟩ (begins first rfl)
    · rename_i sign lexeme _
      exact absurd ⟨sign, lexeme⟩ (ends _ last)
    · rw [endOf, last]
      rfl

theorem ofTokens_of_takesAll {read rest : List Token} {groups : List Group}
    {sum : Option (Expr × Operator)} {term : Expr}
    (taken : Reading.start.TakesAll read (.operator groups sum term))
    (ends : ∀ token, rest.getLast? = some token → ¬token.IsOperator) :
    Expr.ofTokens (read ++ rest) =
      (Reading.operator groups sum term).parse (endOf (read ++ rest)) rest := by
  have nonempty : read ≠ [] := by
    rintro rfl
    cases taken
  rw [ofTokens_eq_parse (List.append_ne_nil_of_left_ne_nil nonempty rest) ?_ ?_,
    Reading.parse_of_takesAll taken]
  · intro token first
    rw [List.head?_append] at first
    rcases Option.or_eq_some_iff.mp first with before | ⟨none, _⟩
    · exact taken.begins token before
    · exact absurd (List.head?_eq_none_iff.mp none) nonempty
  · intro token final
    rw [List.getLast?_append] at final
    rcases Option.or_eq_some_iff.mp final with later | ⟨_, before⟩
    · exact ends token later
    · exact taken.ends token before

theorem parse_of_ofTokens {e : Expr} (accepted : Expr.ofTokens tokens = .ok e) :
    Reading.start.parse (endOf tokens) tokens = .ok e := by
  cases tokens with
  | nil => cases accepted
  | cons first rest =>
    have tail := List.getLast?_eq_some_getLast (List.cons_ne_nil first rest)
    simp only [Expr.ofTokens] at accepted
    split at accepted
    · cases accepted
    · cases accepted
    · rw [endOf, tail]
      exact accepted

theorem rejects_of_ofTokens (failed : Expr.ofTokens tokens = .error fault) :
    Expr.Rejects tokens fault := by
  cases tokens with
  | nil =>
    cases failed
    exact .empty rfl
  | cons first rest =>
    have tail := List.getLast?_eq_some_getLast (List.cons_ne_nil first rest)
    simp only [Expr.ofTokens] at failed
    split at failed
    · rename_i sign lexeme
      cases failed
      exact .leading rfl ⟨sign, lexeme⟩
    · rename_i sign lexeme _
      cases failed
      exact .trailing tail ⟨sign, lexeme⟩
    · rename_i other
      have ends : ∀ token, (first :: rest).getLast? = some token → ¬token.IsOperator := by
        rintro token found ⟨sign, lexeme⟩
        rw [tail] at found
        cases found
        exact other sign lexeme
      have parsed : Reading.start.parse (endOf (first :: rest)) (first :: rest) = .error fault := by
        rw [endOf, tail]
        exact failed
      obtain ⟨read, left, last, split, taken, refuses⟩ := Reading.refuses_of_parse parsed
      exact .refused split ends taken refuses

end Expr

end DiceFormula
