import DiceFormula.Proofs.Token.Written

namespace DiceFormula

/-- The texts of the six token forms. -/
inductive Sentence : List Char → Prop
  | conditional {count sides threshold : List Char} {letter : Char} {comparison : String}
      (counted : ∀ c ∈ count, Text.isDigit c = true) (mark : letter = 'd' ∨ letter = 'D')
      (sided : IsNumeral sides) (compared : comparison ∈ [">=", "<=", "==", "<", ">", "="])
      (held : IsNumeral threshold) :
      Sentence (count ++ letter :: sides ++ comparison.toList ++ threshold)
  | reroll {count sides threshold : List Char} {letter : Char} {marker comparison : String}
      (counted : ∀ c ∈ count, Text.isDigit c = true) (mark : letter = 'd' ∨ letter = 'D')
      (sided : IsNumeral sides) (marked : marker ∈ ["", "o", "r"])
      (compared : comparison ∈ ["", ">=", "<=", "<", ">", "="]) (held : IsNumeral threshold) :
      Sentence (count ++ letter :: sides ++ 'r' :: marker.toList ++ comparison.toList ++ threshold)
  | dice {count sides : List Char} {letter : Char}
      (counted : ∀ c ∈ count, Text.isDigit c = true) (mark : letter = 'd' ∨ letter = 'D')
      (sided : IsNumeral sides) : Sentence (count ++ letter :: sides)
  | operator {c : Char} (among : c ∈ ['+', '-', '*', '/']) : Sentence [c]
  | paren {c : Char} (among : c ∈ ['(', ')']) : Sentence [c]
  | number {digits : List Char} (numeral : IsNumeral digits) : Sentence digits

namespace Sentence

theorem form_of_conditional {count sides threshold : List Char} {letter : Char}
    {comparison : String} (counted : ∀ c ∈ count, Text.isDigit c = true)
    (mark : letter = 'd' ∨ letter = 'D') (sided : IsNumeral sides)
    (compared : comparison ∈ [">=", "<=", "==", "<", ">", "="]) (held : IsNumeral threshold) :
    ∃ form : Form, form.WellWritten ∧
      form.text = count ++ letter :: sides ++ comparison.toList ++ threshold := by
  have known : ∀ symbol ∈ [">=", "<=", "==", "<", ">", "="],
      Comparison.ofSymbol symbol ∈ Comparison.spelled := by decide
  refine ⟨.dice count letter sides (.conditional (.ofSymbol comparison) threshold),
    ⟨counted, mark, sided, known comparison compared, held⟩, ?_⟩
  simp only [Form.text, Suffix.text, Comparison.symbol_ofSymbol, List.append_assoc]

theorem form_of_reroll {count sides threshold : List Char} {letter : Char}
    {marker comparison : String} (counted : ∀ c ∈ count, Text.isDigit c = true)
    (mark : letter = 'd' ∨ letter = 'D') (sided : IsNumeral sides)
    (marked : marker ∈ ["", "o", "r"]) (compared : comparison ∈ ["", ">=", "<=", "<", ">", "="])
    (held : IsNumeral threshold) :
    ∃ form : Form, form.WellWritten ∧
      form.text =
        count ++ letter :: sides ++ 'r' :: marker.toList ++ comparison.toList ++ threshold := by
  obtain ⟨kind, rfl⟩ : ∃ kind : RerollKind, kind.letter = marker := by
    simp only [List.mem_cons, List.not_mem_nil, or_false] at marked
    rcases marked with rfl | rfl | rfl
    · exact ⟨.exploding, rfl⟩
    · exact ⟨.once, rfl⟩
    · exact ⟨.recursive, rfl⟩
  rcases List.mem_cons.mp compared with rfl | compared
  · refine ⟨.dice count letter sides (.reroll kind none threshold),
      ⟨counted, mark, sided, by simp, held⟩, ?_⟩
    simp [Form.text, Suffix.text]
  · have known : ∀ symbol ∈ [">=", "<=", "<", ">", "="],
        Comparison.ofSymbol symbol ∈ Comparison.simple := by decide
    have simple : ∀ given, some (Comparison.ofSymbol comparison) = some given →
        given ∈ Comparison.simple := by
      intro given same
      cases same
      exact known comparison compared
    refine ⟨.dice count letter sides (.reroll kind (some (.ofSymbol comparison)) threshold),
      ⟨counted, mark, sided, simple, held⟩, ?_⟩
    simp [Form.text, Suffix.text, Comparison.symbol_ofSymbol]

end Sentence

theorem Comparison.symbol_mem_of_spelled {comparison : Comparison}
    (spelled : comparison ∈ Comparison.spelled) :
    comparison.symbol ∈ [">=", "<=", "==", "<", ">", "="] := by
  have all : ∀ comparison ∈ Comparison.spelled,
      comparison.symbol ∈ [">=", "<=", "==", "<", ">", "="] := by decide
  exact all comparison spelled

theorem Comparison.symbol_mem_of_simple {comparison : Comparison}
    (simple : comparison ∈ Comparison.simple) :
    comparison.symbol ∈ [">=", "<=", "<", ">", "="] := by
  have all : ∀ comparison ∈ Comparison.simple,
      comparison.symbol ∈ [">=", "<=", "<", ">", "="] := by decide
  exact all comparison simple

theorem Form.sentence_text {form : Form} (written : form.WellWritten) : Sentence form.text := by
  cases form with
  | number digits => exact .number written
  | paren isOpen => cases isOpen <;> exact .paren (by decide)
  | operator op =>
    cases op with
    | other symbol => rcases written with additive | multiplicative <;> contradiction
    | _ => exact .operator (by decide)
  | dice count letter sides suffix =>
    obtain ⟨counted, mark, sided, suffixed⟩ := written
    cases suffix with
    | plain =>
      rw [text, Suffix.text, List.append_nil]
      exact .dice counted mark sided
    | conditional comparison threshold =>
      have sentence := Sentence.conditional counted mark sided
        (Comparison.symbol_mem_of_spelled suffixed.1) suffixed.2
      simpa only [text, Suffix.text, List.append_assoc] using sentence
    | reroll kind given threshold =>
      have marked : kind.letter ∈ ["", "o", "r"] := by cases kind <;> decide
      cases given with
      | none =>
        have sentence := Sentence.reroll counted mark sided marked List.mem_cons_self suffixed.2
        simpa [text, Suffix.text] using sentence
      | some comparison =>
        have compared := Comparison.symbol_mem_of_simple (suffixed.1 comparison rfl)
        have sentence := Sentence.reroll counted mark sided marked
          (List.mem_cons_of_mem _ compared) suffixed.2
        simpa [text, Suffix.text] using sentence

theorem sentence_iff (cs : List Char) :
    Sentence cs ↔ ∃ form : Form, form.WellWritten ∧ form.text = cs := by
  constructor
  · intro sentence
    cases sentence with
    | conditional counted mark sided compared held =>
      exact Sentence.form_of_conditional counted mark sided compared held
    | reroll counted mark sided marked compared held =>
      exact Sentence.form_of_reroll counted mark sided marked compared held
    | dice counted mark sided =>
      exact ⟨.dice _ _ _ .plain, ⟨counted, mark, sided, trivial⟩, by simp [Form.text, Suffix.text]⟩
    | @operator c among =>
      simp only [List.mem_cons, List.not_mem_nil, or_false] at among
      rcases among with rfl | rfl | rfl | rfl
      · exact ⟨.operator .add, .inl rfl, rfl⟩
      · exact ⟨.operator .subtract, .inl rfl, rfl⟩
      · exact ⟨.operator .multiply, .inr rfl, rfl⟩
      · exact ⟨.operator .divide, .inr rfl, rfl⟩
    | @paren c among =>
      simp only [List.mem_cons, List.not_mem_nil, or_false] at among
      rcases among with rfl | rfl
      · exact ⟨.paren true, trivial, rfl⟩
      · exact ⟨.paren false, trivial, rfl⟩
    | number numeral => exact ⟨.number cs, numeral, rfl⟩
  · rintro ⟨form, written, rfl⟩
    exact form.sentence_text written

/-- The longest sentence at the front of a text. -/
structure LongestSentence (piece cs : List Char) : Prop where
  sentence : Sentence piece
  front : piece <+: cs
  longest : ∀ other, Sentence other → other <+: cs → other.length ≤ piece.length

theorem digits_run (rest : List Char) :
    rest = rest.takeWhile Text.isDigit ++ rest.dropWhile Text.isDigit ∧
      (∀ c ∈ rest.takeWhile Text.isDigit, Text.isDigit c = true) ∧
      ∀ c, (rest.dropWhile Text.isDigit).head? = some c → Text.isDigit c = false := by
  refine ⟨List.takeWhile_append_dropWhile.symm, fun c => List.mem_takeWhile_imp, fun c first => ?_⟩
  have stopped := List.head?_dropWhile_not Text.isDigit rest
  rw [first] at stopped
  exact stopped

theorem IsNumeral.append {digits run : List Char} (numeral : IsNumeral digits)
    (all : ∀ c ∈ run, Text.isDigit c = true) : IsNumeral (digits ++ run) := by
  refine ⟨by simp [numeral.1], fun c member => ?_⟩
  rcases List.mem_append.mp member with before | after
  · exact numeral.2 c before
  · exact all c after

def Suffix.extend (run : List Char) : Suffix → Suffix
  | plain => plain
  | conditional comparison threshold => conditional comparison (threshold ++ run)
  | reroll kind comparison threshold => reroll kind comparison (threshold ++ run)

namespace Suffix

theorem text_extend {suffix : Suffix} (checked : suffix ≠ plain) (run : List Char) :
    (suffix.extend run).text = suffix.text ++ run := by
  cases suffix with
  | plain => exact absurd rfl checked
  | conditional comparison threshold => simp [extend, text]
  | reroll kind given threshold => simp [extend, text]

theorem wellWritten_extend {suffix : Suffix} {run : List Char} (written : suffix.WellWritten)
    (all : ∀ c ∈ run, Text.isDigit c = true) : (suffix.extend run).WellWritten := by
  cases suffix with
  | plain => trivial
  | conditional comparison threshold => exact ⟨written.1, written.2.append all⟩
  | reroll kind given threshold => exact ⟨written.1, written.2.append all⟩

theorem extend_ne_plain {suffix : Suffix} (checked : suffix ≠ plain) (run : List Char) :
    suffix.extend run ≠ plain := by
  cases suffix with
  | plain => exact absurd rfl checked
  | conditional comparison threshold => exact Suffix.noConfusion
  | reroll kind given threshold => exact Suffix.noConfusion

end Suffix

namespace Form

theorem read_of_readDice {cs rest : List Char} {form : Form}
    (found : readDice? cs = some (form, rest)) : read? cs = some (form, rest) := by
  rw [read?, found]
  rfl

theorem read_longest_dice {count sides : List Char} {letter : Char} {suffix : Suffix}
    (written : (dice count letter sides suffix).WellWritten) (rest : List Char) :
    ∃ found later, read? ((dice count letter sides suffix).text ++ rest) = some (found, later) ∧
      (dice count letter sides suffix).text.length ≤ found.text.length := by
  obtain ⟨counted, mark, sided, suffixed⟩ := written
  obtain ⟨split, all, ends⟩ := digits_run rest
  generalize rest.takeWhile Text.isDigit = run at split all
  generalize rest.dropWhile Text.isDigit = later at split ends
  subst split
  by_cases plain : suffix = .plain
  · subst plain
    have found := read_of_readDice (readDice_eq counted mark (sided.append all) ends)
    refine ⟨_, _, by simpa [text, Suffix.text] using found, ?_⟩
    simp only [text, Suffix.text, List.length_append, List.length_cons, List.length_nil]
    omega
  · have more := Suffix.wellWritten_extend suffixed all
    have checked := Suffix.extend_ne_plain plain run
    have found := read_of_readDice (readDice_eq counted mark sided
      (Suffix.head_not_isDigit more ends))
    rw [Suffix.read_append_of_checked more checked ends, Suffix.text_extend plain] at found
    refine ⟨_, _, by simpa [text] using found, ?_⟩
    simp only [text, Suffix.text_extend plain, List.length_append, List.length_cons]
    omega

theorem count_le_of_readDice {cs rest : List Char} {form : Form}
    (found : readDice? cs = some (form, rest)) :
    (cs.takeWhile Text.isDigit).length ≤ form.text.length := by
  unfold readDice? at found
  split at found
  · cases found
  · split at found
    · simp only [Option.map_eq_some_iff, Prod.mk.injEq] at found
      obtain ⟨⟨sides, afterSides⟩, _, rfl, _⟩ := found
      simp only [text, List.length_append, List.length_cons]
      omega
    · cases found

theorem read_longest_number {digits : List Char} (numeral : IsNumeral digits) (rest : List Char) :
    ∃ found later, read? (digits ++ rest) = some (found, later) ∧
      digits.length ≤ found.text.length := by
  have run : digits.length ≤ ((digits ++ rest).takeWhile Text.isDigit).length := by
    rw [List.takeWhile_append_of_pos numeral.2, List.length_append]
    omega
  cases dice : readDice? (digits ++ rest) with
  | some found =>
    exact ⟨found.1, found.2, read_of_readDice dice, Nat.le_trans run (count_le_of_readDice dice)⟩
  | none =>
    have sign := readSign_number numeral rest
    obtain ⟨c, tail, whole, digit⟩ := numeral.head rest
    have taken : ((digits ++ rest).takeWhile Text.isDigit).isEmpty = false := by
      rw [whole, List.takeWhile_cons_of_pos digit]
      rfl
    refine ⟨.number ((digits ++ rest).takeWhile Text.isDigit),
      (digits ++ rest).dropWhile Text.isDigit, ?_, run⟩
    rw [read?, dice, sign]
    simp only [Option.orElse_none, readNumber?, readDigits?, taken, Bool.false_eq_true, ↓reduceIte,
      Option.map_some]

theorem read_longest {form : Form} (written : form.WellWritten) (rest : List Char) :
    ∃ found later, read? (form.text ++ rest) = some (found, later) ∧
      form.text.length ≤ found.text.length := by
  cases form with
  | operator op => exact ⟨_, _, read_sign written rfl rest, Nat.le_refl _⟩
  | paren isOpen => exact ⟨_, _, read_sign written rfl rest, Nat.le_refl _⟩
  | dice count letter sides suffix => exact read_longest_dice written rest
  | number digits => exact read_longest_number written rest

theorem text_injective {one two : Form} (first : one.WellWritten) (second : two.WellWritten)
    (same : one.text = two.text) : one = two := by
  have breaks : Breaks [] := fun c first => by cases first
  have found := read_append first (.inr breaks)
  rw [same, read_append second (.inr breaks)] at found
  cases found
  rfl

/-- Though the forms are tried one after the other, it is the longest that is read. -/
theorem read_eq_some_iff (cs : List Char) (form : Form) (rest : List Char) :
    read? cs = some (form, rest) ↔
      form.WellWritten ∧ form.text ++ rest = cs ∧ LongestSentence form.text cs := by
  constructor
  · intro found
    have written := wellWritten_of_read found
    have split := (read_split found).1
    refine ⟨written, split, form.sentence_text written, ⟨rest, split⟩, ?_⟩
    rintro other sentence ⟨after, whole⟩
    obtain ⟨possible, fits, rfl⟩ := (sentence_iff other).mp sentence
    obtain ⟨best, later, read, long⟩ := read_longest fits after
    rw [whole, found] at read
    cases read
    exact long
  · rintro ⟨written, split, longest⟩
    obtain ⟨found, later, read, long⟩ := read_longest written rest
    rw [split] at read
    have whole := (read_split read).1
    have short := longest.longest found.text (found.sentence_text (wellWritten_of_read read))
      ⟨later, whole⟩
    obtain ⟨same, after⟩ := List.append_inj (whole.trans split.symm) (Nat.le_antisymm short long)
    rw [read, text_injective (wellWritten_of_read read) written same, after]

end Form

end DiceFormula
