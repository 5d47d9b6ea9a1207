import DiceFormula.Proofs.Text.Numeral
import DiceFormula.Token.Form
import Mathlib.Data.List.TakeWhile
import Mathlib.Tactic.FinCases

namespace DiceFormula

def IsNumeral (cs : List Char) : Prop :=
  cs ≠ [] ∧ ∀ c ∈ cs, Text.isDigit c = true

/-- The comparisons that rerolls know. Conditional dice know the doubled equality sign, too. -/
def Comparison.simple : List Comparison :=
  [.greater, .greaterOrEqual, .less, .lessOrEqual, .equal]

def Comparison.spelled : List Comparison := .doubledEqual :: simple

def Suffix.WellWritten : Suffix → Prop
  | plain => True
  | conditional comparison threshold => comparison ∈ Comparison.spelled ∧ IsNumeral threshold
  | reroll _ comparison threshold =>
    (∀ given, comparison = some given → given ∈ Comparison.simple) ∧ IsNumeral threshold

def Form.WellWritten : Form → Prop
  | dice count letter sides suffix =>
    (∀ c ∈ count, Text.isDigit c = true) ∧ (letter = 'd' ∨ letter = 'D') ∧ IsNumeral sides ∧
      suffix.WellWritten
  | operator op => op.isAdditive = true ∨ op.isMultiplicative = true
  | paren _ => True
  | number digits => IsNumeral digits

theorem isNumeral_of_readDigits {cs digits rest : List Char}
    (found : readDigits? cs = some (digits, rest)) : IsNumeral digits := by
  refine ⟨(readDigits_split found).2, fun c member => ?_⟩
  simp only [readDigits?] at found
  split at found
  · cases found
  · cases found
    exact List.mem_takeWhile_imp member

theorem Comparison.spelled_of_read {cs rest : List Char} {comparison : Comparison}
    (found : Comparison.read? cs = some (comparison, rest)) : comparison ∈ spelled := by
  unfold Comparison.read? at found
  split at found
  all_goals
    cases found
    try decide

namespace Suffix

theorem wellWritten_of_readConditional {cs rest : List Char} {suffix : Suffix}
    (found : readConditional? cs = some (suffix, rest)) : suffix.WellWritten := by
  simp only [readConditional?, bind, Option.bind_eq_some_iff, pure, Option.some.injEq,
    Prod.mk.injEq] at found
  obtain ⟨⟨comparison, afterComparison⟩, compared, ⟨threshold, after⟩, digits, rfl, rfl⟩ := found
  exact ⟨Comparison.spelled_of_read compared, isNumeral_of_readDigits digits⟩

theorem wellWritten_of_readReroll {cs rest : List Char} {suffix : Suffix}
    (found : readReroll? cs = some (suffix, rest)) : suffix.WellWritten := by
  unfold readReroll? at found
  split at found
  · rename_i afterMark
    revert found
    generalize RerollKind.read afterMark = marker
    obtain ⟨kind, afterKind⟩ := marker
    intro found
    simp only at found
    split at found
    · cases found
    · rename_i comparison afterComparison single compared
      simp only [Option.map_eq_some_iff, Prod.mk.injEq] at found
      obtain ⟨⟨threshold, after⟩, digits, rfl, rfl⟩ := found
      refine ⟨?_, isNumeral_of_readDigits digits⟩
      intro given same
      cases same
      rcases List.mem_cons.mp (Comparison.spelled_of_read compared) with doubled | simple
      · exact absurd doubled single
      · exact simple
    · simp only [Option.map_eq_some_iff, Prod.mk.injEq] at found
      obtain ⟨⟨threshold, after⟩, digits, rfl, rfl⟩ := found
      exact ⟨by simp, isNumeral_of_readDigits digits⟩
  · cases found

theorem wellWritten_read (cs : List Char) : (read cs).1.WellWritten := by
  unfold read
  cases conditional : readConditional? cs with
  | some found => exact wellWritten_of_readConditional conditional
  | none =>
    cases reroll : readReroll? cs with
    | some found => simpa using wellWritten_of_readReroll reroll
    | none => trivial

end Suffix

namespace Form

theorem wellWritten_of_readDice {cs rest : List Char} {form : Form}
    (found : readDice? cs = some (form, rest)) : form.WellWritten := by
  unfold readDice? at found
  split at found
  · cases found
  · split at found
    · rename_i letter
      simp only [Option.map_eq_some_iff, Prod.mk.injEq] at found
      obtain ⟨⟨sides, afterSides⟩, digits, rfl, rfl⟩ := found
      exact ⟨fun c => List.mem_takeWhile_imp, letter, isNumeral_of_readDigits digits,
        Suffix.wellWritten_read afterSides⟩
    · cases found

theorem wellWritten_of_readSign {cs rest : List Char} {form : Form}
    (found : readSign? cs = some (form, rest)) : form.WellWritten := by
  unfold readSign? at found
  split at found
  all_goals
    cases found
    try simp [WellWritten, Operator.isAdditive, Operator.isMultiplicative]

theorem wellWritten_of_readNumber {cs rest : List Char} {form : Form}
    (found : readNumber? cs = some (form, rest)) : form.WellWritten := by
  simp only [readNumber?, Option.map_eq_some_iff, Prod.mk.injEq] at found
  obtain ⟨⟨digits, after⟩, digitsFound, rfl, rfl⟩ := found
  exact isNumeral_of_readDigits digitsFound

theorem wellWritten_of_read {cs rest : List Char} {form : Form}
    (found : read? cs = some (form, rest)) : form.WellWritten := by
  unfold read? at found
  cases dice : readDice? cs with
  | some _ =>
    simp only [dice, Option.orElse_some] at found
    cases found
    exact wellWritten_of_readDice dice
  | none =>
    cases sign : readSign? cs with
    | some _ =>
      simp only [dice, sign, Option.orElse_none, Option.orElse_some] at found
      cases found
      exact wellWritten_of_readSign sign
    | none =>
      simp only [dice, sign, Option.orElse_none] at found
      exact wellWritten_of_readNumber found

end Form

def Breaks (cs : List Char) : Prop :=
  ∀ c, cs.head? = some c → c ∈ ['+', '-', '*', '/', '(', ')']

theorem Text.ne_of_isDigit {c other : Char} (digit : Text.isDigit c = true)
    (different : Text.isDigit other = false) : c ≠ other := by
  rintro rfl
  rw [digit] at different
  cases different

theorem Breaks.not_isDigit {cs : List Char} (breaks : Breaks cs) (c : Char)
    (first : cs.head? = some c) : Text.isDigit c = false := by
  have sign := breaks c first
  fin_cases sign
  all_goals rfl

theorem takeWhile_digits {digits : List Char} (all : ∀ c ∈ digits, Text.isDigit c = true)
    (rest : List Char) (ends : ∀ c, rest.head? = some c → Text.isDigit c = false) :
    (digits ++ rest).takeWhile Text.isDigit = digits ∧
      (digits ++ rest).dropWhile Text.isDigit = rest := by
  rw [List.takeWhile_append_of_pos all, List.dropWhile_append_of_pos all]
  cases rest with
  | nil => simp
  | cons c tail => simp [ends c rfl]

theorem readDigits_append {digits rest : List Char} (numeral : IsNumeral digits)
    (ends : ∀ c, rest.head? = some c → Text.isDigit c = false) :
    readDigits? (digits ++ rest) = some (digits, rest) := by
  obtain ⟨taken, dropped⟩ := takeWhile_digits numeral.2 rest ends
  simp [readDigits?, taken, dropped, numeral.1]

theorem IsNumeral.head {digits : List Char} (numeral : IsNumeral digits) (rest : List Char) :
    ∃ c tail, digits ++ rest = c :: tail ∧ Text.isDigit c = true := by
  cases digits with
  | nil => exact absurd rfl numeral.1
  | cons c tail => exact ⟨c, tail ++ rest, rfl, numeral.2 c List.mem_cons_self⟩

theorem Comparison.read_append {comparison : Comparison} {digits : List Char}
    (spelled : comparison ∈ spelled) (numeral : IsNumeral digits) (rest : List Char) :
    Comparison.read? (comparison.symbol.toList ++ (digits ++ rest)) =
      some (comparison, digits ++ rest) := by
  obtain ⟨c, tail, whole, digit⟩ := numeral.head rest
  have single : c ≠ '=' := Text.ne_of_isDigit digit (by decide)
  rw [whole]
  simp only [Comparison.spelled, Comparison.simple, List.mem_cons, List.not_mem_nil,
    or_false] at spelled
  rcases spelled with rfl | rfl | rfl | rfl | rfl | rfl
  all_goals simp [Comparison.symbol, Comparison.read?, single]

theorem Comparison.read_digits {digits : List Char} (numeral : IsNumeral digits)
    (rest : List Char) : Comparison.read? (digits ++ rest) = none := by
  obtain ⟨c, tail, whole, digit⟩ := numeral.head rest
  have greater : c ≠ '>' := Text.ne_of_isDigit digit (by decide)
  have less : c ≠ '<' := Text.ne_of_isDigit digit (by decide)
  have equal : c ≠ '=' := Text.ne_of_isDigit digit (by decide)
  rw [whole]
  simp [Comparison.read?, greater, less, equal]

theorem RerollKind.read_append {given : Option Comparison} {digits : List Char}
    (simple : ∀ comparison, given = some comparison → comparison ∈ Comparison.simple)
    (numeral : IsNumeral digits) (kind : RerollKind) (rest : List Char) :
    RerollKind.read (kind.letter.toList ++
        ((given.elim [] fun c => c.symbol.toList) ++ (digits ++ rest))) =
      (kind, (given.elim [] fun c => c.symbol.toList) ++ (digits ++ rest)) := by
  obtain ⟨c, tail, whole, digit⟩ := numeral.head rest
  have once : c ≠ 'o' := Text.ne_of_isDigit digit (by decide)
  have recursive : c ≠ 'r' := Text.ne_of_isDigit digit (by decide)
  rw [whole]
  cases kind with
  | once => rfl
  | recursive => rfl
  | exploding =>
    cases given with
    | none => simp [RerollKind.letter, RerollKind.read, once, recursive]
    | some comparison =>
      have member := simple comparison rfl
      simp only [Comparison.simple, List.mem_cons, List.not_mem_nil, or_false] at member
      rcases member with rfl | rfl | rfl | rfl | rfl
      all_goals rfl

namespace Suffix

theorem readReroll_append {kind : RerollKind} {given : Option Comparison} {digits rest : List Char}
    (simple : ∀ comparison, given = some comparison → comparison ∈ Comparison.simple)
    (numeral : IsNumeral digits) (ends : ∀ c, rest.head? = some c → Text.isDigit c = false) :
    readReroll? ((reroll kind given digits).text ++ rest) =
      some (reroll kind given digits, rest) := by
  have marker := RerollKind.read_append simple numeral kind rest
  have threshold := readDigits_append numeral ends
  simp only [text, List.cons_append, List.append_assoc, readReroll?, marker]
  cases given with
  | none => simp [Comparison.read_digits numeral, threshold]
  | some comparison =>
    have member := simple comparison rfl
    have compared := Comparison.read_append (List.mem_cons_of_mem _ member) numeral rest
    have single : comparison ≠ .doubledEqual := by
      rintro rfl
      exact absurd member (by decide)
    simp only [Option.elim_some, compared]
    cases comparison
    all_goals simp_all

theorem read_append_of_checked {suffix : Suffix} {rest : List Char}
    (written : suffix.WellWritten) (checked : suffix ≠ plain)
    (ends : ∀ c, rest.head? = some c → Text.isDigit c = false) :
    read (suffix.text ++ rest) = (suffix, rest) := by
  cases suffix with
  | plain => exact absurd rfl checked
  | conditional comparison digits =>
    have compared := Comparison.read_append written.1 written.2 rest
    have threshold := readDigits_append written.2 ends
    have found : readConditional? (comparison.symbol.toList ++ (digits ++ rest)) =
        some (conditional comparison digits, rest) := by
      simp [readConditional?, compared, threshold]
    simp [read, text, found]
  | reroll kind given digits =>
    have unconditional : readConditional? ((reroll kind given digits).text ++ rest) = none := rfl
    simp [read, unconditional, readReroll_append written.1 written.2 ends]

theorem read_append {suffix : Suffix} {rest : List Char} (written : suffix.WellWritten)
    (breaks : Breaks rest) : read (suffix.text ++ rest) = (suffix, rest) := by
  cases suffix with
  | plain =>
    cases rest with
    | nil => rfl
    | cons c tail =>
      have sign := breaks c rfl
      fin_cases sign
      all_goals rfl
  | conditional comparison digits =>
    exact read_append_of_checked written Suffix.noConfusion breaks.not_isDigit
  | reroll kind given digits =>
    exact read_append_of_checked written Suffix.noConfusion breaks.not_isDigit

theorem head_not_isDigit {suffix : Suffix} {rest : List Char} (written : suffix.WellWritten)
    (ends : ∀ c, rest.head? = some c → Text.isDigit c = false) (c : Char)
    (first : (suffix.text ++ rest).head? = some c) : Text.isDigit c = false := by
  cases suffix with
  | plain => exact ends c first
  | conditional comparison digits =>
    have member := written.1
    simp only [Comparison.spelled, Comparison.simple, List.mem_cons, List.not_mem_nil,
      or_false] at member
    rcases member with rfl | rfl | rfl | rfl | rfl | rfl
    all_goals
      cases first
      decide
  | reroll kind given digits =>
    cases first
    decide

end Suffix

namespace Form

theorem readDice_eq {count sides : List Char} {letter : Char}
    (digits : ∀ c ∈ count, Text.isDigit c = true) (mark : letter = 'd' ∨ letter = 'D')
    (numeral : IsNumeral sides) {after : List Char}
    (ends : ∀ c, after.head? = some c → Text.isDigit c = false) :
    readDice? (count ++ letter :: (sides ++ after)) =
      some (dice count letter sides (Suffix.read after).1, (Suffix.read after).2) := by
  have stops : Text.isDigit letter = false := by
    rcases mark with rfl | rfl <;> decide
  obtain ⟨taken, dropped⟩ := takeWhile_digits digits (letter :: (sides ++ after))
    (fun c first => by cases first; exact stops)
  have sidesRead := readDigits_append numeral ends
  simp only [readDice?, dropped, mark, if_true, taken, sidesRead, Option.map_some]

theorem readDice_append {count sides rest : List Char} {letter : Char} {suffix : Suffix}
    (written : (dice count letter sides suffix).WellWritten) (breaks : Breaks rest) :
    readDice? ((dice count letter sides suffix).text ++ rest) =
      some (dice count letter sides suffix, rest) := by
  obtain ⟨digits, mark, numeral, suffixed⟩ := written
  have ends := Suffix.head_not_isDigit suffixed breaks.not_isDigit
  have found := readDice_eq digits mark numeral ends
  rw [Suffix.read_append suffixed breaks] at found
  simpa only [text, List.append_assoc, List.cons_append] using found

theorem readDice_number {digits rest : List Char} (numeral : IsNumeral digits)
    (breaks : Breaks rest) : readDice? (digits ++ rest) = none := by
  have dropped := (takeWhile_digits numeral.2 rest breaks.not_isDigit).2
  rw [readDice?, dropped]
  cases rest with
  | nil => rfl
  | cons c tail =>
    have sign := breaks c rfl
    fin_cases sign
    all_goals rfl

theorem readSign_number {digits : List Char} (numeral : IsNumeral digits) (rest : List Char) :
    readSign? (digits ++ rest) = none := by
  obtain ⟨c, tail, whole, digit⟩ := numeral.head rest
  rw [whole]
  unfold readSign?
  split
  case h_7 => rfl
  all_goals
    rename_i same
    cases same
    exact absurd digit (by decide)

def isSign : Form → Bool
  | operator _ | paren _ => true
  | _ => false

theorem read_sign {form : Form} (written : form.WellWritten) (sign : form.isSign = true)
    (rest : List Char) : read? (form.text ++ rest) = some (form, rest) := by
  cases form with
  | dice count letter sides suffix => cases sign
  | number digits => cases sign
  | paren isOpen => cases isOpen <;> rfl
  | operator op =>
    cases op with
    | other symbol => rcases written with additive | multiplicative <;> contradiction
    | _ => rfl

theorem read_append {form : Form} {rest : List Char} (written : form.WellWritten)
    (ends : form.isSign = true ∨ Breaks rest) : read? (form.text ++ rest) = some (form, rest) := by
  rcases ends with sign | breaks
  · exact read_sign written sign rest
  · cases form with
    | operator op => exact read_sign written rfl rest
    | paren isOpen => exact read_sign written rfl rest
    | dice count letter sides suffix => simp [read?, readDice_append written breaks]
    | number digits =>
      have dice := readDice_number written breaks
      have sign := readSign_number written rest
      have numeral := readDigits_append written breaks.not_isDigit
      simp [read?, text, dice, sign, readNumber?, numeral]

end Form

theorem condense_digits {digits : List Char} (all : ∀ c ∈ digits, Text.isDigit c = true) :
    Text.condense digits = digits := by
  rw [Text.condense, List.filter_eq_self]
  intro c member
  rw [Text.not_isBlank_of_isDigit (all c member)]
  rfl

theorem Comparison.condense_symbol {comparison : Comparison} (spelled : comparison ∈ spelled) :
    Text.condense comparison.symbol.toList = comparison.symbol.toList := by
  simp only [Comparison.spelled, Comparison.simple, List.mem_cons, List.not_mem_nil,
    or_false] at spelled
  rcases spelled with rfl | rfl | rfl | rfl | rfl | rfl
  all_goals decide

theorem Suffix.condense_text {suffix : Suffix} (written : suffix.WellWritten) :
    Text.condense suffix.text = suffix.text := by
  cases suffix with
  | plain => rfl
  | conditional comparison threshold =>
    rw [text, Text.condense_append, Comparison.condense_symbol written.1,
      condense_digits written.2.2]
  | reroll kind given threshold =>
    have mark : Text.condense ('r' :: kind.letter.toList) = 'r' :: kind.letter.toList := by
      cases kind <;> decide
    have compared : Text.condense (given.elim [] fun c => c.symbol.toList) =
        given.elim [] fun c => c.symbol.toList := by
      cases given with
      | none => rfl
      | some comparison =>
        exact Comparison.condense_symbol (List.mem_cons_of_mem _ (written.1 comparison rfl))
    rw [text, Text.condense_append, Text.condense_append, mark, compared,
      condense_digits written.2.2]

theorem Form.condense_text {form : Form} (written : form.WellWritten) :
    Text.condense form.text = form.text := by
  cases form with
  | number digits => exact condense_digits written.2
  | paren isOpen => cases isOpen <;> decide
  | operator op =>
    cases op with
    | other symbol => rcases written with additive | multiplicative <;> contradiction
    | _ => decide
  | dice count letter sides suffix =>
    obtain ⟨digits, mark, numeral, suffixed⟩ := written
    have marked : Text.condense [letter] = [letter] := by
      rcases mark with rfl | rfl <;> decide
    have split : (dice count letter sides suffix).text =
        count ++ ([letter] ++ (sides ++ suffix.text)) := by
      simp [text]
    rw [split, Text.condense_append, Text.condense_append, Text.condense_append,
      condense_digits digits, marked, condense_digits numeral.2, Suffix.condense_text suffixed]

end DiceFormula
