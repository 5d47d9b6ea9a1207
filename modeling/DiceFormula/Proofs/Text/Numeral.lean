import DiceFormula.Text.LetterCase
import DiceFormula.Text.Numeral
import Mathlib.Data.List.Basic
import Mathlib.Data.List.Forall2
import Mathlib.Data.List.Induction

namespace DiceFormula.Text

theorem digitValue_of_ascii {c : Char} (ascii : c.isDigit = true) :
    digitValue c = c.toNat - '0'.toNat := by
  obtain ⟨least, greatest⟩ : 0x30 ≤ c.toNat ∧ c.toNat ≤ 0x39 := Char.isDigit_iff_toNat.mp ascii
  have inside : (0x30 ≤ c.toNat && c.toNat < 0x30 + 10) = true := by
    simp only [Bool.and_eq_true, decide_eq_true_eq]
    omega
  simp [digitValue, digitValue?, digitZeros, inside]

theorem not_isBlank_of_isDigit {c : Char} (digit : isDigit c = true) : isBlank c = false := by
  obtain ⟨start, member, least, bound⟩ :
      ∃ start ∈ digitZeros, start ≤ c.toNat ∧ c.toNat < start + 10 := by
    simpa [isDigit, digitValue?] using digit
  have apart : ∀ start ∈ digitZeros, start = 0x30 ∨
      0x660 ≤ start ∧ start + 10 ≤ 0x1680 ∨ 0x1681 ≤ start ∧ start + 10 ≤ 0x2000 ∨
      0x3001 ≤ start := by decide
  have clear := apart start member
  simp only [isBlank, Bool.or_eq_false_iff, Bool.and_eq_false_iff, decide_eq_false_iff_not,
    beq_eq_false_iff_ne]
  omega

theorem numeralValue_of_ascii {digits : List Char} (ascii : ∀ c ∈ digits, c.isDigit = true) :
    numeralValue digits = Nat.ofDigitChars 10 digits 0 := by
  rw [numeralValue, Nat.ofDigitChars_eq_foldl]
  apply List.foldl_ext
  intro value c member
  rw [digitValue_of_ascii (ascii c member)]

theorem isDigit_of_mem_toDigits {n : Nat} {c : Char} (member : c ∈ Nat.toDigits 10 n) :
    c.isDigit = true :=
  Nat.isDigit_of_mem_toDigits (by decide) (by decide) member

theorem numeralValue_toDigits (n : Nat) : numeralValue (Nat.toDigits 10 n) = n := by
  rw [numeralValue_of_ascii fun _ => isDigit_of_mem_toDigits]
  exact Nat.ofDigitChars_ten_toDigits

theorem numeralValue_lt (digits : List Char) :
    numeralValue digits < Decimal.tenPow digits.length := by
  induction digits using List.reverseRecOn with
  | nil => exact Nat.one_pos
  | append_singleton digits c ih =>
    have last := digitValue_lt c
    have power : Decimal.tenPow (digits.length + 1) = Decimal.tenPow digits.length * 10 := rfl
    rw [numeralValue_concat, List.length_append, List.length_singleton, power]
    omega

theorem numeralValue_lt_of_length_le {digits : List Char} {count : Nat}
    (short : digits.length ≤ count) : numeralValue digits < Decimal.tenPow count :=
  Nat.lt_of_lt_of_le (numeralValue_lt digits) (Nat.pow_le_pow_right (by decide) short)

theorem length_toDigits_le {n count : Nat} (positive : 0 < count)
    (bound : n < Decimal.tenPow count) : (Nat.toDigits 10 n).length ≤ count :=
  (Nat.length_toDigits_le_iff (by decide) positive).mpr bound

theorem toList_toString {n : Int} (natural : 0 ≤ n) :
    (toString n).toList = Nat.toDigits 10 n.toNat := by
  obtain ⟨m, rfl⟩ := Int.eq_ofNat_of_zero_le natural
  exact Nat.toList_repr

def Padded (core : List Char) (raw : String) : Prop :=
  ∃ front back, front.all isBlank = true ∧ back.all isBlank = true ∧
    raw.toList = front ++ core ++ back

theorem dropWhile_visible {cs : List Char} (visible : ∀ c ∈ cs, isBlank c = false) :
    cs.dropWhile isBlank = cs := by
  cases cs with
  | nil => rfl
  | cons c tail =>
    apply List.dropWhile_cons_of_neg
    rw [visible c List.mem_cons_self]
    exact Bool.false_ne_true

theorem trim_of_padded {core : List Char} {raw : String} (padded : Padded core raw)
    (nonempty : core ≠ []) (visible : ∀ c ∈ core, isBlank c = false) :
    trim raw.toList = core := by
  obtain ⟨front, back, before, after, split⟩ := padded
  have kept : (core ++ back).dropWhile isBlank = core ++ back := by
    rw [List.dropWhile_append, dropWhile_visible visible, if_neg (by simpa using nonempty)]
  have first : ∀ c ∈ front, isBlank c = true := List.all_eq_true.mp before
  have last : ∀ c ∈ back.reverse, isBlank c = true := fun c member =>
    List.all_eq_true.mp after c (List.mem_reverse.mp member)
  have reversed : ∀ c ∈ core.reverse, isBlank c = false := fun c member =>
    visible c (List.mem_reverse.mp member)
  rw [trim, split, List.append_assoc, List.dropWhile_append_of_pos first, kept,
    List.reverse_append, List.dropWhile_append_of_pos last, dropWhile_visible reversed,
    List.reverse_reverse]

theorem not_blank_of_padded {core : List Char} {raw : String} (padded : Padded core raw)
    (nonempty : core ≠ []) (visible : ∀ c ∈ core, isBlank c = false) :
    raw.toList.all isBlank = false := by
  obtain ⟨front, back, _, _, split⟩ := padded
  obtain ⟨c, tail, rfl⟩ := List.exists_cons_of_ne_nil nonempty
  rw [List.all_eq_false]
  refine ⟨c, ?_, ?_⟩
  · rw [split]
    simp
  · rw [visible c List.mem_cons_self]
    exact Bool.false_ne_true

theorem groupedDigits_of_digits {digits : List Char} (nonempty : digits ≠ [])
    (all : ∀ c ∈ digits, isDigit c = true) : groupedDigits? digits = some digits := by
  fun_induction groupedDigits? digits with
  | case1 => exact absurd rfl nonempty
  | case2 c digit => rfl
  | case3 c other => exact absurd (all c List.mem_cons_self) other
  | case4 c rest digit ih =>
    have line : isDigit '_' = true := all '_' (by simp)
    exact absurd line (by decide)
  | case5 c rest other => exact absurd (all c List.mem_cons_self) other
  | case6 c rest single grouped digit ih =>
    rw [ih, Option.map_some]
    · rintro rfl
      exact single rfl
    · exact fun d member => all d (List.mem_cons_of_mem c member)
  | case7 c rest single grouped other => exact absurd (all c List.mem_cons_self) other

theorem unsigned_toDigits {n : Nat} (writable : n < Decimal.tenPow longestNumeral) :
    (groupedDigits? (Nat.toDigits 10 n)).bind readNumeral? = some n := by
  have all : ∀ c ∈ Nat.toDigits 10 n, isDigit c = true := fun c member =>
    isDigit_of_ascii c (isDigit_of_mem_toDigits member)
  have short : (Nat.toDigits 10 n).length ≤ longestNumeral :=
    length_toDigits_le (by decide) writable
  rw [groupedDigits_of_digits Nat.toDigits_ne_nil all, Option.bind_some, readNumeral?,
    if_pos short, numeralValue_toDigits]

theorem toList_toString_cases (n : Int) :
    (0 ≤ n ∧ (toString n).toList = Nat.toDigits 10 n.natAbs) ∨
      (n < 0 ∧ (toString n).toList = '-' :: Nat.toDigits 10 n.natAbs) := by
  cases n with
  | ofNat m => exact .inl ⟨Int.natCast_nonneg m, Nat.toList_repr⟩
  | negSucc m =>
    refine .inr ⟨Int.negSucc_lt_zero m, ?_⟩
    show ("-" ++ toString (m + 1)).toList = _
    rw [String.toList_append]
    exact congrArg ('-' :: ·) Nat.toList_repr

theorem isSign_or_isDigit {n : Int} {c : Char} (member : c ∈ (toString n).toList) :
    c = '-' ∨ isDigit c = true := by
  rcases toList_toString_cases n with ⟨_, digits⟩ | ⟨_, digits⟩
  · rw [digits] at member
    exact .inr (isDigit_of_ascii c (isDigit_of_mem_toDigits member))
  · rw [digits] at member
    rcases List.mem_cons.mp member with sign | member
    · exact .inl sign
    · exact .inr (isDigit_of_ascii c (isDigit_of_mem_toDigits member))

theorem visible_toString (n : Int) : ∀ c ∈ (toString n).toList, isBlank c = false := by
  intro c member
  rcases isSign_or_isDigit member with rfl | digit
  · decide
  · exact not_isBlank_of_isDigit digit

theorem toString_ne_nil (n : Int) : (toString n).toList ≠ [] := by
  rcases toList_toString_cases n with ⟨_, digits⟩ | ⟨_, digits⟩
  · rw [digits]
    exact Nat.toDigits_ne_nil
  · rw [digits]
    exact List.cons_ne_nil _ _

theorem readInteger_of_padded {n : Int} {raw : String} (writable : isWritable n = true)
    (padded : Padded (toString n).toList raw) : readInteger? raw.toList = some n := by
  have bounded : n.natAbs < Decimal.tenPow longestNumeral := of_decide_eq_true writable
  have unsigned := unsigned_toDigits bounded
  rw [readInteger?, trim_of_padded padded (toString_ne_nil n) (visible_toString n)]
  dsimp only
  rcases toList_toString_cases n with ⟨natural, digits⟩ | ⟨negative, digits⟩
  · rw [digits]
    have all : ∀ c ∈ Nat.toDigits 10 n.natAbs, isDigit c = true := fun c member =>
      isDigit_of_ascii c (isDigit_of_mem_toDigits member)
    split
    · rename_i rest same
      exact absurd (all '+' (same ▸ List.mem_cons_self)) (by decide)
    · rename_i rest same
      exact absurd (all '-' (same ▸ List.mem_cons_self)) (by decide)
    · rw [unsigned]
      exact congrArg some (Int.natAbs_of_nonneg natural)
  · rw [digits]
    show Option.map (fun value : Int => -value)
      ((groupedDigits? (Nat.toDigits 10 n.natAbs)).bind readNumeral? >>= fun value =>
        pure (value : Int)) = some n
    rw [unsigned]
    show some (-(n.natAbs : Int)) = some n
    rw [Int.ofNat_natAbs_of_nonpos (Int.le_of_lt negative), Int.neg_neg]

theorem lt_of_unsigned {digits : List Char} {n : Nat}
    (unsigned : (groupedDigits? digits).bind readNumeral? = some n) :
    n < Decimal.tenPow longestNumeral := by
  obtain ⟨grouped, _, numeral⟩ := Option.bind_eq_some_iff.mp unsigned
  unfold readNumeral? at numeral
  split at numeral
  · rename_i short
    cases numeral
    exact numeralValue_lt_of_length_le short
  · cases numeral

theorem isWritable_of_readInteger {cs : List Char} {n : Int} (read : readInteger? cs = some n) :
    isWritable n = true := by
  have bounded : ∀ (digits : List Char) (value : Int),
      ((groupedDigits? digits).bind readNumeral? >>= fun m => pure (m : Int)) = some value →
        value.natAbs < Decimal.tenPow longestNumeral := by
    intro digits value read
    obtain ⟨m, unsigned, same⟩ := Option.bind_eq_some_iff.mp read
    cases same
    exact lt_of_unsigned unsigned
  apply decide_eq_true
  unfold readInteger? at read
  dsimp only at read
  split at read
  all_goals obtain ⟨value, unsigned, rfl⟩ := Option.map_eq_some_iff.mp read
  · exact bounded _ value unsigned
  · rw [Int.natAbs_neg]
    exact bounded _ value unsigned
  · exact bounded _ value unsigned

/-- The word with any of its letters in capitals. -/
def SpelledAs (word spelled : List Char) : Prop :=
  List.Forall₂ (fun letter c => c = letter ∨ c = letter.toUpper) word spelled

def IsSmall (word : List Char) : Prop :=
  ∀ letter ∈ word,
    (lowerAscii [letter] = [letter] ∧ lowerAscii [letter.toUpper] = [letter]) ∧
      isBlank letter = false ∧ isBlank letter.toUpper = false

instance : DecidablePred IsSmall := fun word => List.decidableBAll _ word

theorem IsSmall.lowered {word : List Char} {letter c : Char} (small : IsSmall word)
    (member : letter ∈ word) (same : c = letter ∨ c = letter.toUpper) :
    lowerAscii [c] = [letter] ∧ isBlank c = false := by
  obtain ⟨⟨small, capital⟩, visible, visibleCapital⟩ := small letter member
  rcases same with rfl | rfl
  · exact ⟨small, visible⟩
  · exact ⟨capital, visibleCapital⟩

variable {word spelled : List Char}

theorem spelled_ne_nil (nonempty : word ≠ []) (spells : SpelledAs word spelled) :
    spelled ≠ [] := by
  rintro rfl
  exact nonempty (List.forall₂_nil_right_iff.mp spells)

theorem lowerAscii_of_spelledAs (small : IsSmall word) (spells : SpelledAs word spelled) :
    lowerAscii spelled = word := by
  induction spells with
  | nil => rfl
  | @cons letter c word spelled same rest ih =>
    have first : lowerAscii [c] = [letter] :=
      (small.lowered List.mem_cons_self same).1
    have others := ih fun other member => small other (List.mem_cons_of_mem letter member)
    show lowerAscii [c] ++ lowerAscii spelled = _
    rw [first, others, List.singleton_append]

theorem visible_of_spelledAs (small : IsSmall word) (spells : SpelledAs word spelled) :
    ∀ c ∈ spelled, isBlank c = false := by
  induction spells with
  | nil => simp
  | @cons letter c word spelled same rest ih =>
    intro other member
    rcases List.mem_cons.mp member with rfl | member
    · exact (small.lowered List.mem_cons_self same).2
    · exact ih (fun other member => small other (List.mem_cons_of_mem letter member)) other member

end DiceFormula.Text
