import DiceFormula.Proofs.Run
import DiceFormula.Proofs.Token.Written
import DiceFormula.Token.Scan

namespace DiceFormula

def Pool.Canonical (pool : Pool) : Prop :=
  (1 ≤ pool.count ∧ pool.count ≤ mostDice) ∧ 1 ≤ pool.sides ∧ pool.sides ≤ mostSides

/-- An operand that a text can give. -/
def Atom.Canonical : Atom → Prop
  | number value => 0 ≤ value ∧ (toString value).length ≤ Text.longestNumeral
  | dice pool => pool.Canonical
  | conditional pool check =>
    pool.Canonical ∧ check.comparison ∈ Comparison.spelled ∧
      1 ≤ check.threshold ∧ check.threshold ≤ pool.sides
  | reroll pool _ check =>
    pool.Canonical ∧ check.comparison ∈ Comparison.simple ∧
      1 ≤ check.threshold ∧ check.threshold ≤ pool.sides

def numeralOf (n : Int) : List Char := (toString n).toList

def Pool.form (pool : Pool) (suffix : Suffix) : Form :=
  .dice (numeralOf pool.count) 'd' (numeralOf pool.sides) suffix

def Check.written? (check : Check) : Option Comparison :=
  if check.comparison = .equal then none else some check.comparison

def Atom.form : Atom → Form
  | number value => .number (numeralOf value)
  | dice pool => pool.form .plain
  | conditional pool check =>
    pool.form (.conditional check.comparison (numeralOf check.threshold))
  | reroll pool kind check =>
    pool.form (.reroll kind check.written? (numeralOf check.threshold))

theorem Pool.text_form (pool : Pool) (suffix : Suffix) :
    (pool.form suffix).text = pool.render.toList ++ suffix.text := by
  have rendered : pool.render.toList = numeralOf pool.count ++ 'd' :: numeralOf pool.sides := by
    simp only [render, numeralOf, String.toList_append, List.append_assoc]
    rfl
  rw [rendered]
  rfl

theorem Atom.text_form (a : Atom) : a.form.text = a.render.toList := by
  cases a with
  | number value => rfl
  | dice pool => rw [form, Pool.text_form, Suffix.text, List.append_nil, render]
  | conditional pool check =>
    rw [form, Pool.text_form, Suffix.text, render, Check.render, String.toList_append,
      String.toList_append]
    rfl
  | reroll pool kind check =>
    rw [form, Pool.text_form]
    by_cases terse : check.comparison = .equal
    · simp [render, Suffix.text, Check.renderTerse, Check.written?, numeralOf, terse]
    · simp [render, Suffix.text, Check.renderTerse, Check.written?, Check.render, numeralOf, terse]

theorem isNumeral_numeralOf {n : Int} (natural : 0 ≤ n) : IsNumeral (numeralOf n) := by
  rw [numeralOf, Text.toList_toString natural]
  exact ⟨Nat.toDigits_ne_nil, fun c member =>
    Text.isDigit_of_ascii c (Text.isDigit_of_mem_toDigits member)⟩

theorem Check.simple_of_written {check : Check} (simple : check.comparison ∈ Comparison.simple)
    (given : Comparison) (written : check.written? = some given) : given ∈ Comparison.simple := by
  unfold written? at written
  split at written
  · cases written
  · cases written
    exact simple

theorem Pool.wellWritten_form {pool : Pool} {suffix : Suffix} (canonical : pool.Canonical)
    (written : suffix.WellWritten) : (pool.form suffix).WellWritten := by
  obtain ⟨⟨count, _⟩, sides, _⟩ := canonical
  exact ⟨(isNumeral_numeralOf (by omega)).2, .inl rfl, isNumeral_numeralOf (by omega), written⟩

theorem Atom.wellWritten_form {a : Atom} (canonical : a.Canonical) : a.form.WellWritten := by
  cases a with
  | number value => exact isNumeral_numeralOf canonical.1
  | dice pool => exact Pool.wellWritten_form canonical trivial
  | conditional pool check =>
    obtain ⟨dice, spelled, least, _⟩ := canonical
    exact Pool.wellWritten_form dice ⟨spelled, isNumeral_numeralOf (by omega)⟩
  | reroll pool kind check =>
    obtain ⟨dice, simple, least, _⟩ := canonical
    have numeral := isNumeral_numeralOf (n := check.threshold) (by omega)
    exact Pool.wellWritten_form dice ⟨Check.simple_of_written simple, numeral⟩

theorem readNumeral_numeralOf {n : Int} (natural : 0 ≤ n)
    (short : (toString n).length ≤ Text.longestNumeral) :
    readNumeral (numeralOf n) = .ok n.toNat := by
  have value := Text.numeralValue_toDigits n.toNat
  rw [← Text.toList_toString natural] at value
  rw [← String.length_toList] at short
  simp only [readNumeral, Text.readNumeral?, numeralOf, short, ↓reduceIte, value]

theorem length_toString_le {n : Int} (natural : 0 ≤ n) (small : n ≤ mostSides) :
    (toString n).length ≤ Text.longestNumeral := by
  rw [← String.length_toList, Text.toList_toString natural]
  have limit : mostSides < Decimal.tenPow 5 := by decide
  have digits : (Nat.toDigits 10 n.toNat).length ≤ 5 :=
    Text.length_toDigits_le (by decide) (by omega)
  exact Nat.le_trans digits (by decide)

def readCount (count : List Char) : Except ScanFault Nat :=
  if count.isEmpty then .ok 1 else readNumeral count

theorem readPool_eq (position : Nat) (count sides : List Char) :
    readPool position count sides = (do
      let dice ← readCount count
      let faces ← readNumeral sides
      if dice = 0 then throw (.rejected position (.countNotPositive dice))
      if faces = 0 then throw (.rejected position (.sidesNotPositive faces))
      if mostDice < dice then throw (.rejected position (.tooManyDice dice))
      if mostSides < faces then throw (.rejected position (.tooManySides faces))
      return ⟨dice, faces⟩) := by
  unfold readPool readCount
  split
  all_goals rfl

theorem readPool_eq_ok_iff (position : Nat) (count sides : List Char) (pool : Pool) :
    readPool position count sides = .ok pool ↔
      ∃ dice faces : Nat, readCount count = .ok dice ∧ readNumeral sides = .ok faces ∧
        pool = ⟨dice, faces⟩ ∧ pool.Canonical := by
  rw [readPool_eq]
  constructor
  · intro read
    obtain ⟨dice, counted, read⟩ := ok_of_bind read
    obtain ⟨faces, sided, read⟩ := ok_of_bind read
    refine ⟨dice, faces, counted, sided, ?_⟩
    dsimp only at read
    split at read
    · cases read
    split at read
    · cases read
    split at read
    · cases read
    split at read
    · cases read
    cases read
    refine ⟨rfl, ?_⟩
    dsimp only [Pool.Canonical]
    omega
  · rintro ⟨dice, faces, counted, sided, rfl, canonical⟩
    dsimp only [Pool.Canonical] at canonical
    rw [counted, ok_bind, sided, ok_bind, if_neg (by omega), if_neg (by omega), if_neg (by omega),
      if_neg (by omega)]
    rfl

theorem readThreshold_eq_ok_iff (position : Nat) (pool : Pool) (digits : List Char)
    (threshold : Int) :
    readThreshold position pool digits = .ok threshold ↔
      ∃ value : Nat, readNumeral digits = .ok value ∧ threshold = value ∧ 1 ≤ threshold ∧
        threshold ≤ pool.sides := by
  unfold readThreshold
  constructor
  · intro read
    obtain ⟨value, numeral, read⟩ := ok_of_bind read
    refine ⟨value, numeral, ?_⟩
    split at read
    · cases read
    cases read
    omega
  · rintro ⟨value, numeral, rfl, inside⟩
    rw [numeral, ok_bind, if_neg (by omega)]
    rfl

theorem readPool_numeralOf {pool : Pool} (canonical : pool.Canonical) (position : Nat) :
    readPool position (numeralOf pool.count) (numeralOf pool.sides) = .ok pool := by
  have whole := canonical
  obtain ⟨⟨countLeast, countMost⟩, sidesLeast, sidesMost⟩ := canonical
  have fewer : (mostDice : Int) ≤ mostSides := by decide
  have count := readNumeral_numeralOf (n := pool.count) (by omega)
    (length_toString_le (by omega) (by omega))
  have sides := readNumeral_numeralOf (n := pool.sides) (by omega)
    (length_toString_le (by omega) sidesMost)
  have given : (numeralOf pool.count).isEmpty = false := by
    simpa using (isNumeral_numeralOf (n := pool.count) (by omega)).1
  have counted : readCount (numeralOf pool.count) = .ok pool.count.toNat := by
    rw [readCount, given]
    exact count
  refine (readPool_eq_ok_iff position _ _ pool).mpr ⟨_, _, counted, sides, ?_, whole⟩
  rw [Int.toNat_of_nonneg (by omega), Int.toNat_of_nonneg (by omega)]

theorem readThreshold_numeralOf {pool : Pool} {threshold : Int} (least : 1 ≤ threshold)
    (most : threshold ≤ pool.sides) (sides : pool.sides ≤ mostSides) (position : Nat) :
    readThreshold position pool (numeralOf threshold) = .ok threshold := by
  have value := readNumeral_numeralOf (n := threshold) (by omega)
    (length_toString_le (by omega) (by omega))
  have natural := Int.toNat_of_nonneg (a := threshold) (by omega)
  exact (readThreshold_eq_ok_iff position pool _ threshold).mpr
    ⟨_, value, natural.symm, least, most⟩

theorem Atom.lexeme_form {a : Atom} (canonical : a.Canonical) (position : Nat) :
    a.form.lexeme position = .ok (.atom a) := by
  cases a with
  | number value =>
    obtain ⟨natural, short⟩ := canonical
    simp only [form, Form.lexeme, readNumeral_numeralOf natural short, Bind.bind, Except.bind,
      Pure.pure, Except.pure, Int.toNat_of_nonneg natural]
  | dice pool =>
    simp only [form, Pool.form, Form.lexeme, readPool_numeralOf canonical, Bind.bind, Except.bind,
      Pure.pure, Except.pure]
  | conditional pool check =>
    obtain ⟨dice, _, least, most⟩ := canonical
    simp only [form, Pool.form, Form.lexeme, readPool_numeralOf dice,
      readThreshold_numeralOf least most dice.2.2, Bind.bind, Except.bind, Pure.pure, Except.pure]
  | reroll pool kind check =>
    obtain ⟨dice, _, least, most⟩ := canonical
    have restored : check.written?.getD .equal = check.comparison := by
      unfold Check.written?
      split
      · next terse => exact terse.symm
      · rfl
    simp only [form, Pool.form, Form.lexeme, readPool_numeralOf dice,
      readThreshold_numeralOf least most dice.2.2, Bind.bind, Except.bind, Pure.pure, Except.pure,
      restored]

theorem value_of_readNumeral {digits : List Char} {n : Nat} (read : readNumeral digits = .ok n) :
    digits.length ≤ Text.longestNumeral ∧ Text.numeralValue digits = n := by
  unfold readNumeral Text.readNumeral? at read
  split at read
  · rename_i shown
    split at shown
    · rename_i short
      cases shown
      cases read
      exact ⟨short, rfl⟩
    · cases shown
  · cases read

theorem canonical_of_readPool {position : Nat} {count sides : List Char} {pool : Pool}
    (read : readPool position count sides = .ok pool) : pool.Canonical := by
  obtain ⟨_, _, _, _, _, canonical⟩ := (readPool_eq_ok_iff position count sides pool).mp read
  exact canonical

theorem within_of_readThreshold {position : Nat} {pool : Pool} {digits : List Char}
    {threshold : Int} (read : readThreshold position pool digits = .ok threshold) :
    1 ≤ threshold ∧ threshold ≤ pool.sides := by
  obtain ⟨_, _, _, inside⟩ := (readThreshold_eq_ok_iff position pool digits threshold).mp read
  exact inside

theorem canonical_of_lexeme {position : Nat} {form : Form} {a : Atom} (written : form.WellWritten)
    (read : form.lexeme position = .ok (.atom a)) : a.Canonical := by
  cases form with
  | operator op => cases read
  | paren isOpen => cases read
  | number digits =>
    obtain ⟨n, numeral, done⟩ := ok_of_bind read
    obtain ⟨short, value⟩ := value_of_readNumeral numeral
    cases done
    have natural : (0 : Int) ≤ n := Int.natCast_nonneg n
    refine ⟨natural, ?_⟩
    rw [← String.length_toList, Text.toList_toString natural, Int.toNat_natCast, ← value]
    exact Text.length_toDigits_le (by decide) (Text.numeralValue_lt_of_length_le short)
  | dice count letter sides suffix =>
    obtain ⟨pool, dice, done⟩ := ok_of_bind read
    have canonical := canonical_of_readPool dice
    cases suffix with
    | plain =>
      cases done
      exact canonical
    | conditional comparison digits =>
      obtain ⟨threshold, checked, done⟩ := ok_of_bind done
      cases done
      exact ⟨canonical, written.2.2.2.1, within_of_readThreshold checked⟩
    | reroll kind comparison digits =>
      obtain ⟨threshold, checked, done⟩ := ok_of_bind done
      cases done
      refine ⟨canonical, ?_, within_of_readThreshold checked⟩
      cases comparison with
      | none => exact (by decide : Comparison.equal ∈ Comparison.simple)
      | some given => exact written.2.2.2.1 given rfl

end DiceFormula
