import DiceFormula.Proofs.Token.Scan

namespace DiceFormula

/-- Somewhere in the text stands a numeral that is too long to be read. -/
def HasLongNumeral (cs : List Char) : Prop :=
  ∃ digits, digits <:+: cs ∧ IsNumeral digits ∧ Text.longestNumeral < digits.length

theorem HasLongNumeral.mono {part cs : List Char} (long : HasLongNumeral part)
    (within : part <:+: cs) : HasLongNumeral cs := by
  obtain ⟨digits, inside, numeral, length⟩ := long
  exact ⟨digits, inside.trans within, numeral, length⟩

theorem HasLongNumeral.length_lt {cs : List Char} (long : HasLongNumeral cs) :
    Text.longestNumeral < cs.length := by
  obtain ⟨digits, inside, _, length⟩ := long
  exact Nat.lt_of_lt_of_le length inside.length_le

theorem readNumeral_of_long {digits : List Char} (long : Text.longestNumeral < digits.length) :
    readNumeral digits = .error .numeralTooLong := by
  rw [readNumeral, Text.readNumeral?, if_neg (Nat.not_le.mpr long)]

theorem long_of_readNumeral {digits : List Char} {fault : ScanFault}
    (failed : readNumeral digits = .error fault) : Text.longestNumeral < digits.length := by
  by_contra short
  rw [readNumeral, Text.readNumeral?, if_pos (Nat.not_lt.mp short)] at failed
  cases failed

theorem long_of_readPool {position : Nat} {count sides : List Char}
    (failed : readPool position count sides = .error .numeralTooLong) :
    Text.longestNumeral < count.length ∨ Text.longestNumeral < sides.length := by
  rw [readPool_eq] at failed
  rcases error_of_bind failed with counted | ⟨dice, _, failed⟩
  · rw [readCount] at counted
    split at counted
    · cases counted
    · exact .inl (long_of_readNumeral counted)
  rcases error_of_bind failed with sided | ⟨faces, _, failed⟩
  · exact .inr (long_of_readNumeral sided)
  dsimp only at failed
  split at failed
  · cases failed
  split at failed
  · cases failed
  split at failed
  · cases failed
  split at failed
  all_goals cases failed

theorem long_of_readThreshold {position : Nat} {pool : Pool} {digits : List Char}
    (failed : readThreshold position pool digits = .error .numeralTooLong) :
    Text.longestNumeral < digits.length := by
  unfold readThreshold at failed
  rcases error_of_bind failed with read | ⟨value, _, failed⟩
  · exact long_of_readNumeral read
  · split at failed
    all_goals cases failed

theorem Form.hasLongNumeral_of_lexeme {form : Form} {position : Nat} (written : form.WellWritten)
    (failed : form.lexeme position = .error .numeralTooLong) : HasLongNumeral form.text := by
  cases form with
  | operator op => cases failed
  | paren isOpen => cases failed
  | number digits =>
    rcases error_of_bind failed with read | ⟨_, _, failed⟩
    · exact ⟨digits, List.infix_rfl, written, long_of_readNumeral read⟩
    · cases failed
  | dice count letter sides suffix =>
    obtain ⟨counted, _, sided, suffixed⟩ := written
    rcases error_of_bind failed with read | ⟨pool, _, failed⟩
    · rcases long_of_readPool read with long | long
      · have nonempty := List.ne_nil_of_length_pos (Nat.zero_lt_of_lt long)
        exact ⟨count, ⟨[], letter :: sides ++ suffix.text, by simp [text]⟩,
          ⟨nonempty, counted⟩, long⟩
      · exact ⟨sides, ⟨count ++ [letter], suffix.text, by simp [text]⟩, sided, long⟩
    · have threshold : ∃ digits, digits <:+ suffix.text ∧ IsNumeral digits ∧
          Text.longestNumeral < digits.length := by
        cases suffix with
        | plain => cases failed
        | conditional comparison digits =>
          rcases error_of_bind failed with read | ⟨_, _, failed⟩
          · exact ⟨digits, List.suffix_append _ _, suffixed.2, long_of_readThreshold read⟩
          · cases failed
        | reroll kind comparison digits =>
          rcases error_of_bind failed with read | ⟨_, _, failed⟩
          · exact ⟨digits, List.suffix_append _ _, suffixed.2, long_of_readThreshold read⟩
          · cases failed
      obtain ⟨digits, ending, numeral, long⟩ := threshold
      exact ⟨digits, (ending.trans (List.suffix_append _ _)).isInfix, numeral, long⟩

theorem hasLongNumeral_of_scanFrom {position : Nat} {cs : List Char}
    (failed : scanFrom position cs = .error .numeralTooLong) : HasLongNumeral cs := by
  fun_induction scanFrom position cs with
  | case1 => cases failed
  | case2 => cases failed
  | case3 position c tail form rest read ih =>
    have split := (Form.read_split read).1
    rcases error_of_bind failed with refused | ⟨lexeme, _, failed⟩
    · have long := Form.hasLongNumeral_of_lexeme (Form.wellWritten_of_read read) refused
      exact long.mono ⟨[], rest, split⟩
    · rcases error_of_bind failed with later | ⟨tokens, _, failed⟩
      · exact (ih later).mono ⟨form.text, [], by rw [List.append_nil, split]⟩
      · cases failed

theorem hasLongNumeral_of_tokenize {limit : Int} {text : String}
    (failed : tokenize limit text = .error .numeralTooLong) :
    HasLongNumeral (Text.condense text.toList) ∧ (Text.longestNumeral : Int) < limit := by
  rcases error_of_bind failed with measured | ⟨_, measured, scanned⟩
  · rw [checkLength] at measured
    split at measured
    all_goals cases measured
  · have long := hasLongNumeral_of_scanFrom scanned
    have length := long.length_lt
    have shorter := Text.length_condense_le text.toList
    rw [String.length_toList] at shorter
    have room := length_le_of_checkLength measured
    exact ⟨long, by omega⟩

theorem tokenize_of_long {limit : Int} {digits rest : List Char} (numeral : IsNumeral digits)
    (long : Text.longestNumeral < digits.length) (breaks : Breaks rest)
    (condensed : Text.condense rest = rest) (room : (digits.length + rest.length : Int) ≤ limit) :
    tokenize limit (String.ofList (digits ++ rest)) = .error .numeralTooLong := by
  have written : (Form.number digits).WellWritten := numeral
  have found : Form.read? (digits ++ rest) = some (.number digits, rest) :=
    Form.read_append written (.inr breaks)
  have measured : checkLength limit (String.ofList (digits ++ rest)) = .ok () := by
    refine checkLength_of_le ?_
    rw [String.length_ofList, List.length_append]
    omega
  rw [tokenize, measured, ok_bind, String.toList_ofList, Text.condense_append,
    condense_digits numeral.2, condensed]
  rw [scanFrom_of_read found, Form.lexeme, readNumeral_of_long long]
  rfl

end DiceFormula
