import DiceFormula.Proofs.Token.Canonical

namespace DiceFormula

variable {limit : Int} {text : String}

theorem checkLength_of_le (room : (text.length : Int) ≤ limit) :
    checkLength limit text = .ok () :=
  if_neg (Int.not_lt.mpr room)

theorem checkLength_of_lt (long : limit < text.length) :
    checkLength limit text = .error (.tooLong text.length limit) :=
  if_pos long

theorem length_le_of_checkLength (measured : checkLength limit text = .ok ()) :
    (text.length : Int) ≤ limit := by
  refine Int.not_lt.mp fun long => ?_
  cases (checkLength_of_lt long).symm.trans measured

theorem scanFrom_of_read {cs rest : List Char} {form : Form}
    (found : Form.read? cs = some (form, rest)) (position : Nat) :
    scanFrom position cs = (do
      let lexeme ← form.lexeme position
      let later ← scanFrom (position + form.text.length) rest
      return ⟨String.ofList form.text, position, lexeme⟩ :: later) := by
  have split := Form.read_split found
  cases cs with
  | nil => exact absurd (List.append_eq_nil_iff.mp split.1).1 split.2
  | cons c tail =>
    rw [scanFrom.eq_def]
    dsimp only
    split
    · simp_all
    · rename_i other after again
      rw [found] at again
      cases again
      rfl

theorem scanFrom_eq_ok {position : Nat} {cs : List Char} {tokens : List Token}
    (scanned : scanFrom position cs = .ok tokens) :
    cs = [] ∧ tokens = [] ∨
      ∃ form rest lexeme later, Form.read? cs = some (form, rest) ∧
        form.lexeme position = .ok lexeme ∧
        scanFrom (position + form.text.length) rest = .ok later ∧
        tokens = ⟨String.ofList form.text, position, lexeme⟩ :: later := by
  rw [scanFrom.eq_def] at scanned
  split at scanned
  · cases scanned
    exact .inl ⟨rfl, rfl⟩
  · split at scanned
    · cases scanned
    · rename_i form rest found
      obtain ⟨lexeme, read, scanned⟩ := ok_of_bind scanned
      obtain ⟨later, rest, scanned⟩ := ok_of_bind scanned
      cases scanned
      exact .inr ⟨form, _, lexeme, later, found, read, rest, rfl⟩

theorem canonical_of_scanFrom {position : Nat} {cs : List Char} {tokens : List Token}
    (scanned : scanFrom position cs = .ok tokens) :
    ∀ token ∈ tokens, ∀ a, token.lexeme = .atom a → a.Canonical := by
  induction tokens generalizing position cs with
  | nil => simp
  | cons first others ih =>
    rcases scanFrom_eq_ok scanned with ⟨_, none⟩ | ⟨form, rest, lexeme, later, found, read, on, all⟩
    · cases none
    · cases all
      intro token member a same
      rcases List.mem_cons.mp member with rfl | member
      · cases same
        exact canonical_of_lexeme (Form.wellWritten_of_read found) read
      · exact ih on token member a same

theorem scanFrom_append {form : Form} {rest : List Char} {position : Nat} {lexeme : Lexeme}
    (written : form.WellWritten) (ends : form.isSign = true ∨ Breaks rest)
    (read : form.lexeme position = .ok lexeme) :
    scanFrom position (form.text ++ rest) =
      (scanFrom (position + form.text.length) rest).map
        (⟨String.ofList form.text, position, lexeme⟩ :: ·) := by
  rw [scanFrom_of_read (Form.read_append written ends), read, ok_bind]
  cases scanFrom (position + form.text.length) rest with
  | error fault => rfl
  | ok later => rfl

end DiceFormula
