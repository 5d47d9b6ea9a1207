import DiceFormula.Expr.Basic
import DiceFormula.Proofs.Expr.Canonical
import DiceFormula.Proofs.Expr.Recursion

namespace DiceFormula

def Lexeme.form : Lexeme → Form
  | atom a => a.form
  | operator op => .operator op
  | paren isOpen => .paren isOpen

def Expr.written (e : Expr) : List Char := e.lexemes.flatMap fun lexeme => lexeme.form.text

theorem Expr.written_group (inner : Expr) :
    (group inner).written = '(' :: (inner.written ++ [')']) := by
  simp [written, lexemes, Lexeme.form, Form.text]

theorem Expr.written_binary (operator : Operator) (left right : Expr) :
    (binary operator left right).written =
      left.written ++ (operator.symbol.toList ++ right.written) := by
  simp [written, lexemes, Lexeme.form, Form.text]

theorem Expr.sign_of_canonicalNodes {operator : Operator} {left right : Expr}
    (canonical : (binary operator left right).CanonicalNodes) :
    operator.isAdditive = true ∨ operator.isMultiplicative = true := by
  rcases canonical.1 with ⟨sign, _⟩ | ⟨sign, _⟩
  · exact .inl sign
  · exact .inr sign

theorem condense_render {e : Expr} (canonical : e.CanonicalNodes) :
    Text.condense e.render.toList = e.written := by
  induction e with
  | atom a =>
    rw [Expr.render, ← Atom.text_form, Form.condense_text (Atom.wellWritten_form canonical)]
    simp [Expr.written, Expr.lexemes, Lexeme.form]
  | group inner ih =>
    rw [Expr.render, String.toList_append, String.toList_append, Text.condense_append,
      Text.condense_append, ih canonical, Expr.written_group]
    rfl
  | binary operator left right leftIh rightIh =>
    have written : (Form.operator operator).WellWritten := Expr.sign_of_canonicalNodes canonical
    have sign : Text.condense operator.symbol.toList = operator.symbol.toList :=
      Form.condense_text written
    rw [Expr.render_binary, Expr.written_binary]
    simp only [String.toList_append, Text.condense_append, leftIh canonical.2.1,
      rightIh canonical.2.2, sign, List.append_assoc]
    rfl

/-- In front of what comes after it, the text is scanned on its own. -/
def ScansAs (position : Nat) (text after : List Char) (lexemes : List Lexeme) : Prop :=
  ∃ tokens, tokens.map Token.lexeme = lexemes ∧
    scanFrom position (text ++ after) =
      (scanFrom (position + text.length) after).map (tokens ++ ·)

theorem ScansAs.append {position : Nat} {first second after : List Char}
    {firstLexemes secondLexemes : List Lexeme}
    (front : ScansAs position first (second ++ after) firstLexemes)
    (back : ScansAs (position + first.length) second after secondLexemes) :
    ScansAs position (first ++ second) after (firstLexemes ++ secondLexemes) := by
  obtain ⟨frontTokens, rfl, frontScan⟩ := front
  obtain ⟨backTokens, rfl, backScan⟩ := back
  refine ⟨frontTokens ++ backTokens, List.map_append, ?_⟩
  rw [List.append_assoc, frontScan, backScan, List.length_append, Nat.add_assoc]
  cases scanFrom (position + (first.length + second.length)) after with
  | error fault => rfl
  | ok later => simp [Except.map]

theorem ScansAs.lexeme (lexeme : Lexeme) (position : Nat) (after : List Char)
    (written : lexeme.form.WellWritten) (ends : lexeme.form.isSign = true ∨ Breaks after)
    (read : lexeme.form.lexeme position = .ok lexeme) :
    ScansAs position lexeme.form.text after [lexeme] :=
  ⟨[⟨String.ofList lexeme.form.text, position, lexeme⟩], rfl,
    scanFrom_append written ends read⟩

theorem breaks_operator {operator : Operator}
    (sign : operator.isAdditive = true ∨ operator.isMultiplicative = true) (after : List Char) :
    Breaks (operator.symbol.toList ++ after) := by
  intro c first
  cases operator with
  | other symbol => rcases sign with additive | multiplicative <;> contradiction
  | _ =>
    cases first
    decide

theorem scansAs_written {e : Expr} (canonical : e.CanonicalNodes) (position : Nat)
    (after : List Char) (breaks : Breaks after) :
    ScansAs position e.written after e.lexemes := by
  induction e generalizing position after with
  | atom a =>
    have scanned := ScansAs.lexeme (.atom a) position after (Atom.wellWritten_form canonical)
      (.inr breaks) (Atom.lexeme_form canonical position)
    simpa [Expr.written, Expr.lexemes] using scanned
  | group inner ih =>
    have closes : Breaks (')' :: after) := by
      intro c first
      cases first
      decide
    have opening := ScansAs.lexeme (.paren true) position (inner.written ++ [')'] ++ after)
      trivial (.inl rfl) rfl
    have middle := ih canonical (position + 1) ([')'] ++ after) closes
    have closing := ScansAs.lexeme (.paren false) (position + 1 + inner.written.length) after
      trivial (.inl rfl) rfl
    rw [Expr.written_group, Expr.lexemes]
    exact opening.append (middle.append closing)
  | binary operator left right leftIh rightIh =>
    have sign := Expr.sign_of_canonicalNodes canonical
    have front := leftIh canonical.2.1 position (operator.symbol.toList ++ right.written ++ after)
      (by rw [List.append_assoc]; exact breaks_operator sign _)
    have middle := ScansAs.lexeme (.operator operator) (position + left.written.length)
      (right.written ++ after) sign (.inl rfl) rfl
    have back := rightIh canonical.2.2
      (position + left.written.length + operator.symbol.toList.length) after breaks
    rw [Expr.written_binary, Expr.lexemes]
    exact front.append (middle.append back)

theorem ofText_render {e : Expr} (canonical : e.Canonical) {limit : Int}
    (room : e.render.length ≤ limit) : Expr.ofText limit e.render = .ok e := by
  obtain ⟨tokens, lexemes, scanned⟩ := scansAs_written canonical.nodes 0 []
    (by intro c first; cases first)
  have measured : checkLength limit e.render = .ok () := checkLength_of_le room
  have tokenized : tokenize limit e.render = .ok tokens := by
    rw [tokenize, measured, condense_render canonical.nodes]
    rw [List.append_nil, scanFrom] at scanned
    rw [show (Except.ok () >>= fun _ => scanFrom 0 e.written : Except ScanFault (List Token)) =
      scanFrom 0 e.written from rfl, scanned]
    simp [Except.map]
  have explained : e.Explains (tokens.map Token.lexeme) :=
    ⟨lexemes.symm, Expr.derives_of_canonicalNodes canonical.nodes, canonical.shallow⟩
  rw [Expr.ofText, scanText, tokenized]
  exact parseTokens_of_explains explained

/-- A text gives canonical trees only, and it gives each of them, from its own writing. -/
theorem ofText_canonical_roundTrip :
    (∀ limit text e, Expr.ofText limit text = .ok e → e.Canonical) ∧
    (∀ e limit, e.Canonical → (e.render.length : Int) ≤ limit →
      Expr.ofText limit e.render = .ok e) :=
  ⟨fun _ _ _ parsed => canonical_of_ofText parsed,
    fun _ _ canonical room => ofText_render canonical room⟩

theorem ofText_canonical_roundTrip_of_product :
    let text := "(D6 r=3*2d8 == 07)-1d20rr<2"
    let e : Expr := .binary .subtract
      (.group (.binary .multiply (.atom (.reroll ⟨1, 6⟩ .exploding ⟨.equal, 3⟩))
        (.atom (.conditional ⟨2, 8⟩ ⟨.doubledEqual, 7⟩))))
      (.atom (.reroll ⟨1, 20⟩ .recursive ⟨.less, 2⟩))
    Expr.ofText defaultLengthLimit text = .ok e ∧ e.Canonical ∧
      e.render = "(1d6r3 * 2d8==7) - 1d20rr<2" ∧ Expr.ofText 27 e.render = .ok e := by
  intro text e
  obtain ⟨readsCanonical, writesBack⟩ := ofText_canonical_roundTrip
  have read : Expr.ofText defaultLengthLimit text = .ok e := by decide +kernel
  have canonical : e.Canonical := readsCanonical _ text e read
  have rendered : e.render = "(1d6r3 * 2d8==7) - 1d20rr<2" := by decide +kernel
  have room : (e.render.length : Int) ≤ 27 := by decide +kernel
  exact ⟨read, canonical, rendered, writesBack e 27 canonical room⟩

end DiceFormula
