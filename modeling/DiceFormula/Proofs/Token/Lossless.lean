import DiceFormula.Proofs.Token.Longest
import DiceFormula.Proofs.Token.Scan
import Mathlib.Data.List.Chain

namespace DiceFormula

/-- The tokens cut up a text whose first character stands at the position. None of it is lost, each
    token is the longest sentence where it begins, and stands for what it stands for alone. -/
structure CutsUp (limit position : Int) (source : List Char) (tokens : List Token) : Prop where
  nonempty : ∀ token ∈ tokens, token.text ≠ ""
  whole : tokens.flatMap (·.text.toList) = source
  starts : ∀ token, tokens.head? = some token → token.position = position
  contiguous : tokens.IsChain fun token next => next.position = token.stop
  longest : ∀ before token after, tokens = before ++ token :: after →
    LongestSentence token.text.toList ((token :: after).flatMap (·.text.toList))
  alone : ∀ token ∈ tokens, tokenize limit token.text = .ok [{ token with position := 0 }]

variable {limit : Int}

theorem readPool_position {position : Nat} {count sides : List Char} {pool : Pool}
    (read : readPool position count sides = .ok pool) (other : Nat) :
    readPool other count sides = .ok pool := by
  rw [readPool_eq_ok_iff] at read ⊢
  exact read

theorem readThreshold_position {position : Nat} {pool : Pool} {digits : List Char}
    {threshold : Int} (read : readThreshold position pool digits = .ok threshold) (other : Nat) :
    readThreshold other pool digits = .ok threshold := by
  rw [readThreshold_eq_ok_iff] at read ⊢
  exact read

theorem Form.lexeme_position {form : Form} {position : Nat} {lexeme : Lexeme}
    (read : form.lexeme position = .ok lexeme) (other : Nat) :
    form.lexeme other = .ok lexeme := by
  cases form with
  | number digits => exact read
  | operator op => exact read
  | paren isOpen => exact read
  | dice count letter sides suffix =>
    simp only [Form.lexeme] at read ⊢
    obtain ⟨pool, dice, read⟩ := ok_of_bind read
    rw [readPool_position dice other, ok_bind]
    cases suffix with
    | plain => exact read
    | conditional comparison digits =>
      obtain ⟨threshold, checked, read⟩ := ok_of_bind read
      dsimp only
      rw [readThreshold_position checked other]
      exact read
    | reroll kind comparison digits =>
      obtain ⟨threshold, checked, read⟩ := ok_of_bind read
      dsimp only
      rw [readThreshold_position checked other]
      exact read

theorem scanFrom_text {form : Form} (written : form.WellWritten) {position : Nat}
    {lexeme : Lexeme} (read : form.lexeme position = .ok lexeme) :
    scanFrom position form.text = .ok [⟨String.ofList form.text, position, lexeme⟩] := by
  have breaks : Breaks [] := fun c first => by cases first
  have scanned := scanFrom_append written (.inr breaks) read
  rw [List.append_nil, scanFrom] at scanned
  exact scanned

theorem tokenize_text_iff {form : Form} (written : form.WellWritten)
    (room : (form.text.length : Int) ≤ limit) (lexeme : Lexeme) :
    tokenize limit (String.ofList form.text) = .ok [⟨String.ofList form.text, 0, lexeme⟩] ↔
      form.lexeme 0 = .ok lexeme := by
  have measured : checkLength limit (String.ofList form.text) = .ok () :=
    checkLength_of_le (by rwa [String.length_ofList])
  rw [tokenize, measured, ok_bind, String.toList_ofList, form.condense_text written]
  constructor
  · intro scanned
    rcases scanFrom_eq_ok scanned with ⟨_, none⟩ | ⟨found, rest, same, later, read, done, _, all⟩
    · cases none
    · have breaks : Breaks [] := fun c first => by cases first
      have again := Form.read_append written (.inr breaks)
      rw [List.append_nil, read] at again
      cases again
      cases all
      exact done
  · exact scanFrom_text written

theorem scanFrom_cons_iff (position : Nat) (cs : List Char) (token : Token)
    (others : List Token) :
    scanFrom position cs = .ok (token :: others) ↔
      ∃ form rest, Form.read? cs = some (form, rest) ∧
        form.lexeme position = .ok token.lexeme ∧ token.text = String.ofList form.text ∧
        token.position = position ∧
        scanFrom (position + form.text.length) rest = .ok others := by
  constructor
  · intro scanned
    rcases scanFrom_eq_ok scanned with ⟨_, none⟩ | ⟨form, rest, lexeme, later, read, done, on, all⟩
    · cases none
    · cases all
      exact ⟨form, rest, read, done, rfl, rfl, on⟩
  · rintro ⟨form, rest, read, done, text_eq, position_eq, on⟩
    rw [scanFrom_of_read read, done, ok_bind, on, ok_bind, ← text_eq, ← position_eq]
    rfl

theorem cutsUp_nil_iff (position : Int) (cs : List Char) :
    CutsUp limit position cs [] ↔ cs = [] := by
  constructor
  · intro cut
    exact cut.whole.symm
  · rintro rfl
    exact ⟨by simp, rfl, by simp, .nil, by simp, by simp⟩

theorem cutsUp_cons_iff (position : Int) (cs : List Char) (token : Token) (others : List Token) :
    CutsUp limit position cs (token :: others) ↔
      ∃ rest, token.text.toList ++ rest = cs ∧ token.position = position ∧
        LongestSentence token.text.toList cs ∧
        tokenize limit token.text = .ok [{ token with position := 0 }] ∧ token.text ≠ "" ∧
        CutsUp limit token.stop rest others := by
  constructor
  · intro cut
    have split : token.text.toList ++ others.flatMap (·.text.toList) = cs := cut.whole
    refine ⟨_, split, cut.starts token rfl, ?_, cut.alone token List.mem_cons_self,
      cut.nonempty token List.mem_cons_self, ?_⟩
    · have first := cut.longest [] token others rfl
      rwa [cut.whole] at first
    · have chain := List.isChain_cons.mp cut.contiguous
      exact ⟨fun other member => cut.nonempty other (List.mem_cons_of_mem _ member), rfl,
        fun next first => chain.1 next first, chain.2,
        fun before other after same =>
          cut.longest (token :: before) other after (congrArg (token :: ·) same),
        fun other member => cut.alone other (List.mem_cons_of_mem _ member)⟩
  · rintro ⟨rest, split, starts, first, alone, nonempty, cut⟩
    have whole : (token :: others).flatMap (·.text.toList) = cs := by
      rw [List.flatMap_cons, cut.whole, split]
    refine ⟨List.forall_mem_cons.mpr ⟨nonempty, cut.nonempty⟩, whole, ?_, ?_, ?_,
      List.forall_mem_cons.mpr ⟨alone, cut.alone⟩⟩
    · intro other same
      cases same
      exact starts
    · exact List.isChain_cons.mpr ⟨fun next member => cut.starts next member, cut.contiguous⟩
    · intro before other after same
      cases before with
      | nil =>
        cases same
        rwa [whole]
      | cons _ before =>
        cases same
        exact cut.longest before other after rfl

theorem scanFrom_eq_ok_iff {position : Nat} {cs : List Char} {tokens : List Token}
    (room : (cs.length : Int) ≤ limit) :
    scanFrom position cs = .ok tokens ↔ CutsUp limit position cs tokens := by
  induction tokens generalizing position cs with
  | nil =>
    rw [cutsUp_nil_iff]
    constructor
    · intro scanned
      rcases scanFrom_eq_ok scanned with ⟨empty, _⟩ | ⟨_, _, _, _, _, _, _, none⟩
      · exact empty
      · cases none
    · rintro rfl
      rw [scanFrom]
  | cons token others ih =>
    rw [scanFrom_cons_iff, cutsUp_cons_iff]
    constructor
    · rintro ⟨form, rest, read, done, text_eq, position_eq, on⟩
      obtain ⟨written, split, longest⟩ := (Form.read_eq_some_iff cs form rest).mp read
      have nonempty := (Form.read_split read).2
      have lengths := congrArg List.length split
      rw [List.length_append] at lengths
      have short : (form.text.length : Int) ≤ limit := by omega
      have alone := (tokenize_text_iff written short token.lexeme).mpr
        (Form.lexeme_position done 0)
      have stop : token.stop = (position + form.text.length : Nat) := by
        rw [Token.stop, position_eq, text_eq, String.length_ofList, Int.natCast_add]
      rw [← text_eq] at alone
      refine ⟨rest, ?_, position_eq, ?_, alone, ?_, ?_⟩
      · rw [text_eq, String.toList_ofList, split]
      · rwa [text_eq, String.toList_ofList]
      · intro empty
        rw [text_eq] at empty
        exact nonempty (by simpa using empty)
      · rw [stop]
        exact (ih (by omega)).mp on
    · rintro ⟨rest, split, position_eq, longest, alone, _, cut⟩
      obtain ⟨form, written, text_eq⟩ := (sentence_iff _).mp longest.sentence
      rw [← text_eq] at split longest
      have read := (Form.read_eq_some_iff cs form rest).mpr ⟨written, split, longest⟩
      have lengths := congrArg List.length split
      rw [List.length_append] at lengths
      have text_eq : token.text = String.ofList form.text := by
        rw [text_eq, String.ofList_toList]
      rw [text_eq] at alone
      have short : (form.text.length : Int) ≤ limit := by omega
      have done := (tokenize_text_iff written short token.lexeme).mp alone
      have stop : token.stop = (position + form.text.length : Nat) := by
        rw [Token.stop, position_eq, text_eq, String.length_ofList, Int.natCast_add]
      rw [stop] at cut
      exact ⟨form, rest, read, Form.lexeme_position done position, text_eq, position_eq,
        (ih (by omega)).mpr cut⟩

theorem tokenize_eq_ok_iff (text : String) (tokens : List Token) :
    tokenize limit text = .ok tokens ↔
      (text.length : Int) ≤ limit ∧ CutsUp limit 0 (Text.condense text.toList) tokens := by
  have shorter := Text.length_condense_le text.toList
  rw [String.length_toList] at shorter
  by_cases room : (text.length : Int) ≤ limit
  · rw [tokenize, checkLength_of_le room, ok_bind]
    simp only [room, true_and]
    exact scanFrom_eq_ok_iff (by omega)
  · have refused : tokenize limit text = .error (.tooLong text.length limit) := by
      rw [tokenize, checkLength_of_lt (Int.not_le.mp room)]
      rfl
    rw [refused]
    simp [room]

theorem tokenize_of_le {more : Int} (larger : limit ≤ more) {text : String} {tokens : List Token}
    (read : tokenize limit text = .ok tokens) : tokenize more text = .ok tokens := by
  have room := ((tokenize_eq_ok_iff text tokens).mp read).1
  rw [tokenize, checkLength_of_le room, ok_bind] at read
  rw [tokenize, checkLength_of_le (Int.le_trans room larger), ok_bind, read]

theorem CutsUp.of_le {more position : Int} (larger : limit ≤ more) {source : List Char}
    {tokens : List Token} (cut : CutsUp limit position source tokens) :
    CutsUp more position source tokens :=
  { cut with alone := fun token member => tokenize_of_le larger (cut.alone token member) }

theorem CutsUp.unique {other : Int} {source : List Char} {tokens others : List Token}
    (cut : CutsUp limit 0 source tokens) (again : CutsUp other 0 source others) :
    tokens = others := by
  let room : Int := max (max limit other) source.length
  have enough : (source.length : Int) ≤ room := by omega
  have first : scanFrom 0 source = .ok tokens :=
    (scanFrom_eq_ok_iff enough).mpr (cut.of_le (by omega))
  have second : scanFrom 0 source = .ok others :=
    (scanFrom_eq_ok_iff enough).mpr (again.of_le (by omega))
  rw [first] at second
  cases second
  rfl

/-- A text has just the tokens that cut it up, blanks aside, each as long as can be; and there is
    one way at most to cut it up. -/
theorem tokenize_lossless_longest :
    (∀ limit text tokens, tokenize limit text = .ok tokens ↔
      (text.length : Int) ≤ limit ∧ CutsUp limit 0 (Text.condense text.toList) tokens) ∧
    (∀ limit other source tokens others, CutsUp limit 0 source tokens →
      CutsUp other 0 source others → tokens = others) :=
  ⟨fun _ text tokens => tokenize_eq_ok_iff text tokens,
    fun _ _ _ _ _ cut again => cut.unique again⟩

theorem tokenize_lossless_longest_reroll :
    let text := "12*\u0663D6 rr>=04"
    let tokens : List Token :=
      [⟨"12", 0, .atom (.number 12)⟩, ⟨"*", 2, .operator .multiply⟩,
        ⟨"\u0663D6rr>=04", 3, .atom (.reroll ⟨3, 6⟩ .recursive ⟨.greaterOrEqual, 4⟩)⟩]
    tokenize defaultLengthLimit text = .ok tokens ∧
      CutsUp defaultLengthLimit 0 (Text.condense text.toList) tokens := by
  intro text tokens
  have read : tokenize defaultLengthLimit text = .ok tokens := by decide +kernel
  exact ⟨read, ((tokenize_lossless_longest.1 _ text tokens).mp read).2⟩

end DiceFormula
