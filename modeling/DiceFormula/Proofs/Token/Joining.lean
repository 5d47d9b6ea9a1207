import DiceFormula.Proofs.Token.Failure

namespace DiceFormula

def signs : List (Char × Lexeme) :=
  [('+', .operator .add), ('-', .operator .subtract), ('*', .operator .multiply),
    ('/', .operator .divide), ('(', .paren true), (')', .paren false)]

theorem form_of_sign {c : Char} {lexeme : Lexeme} (sign : (c, lexeme) ∈ signs) :
    ∃ form : Form, form.WellWritten ∧ form.isSign = true ∧ form.text = [c] ∧
      ∀ position, form.lexeme position = .ok lexeme := by
  simp only [signs, List.mem_cons, Prod.mk.injEq, List.not_mem_nil, or_false] at sign
  rcases sign with ⟨rfl, rfl⟩ | ⟨rfl, rfl⟩ | ⟨rfl, rfl⟩ | ⟨rfl, rfl⟩ | ⟨rfl, rfl⟩ | ⟨rfl, rfl⟩
  · exact ⟨.operator .add, .inl rfl, rfl, rfl, fun _ => rfl⟩
  · exact ⟨.operator .subtract, .inl rfl, rfl, rfl, fun _ => rfl⟩
  · exact ⟨.operator .multiply, .inr rfl, rfl, rfl, fun _ => rfl⟩
  · exact ⟨.operator .divide, .inr rfl, rfl, rfl, fun _ => rfl⟩
  · exact ⟨.paren true, trivial, rfl, rfl, fun _ => rfl⟩
  · exact ⟨.paren false, trivial, rfl, rfl, fun _ => rfl⟩

def IsPlain (c : Char) : Prop :=
  Text.isDigit c = true ∨ c ∈ ['d', 'D', 'r', 'o', '<', '>', '=']

theorem not_isPlain_of_sign {c : Char} {lexeme : Lexeme} (sign : (c, lexeme) ∈ signs) :
    ¬IsPlain c := by
  have apart : ∀ entry ∈ signs, Text.isDigit entry.1 = false ∧
      entry.1 ∉ ['d', 'D', 'r', 'o', '<', '>', '='] := by decide
  obtain ⟨notDigit, other⟩ := apart (c, lexeme) sign
  rintro (digit | letter)
  · rw [notDigit] at digit
    cases digit
  · exact other letter

theorem isPlain_of_pool {count sides : List Char} {letter c : Char}
    (counted : ∀ c ∈ count, Text.isDigit c = true) (mark : letter = 'd' ∨ letter = 'D')
    (sided : IsNumeral sides) (member : c ∈ count ++ letter :: sides) : IsPlain c := by
  have plain : IsPlain letter := by
    rcases mark with rfl | rfl
    · exact .inr (by decide)
    · exact .inr (by decide)
  rw [List.mem_append, List.mem_cons] at member
  rcases member with digit | rfl | digit
  · exact .inl (counted c digit)
  · exact plain
  · exact .inl (sided.2 c digit)

theorem isPlain_of_comparison {comparison : String} {c : Char}
    (compared : comparison ∈ ["", ">=", "<=", "==", "<", ">", "="])
    (member : c ∈ comparison.toList) : IsPlain c := by
  have all : ∀ symbol ∈ ["", ">=", "<=", "==", "<", ">", "="],
      symbol.toList.all (· ∈ ['d', 'D', 'r', 'o', '<', '>', '=']) = true := by decide
  exact .inr (of_decide_eq_true (List.all_eq_true.mp (all comparison compared) c member))

theorem isPlain_of_marker {marker : String} {c : Char} (marked : marker ∈ ["", "o", "r"])
    (member : c ∈ marker.toList) : IsPlain c := by
  have all : ∀ letter ∈ ["", "o", "r"],
      letter.toList.all (· ∈ ['d', 'D', 'r', 'o', '<', '>', '=']) = true := by decide
  exact .inr (of_decide_eq_true (List.all_eq_true.mp (all marker marked) c member))

theorem Sentence.single_or_plain {piece : List Char} (sentence : Sentence piece) :
    (∃ c, piece = [c]) ∨ ∀ c ∈ piece, IsPlain c := by
  cases sentence with
  | operator among => exact .inl ⟨_, rfl⟩
  | paren among => exact .inl ⟨_, rfl⟩
  | number numeral => exact .inr fun c member => .inl (numeral.2 c member)
  | dice counted mark sided =>
    exact .inr fun c member => isPlain_of_pool counted mark sided member
  | conditional counted mark sided compared held =>
    right
    intro c member
    rw [List.mem_append, List.mem_append] at member
    rcases member with (pool | comparison) | threshold
    · exact isPlain_of_pool counted mark sided pool
    · exact isPlain_of_comparison (List.mem_cons_of_mem _ compared) comparison
    · exact .inl (held.2 c threshold)
  | @reroll _ _ _ _ _ comparison counted mark sided marked compared held =>
    have known : comparison ∈ ["", ">=", "<=", "==", "<", ">", "="] := by
      simp only [List.mem_cons] at compared ⊢
      tauto
    right
    intro c member
    rw [List.mem_append, List.mem_append, List.mem_append, List.mem_cons] at member
    rcases member with ((pool | rfl | marker) | compares) | threshold
    · exact isPlain_of_pool counted mark sided pool
    · exact .inr (by decide)
    · exact isPlain_of_marker marked marker
    · exact isPlain_of_comparison known compares
    · exact .inl (held.2 c threshold)

section

variable {c : Char} {lexeme : Lexeme} (sign : (c, lexeme) ∈ signs)

include sign

theorem Sentence.eq_of_sign {piece : List Char} (sentence : Sentence piece) (member : c ∈ piece) :
    piece = [c] := by
  rcases sentence.single_or_plain with ⟨other, rfl⟩ | plain
  · rw [List.mem_singleton.mp member]
  · exact absurd (plain c member) (not_isPlain_of_sign sign)

/-- No sentence that begins before a sign reaches beyond it. -/
theorem Sentence.prefix_before_sign {piece cs rest : List Char} (sentence : Sentence piece)
    (nonempty : cs ≠ []) (front : piece <+: cs ++ c :: rest) : piece <+: cs := by
  by_cases short : piece.length ≤ cs.length
  · exact List.prefix_of_prefix_length_le front (List.prefix_append cs _) short
  · have reached : cs ++ [c] <+: cs ++ c :: rest := ⟨rest, by simp⟩
    have beyond : cs ++ [c] <+: piece := by
      apply List.prefix_of_prefix_length_le reached front
      rw [List.length_append, List.length_singleton]
      omega
    have member : c ∈ piece := beyond.subset (by simp)
    have lengths := beyond.length_le
    rw [sentence.eq_of_sign sign member, List.length_append, List.length_singleton] at lengths
    have positive := List.length_pos_iff.mpr nonempty
    omega

theorem Form.read_before_sign {cs : List Char} (nonempty : cs ≠ []) (rest : List Char) :
    read? (cs ++ c :: rest) = (read? cs).map fun (form, left) => (form, left ++ c :: rest) := by
  cases found : read? cs with
  | none =>
    rw [Option.map_none]
    refine Option.eq_none_iff_forall_ne_some.mpr fun ⟨form, left⟩ read => ?_
    obtain ⟨_, _, longest⟩ := (read_eq_some_iff _ form left).mp read
    have front := longest.sentence.prefix_before_sign sign nonempty longest.front
    exact not_sentence_of_unread found front longest.sentence
  | some read =>
    obtain ⟨form, left⟩ := read
    obtain ⟨written, split, longest⟩ := (read_eq_some_iff cs form left).mp found
    refine (read_eq_some_iff _ form _).mpr ⟨written, ?_, longest.sentence, ?_, ?_⟩
    · rw [← split, List.append_assoc]
    · exact longest.front.trans (List.prefix_append cs _)
    · intro other sentence front
      exact longest.longest other sentence (sentence.prefix_before_sign sign nonempty front)

theorem ScansTo.before_sign {position stop : Nat} {cs left : List Char} {tokens : List Token}
    (scanned : ScansTo position cs tokens stop left) (rest : List Char) :
    ScansTo position (cs ++ c :: rest) tokens stop (left ++ c :: rest) := by
  induction scanned with
  | here position cs => exact .here position _
  | @token position stop cs after left form lexeme tokens found read on ih =>
    have nonempty : cs ≠ [] := by
      rintro rfl
      cases found
    refine .token ?_ read ih
    rw [Form.read_before_sign sign nonempty, found, Option.map_some]

theorem scanFrom_sign (position : Nat) (rest : List Char) :
    scanFrom position (c :: rest) =
      (scanFrom (position + 1) rest).map (⟨String.singleton c, position, lexeme⟩ :: ·) := by
  obtain ⟨form, written, isSign, text, stands⟩ := form_of_sign sign
  have scanned : scanFrom position (form.text ++ rest) = _ :=
    scanFrom_append written (.inl isSign) (stands position)
  rw [text] at scanned
  exact scanned

end

theorem scansTo_of_ok {position : Nat} {cs : List Char} {tokens : List Token}
    (scanned : scanFrom position cs = .ok tokens) :
    ScansTo position cs tokens (position + cs.length) [] := by
  induction tokens generalizing position cs with
  | nil =>
    rcases scanFrom_eq_ok scanned with ⟨rfl, _⟩ | ⟨_, _, _, _, _, _, _, none⟩
    · exact .here position []
    · cases none
  | cons token others ih =>
    rcases scanFrom_eq_ok scanned with ⟨_, none⟩ | ⟨form, rest, lexeme, later, found, read, on, all⟩
    · cases none
    · cases all
      have split := congrArg List.length (Form.read_split found).1
      rw [List.length_append] at split
      have further := ScansTo.token found read (ih on)
      rwa [Nat.add_assoc, split] at further

theorem ScanFault.Stops.scanFrom_eq {fault : ScanFault} {stop : Nat} {left : List Char}
    (stops : fault.Stops stop left) : scanFrom stop left = .error fault := by
  cases stops with
  | unread nonempty none =>
    obtain ⟨c, tail, rfl⟩ := List.exists_cons_of_ne_nil nonempty
    rw [scanFrom.eq_def]
    dsimp only
    split
    · rfl
    · rename_i found
      rw [none] at found
      cases found
  | refused found failed =>
    rw [scanFrom_of_read found, failed]
    rfl

theorem ScanFault.Stops.before_sign {fault : ScanFault} {stop : Nat} {left : List Char}
    (stops : fault.Stops stop left) {c : Char} {lexeme : Lexeme} (sign : (c, lexeme) ∈ signs)
    (rest : List Char) : ∃ other : ScanFault, other.Stops stop (left ++ c :: rest) := by
  cases stops with
  | unread nonempty none =>
    have unread : Form.read? (left ++ c :: rest) = .none := by
      rw [Form.read_before_sign sign nonempty, none, Option.map_none]
    exact ⟨_, .unread (by simp) unread⟩
  | refused found failed =>
    have nonempty : left ≠ [] := by
      rintro rfl
      cases found
    have further := Form.read_before_sign sign nonempty rest
    rw [found, Option.map_some] at further
    exact ⟨fault, .refused further failed⟩

theorem scanFrom_append_sign {c : Char} {lexeme : Lexeme} (sign : (c, lexeme) ∈ signs)
    (position : Nat) (cs rest : List Char) (tokens : List Token) :
    scanFrom position (cs ++ c :: rest) = .ok tokens ↔
      ∃ front back, scanFrom position cs = .ok front ∧
        scanFrom (position + cs.length + 1) rest = .ok back ∧
        tokens = front ++ ⟨String.singleton c, (position + cs.length : Nat), lexeme⟩ :: back := by
  cases alone : scanFrom position cs with
  | error fault =>
    obtain ⟨before, stop, left, scanned, stops⟩ := scansTo_of_error alone
    obtain ⟨other, stopped⟩ := stops.before_sign sign rest
    rw [(scanned.before_sign sign rest).scanFrom_eq, stopped.scanFrom_eq]
    constructor
    · intro done
      cases done
    · rintro ⟨_, _, done, _⟩
      cases done
  | ok front =>
    have scanned := (scansTo_of_ok alone).before_sign sign rest
    rw [scanned.scanFrom_eq, List.nil_append, scanFrom_sign sign, map_map]
    constructor
    · intro done
      obtain ⟨back, later, same⟩ := ok_of_map done
      exact ⟨front, back, rfl, later, same.symm⟩
    · rintro ⟨_, back, same, later, rfl⟩
      cases same
      rw [later]
      rfl

def Token.move (distance : Int) (token : Token) : Token :=
  { token with position := token.position + distance }

theorem scanFrom_moved {position : Nat} {cs : List Char} {tokens : List Token}
    (scanned : scanFrom position cs = .ok tokens) (other : Nat) :
    scanFrom other cs = .ok (tokens.map (Token.move (other - position))) := by
  induction tokens generalizing position other cs with
  | nil =>
    rcases scanFrom_eq_ok scanned with ⟨rfl, _⟩ | ⟨_, _, _, _, _, _, _, none⟩
    · rw [scanFrom]
      rfl
    · cases none
  | cons token others ih =>
    obtain ⟨form, rest, found, read, text, starts, on⟩ :=
      (scanFrom_cons_iff position cs token others).mp scanned
    have later := ih on (other + form.text.length)
    have distance : ((other + form.text.length : Nat) : Int) - (position + form.text.length : Nat) =
        other - position := by omega
    rw [distance] at later
    refine (scanFrom_cons_iff other cs _ _).mpr
      ⟨form, rest, found, Form.lexeme_position read other, text, ?_, later⟩
    show token.position + (other - position) = other
    omega

theorem scanFrom_from_start (start : Nat) (cs : List Char) (tokens : List Token) :
    scanFrom start cs = .ok tokens ↔
      ∃ alone, scanFrom 0 cs = .ok alone ∧ tokens = alone.map (Token.move start) := by
  constructor
  · intro scanned
    refine ⟨_, scanFrom_moved scanned 0, ?_⟩
    have back := scanFrom_moved (scanFrom_moved scanned 0) start
    rw [Int.natCast_zero, Int.sub_zero] at back
    exact Except.ok.inj (scanned.symm.trans back)
  · rintro ⟨alone, scanned, rfl⟩
    have moved := scanFrom_moved scanned start
    simpa using moved

theorem condense_append_sign {c : Char} {lexeme : Lexeme} (sign : (c, lexeme) ∈ signs)
    (a b : String) :
    Text.condense (a ++ String.singleton c ++ b).toList =
      Text.condense a.toList ++ c :: Text.condense b.toList := by
  have visible : ∀ entry ∈ signs, Text.condense [entry.1] = [entry.1] := by decide
  rw [String.toList_append, String.toList_append, String.toList_singleton, Text.condense_append,
    Text.condense_append, visible (c, lexeme) sign, List.append_assoc, List.singleton_append]

theorem tokenize_of_room {limit : Int} {text : String} (room : (text.length : Int) ≤ limit) :
    tokenize limit text = scanFrom 0 (Text.condense text.toList) := by
  rw [tokenize, checkLength_of_le room, ok_bind]

section

variable {limit : Int} {c : Char} {lexeme : Lexeme} (sign : (c, lexeme) ∈ signs) (a b : String)
  (room : ((a.length + 1 + b.length : Nat) : Int) ≤ limit)

include sign room

theorem tokenize_append_sign (tokens : List Token) :
    tokenize limit (a ++ String.singleton c ++ b) = .ok tokens ↔
      ∃ front back, tokenize limit a = .ok front ∧ tokenize limit b = .ok back ∧
        tokens = front ++ ⟨String.singleton c, (condense a).length, lexeme⟩ ::
          back.map (Token.move ((condense a).length + 1)) := by
  have length : (a ++ String.singleton c ++ b).length = a.length + 1 + b.length := by
    rw [String.length_append, String.length_append, String.length_singleton]
  have whole : ((a ++ String.singleton c ++ b).length : Int) ≤ limit := by omega
  have first : (a.length : Int) ≤ limit := by omega
  have second : (b.length : Int) ≤ limit := by omega
  have start : (condense a).length = 0 + (Text.condense a.toList).length := by
    rw [condense, String.length_ofList, Nat.zero_add]
  rw [tokenize_of_room whole, tokenize_of_room first, tokenize_of_room second,
    condense_append_sign sign, scanFrom_append_sign sign, start]
  constructor
  · rintro ⟨front, back, before, after, rfl⟩
    obtain ⟨alone, scanned, rfl⟩ := (scanFrom_from_start _ _ back).mp after
    exact ⟨front, alone, before, scanned, rfl⟩
  · rintro ⟨front, alone, before, scanned, rfl⟩
    exact ⟨front, _, before, (scanFrom_from_start _ _ _).mpr ⟨alone, scanned, rfl⟩, rfl⟩

/-- A text with a sign in it has tokens just if what stands before the sign has and what stands
    after it has, and then it has the tokens of both and the sign between them. -/
theorem tokenize_splits_at_sign :
    let start : Int := (condense a).length
    ((∃ tokens, tokenize limit (a ++ String.singleton c ++ b) = .ok tokens) ↔
      (∃ front, tokenize limit a = .ok front) ∧ ∃ back, tokenize limit b = .ok back) ∧
    ∀ front back, tokenize limit a = .ok front → tokenize limit b = .ok back →
      tokenize limit (a ++ String.singleton c ++ b) =
        .ok (front ++ ⟨String.singleton c, start, lexeme⟩ ::
          back.map (Token.move (start + 1))) := by
  intro start
  constructor
  · constructor
    · rintro ⟨tokens, read⟩
      obtain ⟨front, back, before, after, _⟩ := (tokenize_append_sign sign a b room tokens).mp read
      exact ⟨⟨front, before⟩, back, after⟩
    · rintro ⟨⟨front, before⟩, back, after⟩
      exact ⟨_, (tokenize_append_sign sign a b room _).mpr ⟨front, back, before, after, rfl⟩⟩
  · intro front back before after
    exact (tokenize_append_sign sign a b room _).mpr ⟨front, back, before, after, rfl⟩

end

theorem tokenize_splits_at_minus :
    let a := "(12 * 2 d6 "
    let b := " d8ro3)"
    let front : List Token :=
      [⟨"(", 0, .paren true⟩, ⟨"12", 1, .atom (.number 12)⟩, ⟨"*", 3, .operator .multiply⟩,
        ⟨"2d6", 4, .atom (.dice ⟨2, 6⟩)⟩]
    let back : List Token :=
      [⟨"d8ro3", 0, .atom (.reroll ⟨1, 8⟩ .once ⟨.equal, 3⟩)⟩, ⟨")", 5, .paren false⟩]
    ('-', Lexeme.operator .subtract) ∈ signs ∧
      ((a.length + 1 + b.length : Nat) : Int) ≤ defaultLengthLimit ∧
      tokenize defaultLengthLimit a = .ok front ∧ tokenize defaultLengthLimit b = .ok back ∧
      tokenize defaultLengthLimit (a ++ String.singleton '-' ++ b) =
        .ok (front ++ ⟨String.singleton '-', 7, .operator .subtract⟩ :: back.map (Token.move 8)) := by
  intro a b front back
  have sign : ('-', Lexeme.operator .subtract) ∈ signs := by decide
  have room : ((a.length + 1 + b.length : Nat) : Int) ≤ defaultLengthLimit := by decide
  have before : tokenize defaultLengthLimit a = .ok front := by decide +kernel
  have after : tokenize defaultLengthLimit b = .ok back := by decide +kernel
  have start : (condense a).length = 7 := by decide +kernel
  have joined := (tokenize_splits_at_sign sign a b room).2 front back before after
  rw [start] at joined
  exact ⟨sign, room, before, after, joined⟩

end DiceFormula
