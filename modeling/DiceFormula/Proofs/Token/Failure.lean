import DiceFormula.Proofs.Token.Lossless
import DiceFormula.Proofs.Token.LongNumeral

namespace DiceFormula

/-- One token after the other is scanned off the front, up to where so much is left. -/
inductive ScansTo : Nat → List Char → List Token → Nat → List Char → Prop
  | here (position : Nat) (cs : List Char) : ScansTo position cs [] position cs
  | token {position stop : Nat} {cs rest left : List Char} {form : Form} {lexeme : Lexeme}
      {tokens : List Token} (found : Form.read? cs = some (form, rest))
      (read : form.lexeme position = .ok lexeme)
      (on : ScansTo (position + form.text.length) rest tokens stop left) :
      ScansTo position cs (⟨String.ofList form.text, position, lexeme⟩ :: tokens) stop left

inductive ScanFault.Stops (stop : Nat) (left : List Char) : ScanFault → Prop
  | unread (nonempty : left ≠ []) (none : Form.read? left = none) :
      Stops stop left (.unreadable stop (String.ofList left))
  | refused {form : Form} {rest : List Char} {fault : ScanFault}
      (found : Form.read? left = some (form, rest)) (failed : form.lexeme stop = .error fault) :
      Stops stop left fault

theorem scansTo_of_error {position : Nat} {cs : List Char} {fault : ScanFault}
    (failed : scanFrom position cs = .error fault) :
    ∃ tokens stop left, ScansTo position cs tokens stop left ∧ fault.Stops stop left := by
  fun_induction scanFrom position cs with
  | case1 => cases failed
  | case2 position c tail read =>
    cases failed
    exact ⟨[], position, c :: tail, .here _ _, .unread (List.cons_ne_nil c tail) read⟩
  | case3 position c tail form rest read ih =>
    rcases error_of_bind failed with refused | ⟨lexeme, done, failed⟩
    · exact ⟨[], position, c :: tail, .here _ _, .refused read refused⟩
    · rcases error_of_bind failed with later | ⟨_, _, failed⟩
      · obtain ⟨tokens, stop, left, scanned, stops⟩ := ih later
        exact ⟨_, stop, left, .token read done scanned, stops⟩
      · cases failed

theorem Form.read_cut {form : Form} {piece left : List Char}
    (found : read? (form.text ++ (piece ++ left)) = some (form, piece ++ left)) :
    read? (form.text ++ piece) = some (form, piece) := by
  obtain ⟨written, _, longest⟩ := (read_eq_some_iff _ form _).mp found
  refine (read_eq_some_iff _ form piece).mpr ⟨written, rfl, longest.sentence, ⟨piece, rfl⟩, ?_⟩
  intro other sentence front
  refine longest.longest other sentence (front.trans ?_)
  rw [← List.append_assoc]
  exact List.prefix_append _ left

namespace ScansTo

variable {position stop : Nat} {cs left : List Char} {tokens : List Token}

theorem scanFrom_eq (scanned : ScansTo position cs tokens stop left) :
    scanFrom position cs = (scanFrom stop left).map (tokens ++ ·) := by
  induction scanned with
  | here position cs => cases scanFrom position cs <;> rfl
  | token found read on ih =>
    rw [scanFrom_of_read found, read, ok_bind, ih]
    cases scanFrom _ _ <;> rfl

theorem cut (scanned : ScansTo position cs tokens stop left) :
    ∃ piece, piece ++ left = cs ∧ stop = position + piece.length ∧
      ScansTo position piece tokens stop [] := by
  induction scanned with
  | here position cs => exact ⟨[], rfl, rfl, .here position []⟩
  | @token position stop cs rest left form lexeme tokens found read on ih =>
    obtain ⟨piece, rfl, rfl, again⟩ := ih
    have split := (Form.read_split found).1
    subst split
    refine ⟨form.text ++ piece, List.append_assoc _ _ _, ?_,
      .token (Form.read_cut found) read again⟩
    rw [List.length_append, Nat.add_assoc]

end ScansTo

theorem not_sentence_of_unread {cs piece : List Char} (none : Form.read? cs = none)
    (front : piece <+: cs) : ¬Sentence piece := by
  intro sentence
  obtain ⟨form, written, rfl⟩ := (sentence_iff piece).mp sentence
  obtain ⟨rest, rfl⟩ := front
  obtain ⟨found, later, read, _⟩ := Form.read_longest written rest
  rw [none] at read
  cases read

def writtenPool (count sides : List Char) : Pool :=
  ⟨(if count.isEmpty then 1 else Text.numeralValue count : Nat), Text.numeralValue sides⟩

def Suffix.threshold? : Suffix → Option (List Char)
  | plain => none
  | conditional _ digits => some digits
  | reroll _ _ digits => some digits

def Form.OutOfBounds : Form → Prop
  | dice count _ sides suffix =>
    ¬(writtenPool count sides).Canonical ∨ ∃ digits, suffix.threshold? = some digits ∧
      ¬(1 ≤ (Text.numeralValue digits : Int) ∧
        (Text.numeralValue digits : Int) ≤ (writtenPool count sides).sides)
  | _ => False

theorem tooLong_of_readNumeral {digits : List Char} {fault : ScanFault}
    (failed : readNumeral digits = .error fault) : fault = .numeralTooLong := by
  rw [readNumeral_of_long (long_of_readNumeral failed)] at failed
  cases failed
  rfl

theorem tooLong_of_readCount {count : List Char} {fault : ScanFault}
    (failed : readCount count = .error fault) : fault = .numeralTooLong := by
  rw [readCount] at failed
  split at failed
  · cases failed
  · exact tooLong_of_readNumeral failed

theorem writtenPool_eq {count sides : List Char} {dice faces : Nat}
    (counted : readCount count = .ok dice) (sided : readNumeral sides = .ok faces) :
    writtenPool count sides = ⟨dice, faces⟩ := by
  rw [writtenPool, (value_of_readNumeral sided).2]
  rw [readCount] at counted
  split at counted
  · rename_i leftOut
    cases counted
    rw [if_pos leftOut]
  · rename_i given
    rw [if_neg given, (value_of_readNumeral counted).2]

variable {position : Nat} {fault : ScanFault}

theorem refused_of_readPool {count sides : List Char}
    (failed : readPool position count sides = .error fault) (told : fault ≠ .numeralTooLong) :
    (∃ cause, fault = .rejected position cause) ∧ ¬(writtenPool count sides).Canonical := by
  have refused := failed
  rw [readPool_eq] at failed
  rcases error_of_bind failed with counted | ⟨dice, counted, failed⟩
  · exact absurd (tooLong_of_readCount counted) told
  rcases error_of_bind failed with sided | ⟨faces, sided, failed⟩
  · exact absurd (tooLong_of_readNumeral sided) told
  constructor
  · dsimp only at failed
    split at failed
    · cases failed
      exact ⟨_, rfl⟩
    split at failed
    · cases failed
      exact ⟨_, rfl⟩
    split at failed
    · cases failed
      exact ⟨_, rfl⟩
    split at failed
    all_goals cases failed
    exact ⟨_, rfl⟩
  · intro canonical
    have read := (readPool_eq_ok_iff position count sides _).mpr
      ⟨dice, faces, counted, sided, writtenPool_eq counted sided, canonical⟩
    rw [read] at refused
    cases refused

theorem refused_of_readThreshold {pool : Pool} {digits : List Char}
    (failed : readThreshold position pool digits = .error fault)
    (told : fault ≠ .numeralTooLong) :
    (∃ cause, fault = .rejected position cause) ∧
      ¬(1 ≤ (Text.numeralValue digits : Int) ∧ (Text.numeralValue digits : Int) ≤ pool.sides) := by
  rw [readThreshold] at failed
  rcases error_of_bind failed with numeral | ⟨threshold, numeral, failed⟩
  · exact absurd (tooLong_of_readNumeral numeral) told
  rw [(value_of_readNumeral numeral).2]
  split at failed
  · cases failed
    exact ⟨⟨_, rfl⟩, by omega⟩
  · cases failed

theorem Form.outOfBounds_of_lexeme {form : Form} (failed : form.lexeme position = .error fault)
    (told : fault ≠ .numeralTooLong) :
    (∃ cause, fault = .rejected position cause) ∧ form.OutOfBounds := by
  cases form with
  | operator op => cases failed
  | paren isOpen => cases failed
  | number digits =>
    rcases error_of_bind failed with numeral | ⟨_, _, failed⟩
    · exact absurd (tooLong_of_readNumeral numeral) told
    · cases failed
  | dice count letter sides suffix =>
    rcases error_of_bind failed with refused | ⟨pool, read, failed⟩
    · exact (refused_of_readPool refused told).imp id .inl
    obtain ⟨dice, faces, counted, sided, rfl, _⟩ :=
      (readPool_eq_ok_iff position count sides pool).mp read
    rw [← writtenPool_eq counted sided] at failed
    cases suffix with
    | plain => cases failed
    | conditional comparison digits =>
      rcases error_of_bind failed with checked | ⟨_, _, failed⟩
      · exact (refused_of_readThreshold checked told).imp id fun bad => .inr ⟨digits, rfl, bad⟩
      · cases failed
    | reroll kind comparison digits =>
      rcases error_of_bind failed with checked | ⟨_, _, failed⟩
      · exact (refused_of_readThreshold checked told).imp id fun bad => .inr ⟨digits, rfl, bad⟩
      · cases failed

theorem condense_of_append {front back cs : List Char} (split : front ++ back = Text.condense cs) :
    Text.condense front = front := by
  rw [Text.condense, List.filter_eq_self]
  intro c member
  have inside : c ∈ Text.condense cs := split ▸ List.mem_append_left back member
  exact (List.mem_filter.mp inside).2

def ScanFault.position? : ScanFault → Option Nat
  | tooLong _ _ => some 0
  | unreadable position _ => some position
  | rejected position _ => some position
  | numeralTooLong => none

/-- From the place of the fault on, nothing begins a token, or else it begins with dice that have
    such numbers as no dice may have. -/
inductive ScanFault.Explained (position : Nat) (left : List Char) : ScanFault → Prop
  | unreadable (more : left ≠ []) (none : ∀ piece, piece <+: left → ¬Sentence piece) :
      Explained position left (.unreadable position (String.ofList left))
  | rejected {form : Form} {cause : DiceFault} (written : form.WellWritten)
      (longest : LongestSentence form.text left) (numbers : form.OutOfBounds) :
      Explained position left (.rejected position cause)

theorem ScanFault.Stops.explained {left : List Char} (stops : fault.Stops position left)
    (told : fault.diagnosis?.isSome = true) : fault.Explained position left := by
  cases stops with
  | unread nonempty none =>
    exact .unreadable nonempty fun _ front => not_sentence_of_unread none front
  | @refused form rest _ found refused =>
    obtain ⟨written, _, longest⟩ := (Form.read_eq_some_iff left form rest).mp found
    have diagnosed : fault ≠ .numeralTooLong := by
      rintro rfl
      cases told
    obtain ⟨⟨cause, rfl⟩, numbers⟩ := Form.outOfBounds_of_lexeme refused diagnosed
    exact .rejected written longest numbers

/-- Up to the place of its fault a text is scanned, and cut off there it gives just the tokens that
    were scanned before. What is left from there on explains the fault. -/
theorem tokenize_fails_first {limit : Int} {text : String}
    (room : (text.length : Int) ≤ limit) (failed : tokenize limit text = .error fault)
    (told : fault.diagnosis?.isSome = true) :
    let source := Text.condense text.toList
    ∃ position tokens, fault.position? = some position ∧
      ScansTo 0 source tokens position (source.drop position) ∧
      tokenize limit (String.ofList (source.take position)) = .ok tokens ∧
      fault.Explained position (source.drop position) := by
  intro source
  have condensed : Text.condense text.toList = source := rfl
  rw [tokenize, checkLength_of_le room, ok_bind, condensed] at failed
  obtain ⟨tokens, position, left, scanned, stops⟩ := scansTo_of_error failed
  obtain ⟨piece, split, reached, again⟩ := scanned.cut
  rw [Nat.zero_add] at reached
  subst reached
  have fits : ((String.ofList piece).length : Int) ≤ limit := by
    have whole := congrArg List.length split
    have shorter := Text.length_condense_le text.toList
    rw [condensed, String.length_toList] at shorter
    rw [List.length_append] at whole
    rw [String.length_ofList]
    omega
  have read : tokenize limit (String.ofList piece) = .ok tokens := by
    rw [tokenize, checkLength_of_le fits, ok_bind, String.toList_ofList,
      condense_of_append (split.trans condensed.symm), again.scanFrom_eq, scanFrom]
    exact congrArg Except.ok (List.append_nil tokens)
  have explained := stops.explained told
  have placed : fault.position? = some piece.length := by
    cases explained <;> rfl
  refine ⟨piece.length, tokens, placed, ?_⟩
  rw [← split, List.take_left, List.drop_left]
  rw [← split] at scanned
  exact ⟨scanned, read, explained⟩

theorem tokenize_fails_first_in_both_ways :
    let unread : ScanFault := .unreadable 4 "x7"
    let refused : ScanFault := .rejected 4 (.thresholdOutside 7 6)
    (tokenize defaultLengthLimit "2d6 + x7" = .error unread ∧
      ∃ tokens, ScansTo 0 "2d6+x7".toList tokens 4 "x7".toList ∧
        tokenize defaultLengthLimit "2d6+" = .ok tokens ∧ unread.Explained 4 "x7".toList) ∧
    (tokenize defaultLengthLimit "(4) * 3d6>7" = .error refused ∧
      ∃ tokens, ScansTo 0 "(4)*3d6>7".toList tokens 4 "3d6>7".toList ∧
        tokenize defaultLengthLimit "(4)*" = .ok tokens ∧ refused.Explained 4 "3d6>7".toList) := by
  intro unread refused
  have unreadFails : tokenize defaultLengthLimit "2d6 + x7" = .error unread := by decide +kernel
  have refusedFails : tokenize defaultLengthLimit "(4) * 3d6>7" = .error refused := by
    decide +kernel
  refine ⟨⟨unreadFails, ?_⟩, refusedFails, ?_⟩
  · obtain ⟨position, tokens, placed, found⟩ :=
      tokenize_fails_first (by decide +kernel) unreadFails (by decide +kernel)
    cases placed
    exact ⟨tokens, found⟩
  · obtain ⟨position, tokens, placed, found⟩ :=
      tokenize_fails_first (by decide +kernel) refusedFails (by decide +kernel)
    cases placed
    exact ⟨tokens, found⟩

end DiceFormula
