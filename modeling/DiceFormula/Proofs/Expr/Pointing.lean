import DiceFormula.Proofs.Expr.Nesting

namespace DiceFormula

/-- A fault is reported behind all the tokens, or from where some of them begin that follow one
    another and spell the text that is named. -/
inductive ParseFault.Marks (tokens : List Token) : ParseFault → Prop
  | behind {cause : ParseCause} : Marks tokens ⟨cause, endOf tokens, none⟩
  | some {fault : ParseFault} {before marked after : List Token} {first : Token} {piece : String}
      (split : tokens = before ++ first :: (marked ++ after))
      (position : fault.position = first.position) (named : fault.token = some piece)
      (spells : piece.toList = (first :: marked).flatMap (·.text.toList)) : Marks tokens fault

/-- Nothing is named, at the end of the source, or what the source goes on with at the position. -/
def ParseFault.PointsInto (fault : ParseFault) (source : List Char) : Prop :=
  (fault.token = none ∧ fault.position = source.length) ∨
  ∃ (position : Nat) (piece : String), fault.token = some piece ∧ fault.position = position ∧
    position < source.length ∧ piece.toList <+: source.drop position

def Token.Spelled (token : Token) : Prop :=
  ∀ isOpen, token.lexeme = .paren isOpen → token.text.toList = (Form.paren isOpen).text

variable {tokens before after rest : List Token} {token : Token} {fault : ParseFault}

theorem ParseFault.Names.marks (named : fault.Names token) (member : token ∈ tokens) :
    fault.Marks tokens := by
  obtain ⟨before, after, rfl⟩ := List.append_of_mem member
  have split : before ++ token :: after = before ++ token :: ([] ++ after) := rfl
  have spells : token.text.toList = [token].flatMap (·.text.toList) := by
    rw [List.flatMap_cons, List.flatMap_nil, List.append_nil]
  exact .some split named.position named.text spells

theorem Opened.opening_mem {groups : List Group} (opened : Opened tokens groups) :
    ∀ group ∈ groups, group.opening ∈ tokens := by
  induction opened with
  | balanced balanced => exact List.forall_mem_nil _
  | within around opens room balanced ih =>
    refine List.forall_mem_cons.mpr ⟨List.mem_append_right _ List.mem_cons_self, ?_⟩
    exact fun group member => List.mem_append_left _ (ih group member)

theorem Reading.Refuses.marks {reading : Reading}
    (refuses : reading.Refuses (endOf (before ++ rest)) rest fault)
    (opened : Opened before reading.groups) (spelled : ∀ token ∈ rest, token.Spelled) :
    fault.Marks (before ++ rest) := by
  have first (token : Token) (rest : List Token) : token ∈ before ++ token :: rest :=
    List.mem_append_right _ List.mem_cons_self
  have blamed {group : Group} {outer : List Group} (opened : Opened before (group :: outer)) :
      group.opening ∈ before ++ rest :=
    List.mem_append_left _ (opened.opening_mem group List.mem_cons_self)
  cases refuses with
  | unexpectedEnd => exact .behind
  | unexpectedOperator lexeme => exact ParseFault.Names.marks ⟨rfl, rfl⟩ (first _ _)
  | unmatchedClosing closes none => exact ParseFault.Names.marks ⟨rfl, rfl⟩ (first _ _)
  | valueMissing closes => exact ParseFault.Names.marks ⟨rfl, rfl⟩ (first _ _)
  | nestedTooDeep opens filled deep => exact ParseFault.Names.marks ⟨rfl, rfl⟩ (first _ _)
  | @emptyGroup groups level opening closing rest opens closes =>
    have one := spelled opening List.mem_cons_self true opens
    have other := spelled closing (List.mem_cons_of_mem _ List.mem_cons_self) false closes
    have split : before ++ opening :: closing :: rest =
        before ++ opening :: ([closing] ++ rest) := rfl
    refine .some split rfl rfl ?_
    simp only [List.flatMap_cons, List.flatMap_nil, one, other]
    rfl
  | unclosed => exact ParseFault.Names.marks ⟨rfl, rfl⟩ (blamed opened)
  | @cannotFollow groups sum term token rest strange =>
    cases groups with
    | nil => exact ParseFault.Names.marks ⟨rfl, rfl⟩ (first _ _)
    | cons group outer => exact ParseFault.Names.marks ⟨rfl, rfl⟩ (blamed opened)

theorem marks_of_ofTokens (failed : Expr.ofTokens tokens = .error fault)
    (spelled : ∀ token ∈ tokens, token.Spelled) : fault.Marks tokens := by
  cases Expr.rejects_of_ofTokens failed with
  | empty nothing =>
    subst nothing
    exact .behind
  | leading begins sign =>
    exact ParseFault.Names.marks ⟨rfl, rfl⟩ (List.mem_of_head? begins)
  | trailing ends sign =>
    exact ParseFault.Names.marks ⟨rfl, rfl⟩ (List.mem_of_getLast? ends)
  | refused split ends taken refuses =>
    subst split
    exact refuses.marks (opened_of_takesAll taken)
      fun token member => spelled token (List.mem_append_right _ member)

theorem Form.eq_paren_of_lexeme {form : Form} {position : Nat} {isOpen : Bool}
    (read : form.lexeme position = .ok (.paren isOpen)) : form = .paren isOpen := by
  cases form with
  | number digits =>
    obtain ⟨value, _, read⟩ := ok_of_bind read
    cases read
  | operator op => cases read
  | paren other =>
    cases read
    rfl
  | dice count letter sides suffix =>
    obtain ⟨pool, _, read⟩ := ok_of_bind read
    cases suffix with
    | plain => cases read
    | conditional comparison digits =>
      obtain ⟨threshold, _, read⟩ := ok_of_bind read
      cases read
    | reroll kind comparison digits =>
      obtain ⟨threshold, _, read⟩ := ok_of_bind read
      cases read

namespace CutsUp

variable {limit position : Int} {source : List Char}

theorem spelled (cut : CutsUp limit position source tokens) : ∀ token ∈ tokens, token.Spelled := by
  intro token member isOpen lexeme
  have alone := cut.alone token member
  rw [tokenize] at alone
  obtain ⟨_, _, alone⟩ := ok_of_bind alone
  obtain ⟨form, rest, _, read, text_eq, _⟩ := (scanFrom_cons_iff _ _ _ _).mp alone
  dsimp only at read text_eq
  rw [lexeme] at read
  rw [text_eq, String.toList_ofList, Form.eq_paren_of_lexeme read]

theorem position_eq (cut : CutsUp limit position source (before ++ token :: after)) :
    token.position = position + (before.flatMap (·.text.toList)).length := by
  induction before generalizing position source with
  | nil => exact (cut.starts token rfl).trans (Int.add_zero position).symm
  | cons other before ih =>
    obtain ⟨_, _, starts, _, _, _, on⟩ := (cutsUp_cons_iff _ _ _ _).mp cut
    rw [ih on, Token.stop, starts, List.flatMap_cons, List.length_append, String.length_toList,
      Int.natCast_add, Int.add_assoc]

theorem endOf_eq (cut : CutsUp limit 0 source tokens) : endOf tokens = source.length := by
  rcases List.eq_nil_or_concat tokens with rfl | ⟨before, last, rfl⟩
  · rw [← cut.whole]
    rfl
  · rw [List.concat_eq_append] at cut ⊢
    have position := cut.position_eq
    rw [endOf, List.getLast?_concat, ← cut.whole, List.flatMap_append, List.length_append,
      Option.map_some, Option.getD_some, Token.stop, position, List.flatMap_cons, List.flatMap_nil,
      List.append_nil, String.length_toList]
    omega

theorem pointsInto (cut : CutsUp limit 0 source tokens) (marks : fault.Marks tokens) :
    fault.PointsInto source := by
  cases marks with
  | behind => exact .inl ⟨rfl, cut.endOf_eq⟩
  | @some fault before marked after first piece split position named spells =>
    subst split
    have starts := cut.position_eq
    have text : before.flatMap (·.text.toList) ++ (piece.toList ++ after.flatMap (·.text.toList)) =
        source := by
      rw [← cut.whole, spells, ← List.flatMap_append, ← List.flatMap_append, List.cons_append]
    have long : first.text.length ≠ 0 := fun none =>
      cut.nonempty first (List.mem_append_right _ List.mem_cons_self)
        (String.length_eq_zero_iff.mp none)
    have longer : first.text.length ≤ piece.toList.length := by
      rw [spells, List.flatMap_cons, List.length_append, String.length_toList]
      exact Nat.le_add_right _ _
    refine .inr ⟨(before.flatMap (·.text.toList)).length, piece, named, ?_, ?_, ?_⟩
    · rw [position, starts, Int.zero_add]
    · rw [← text, List.length_append, List.length_append]
      omega
    · rw [← text, List.drop_left]
      exact List.prefix_append _ _

end CutsUp

/-- A fault of the tokens of a text tells where in the text it stands, and what stands there. -/
theorem fault_points_into_text {limit : Int} {text : String}
    (scanned : tokenize limit text = .ok tokens) (failed : Expr.ofTokens tokens = .error fault) :
    fault.PointsInto (Text.condense text.toList) := by
  have cut := ((tokenize_eq_ok_iff text tokens).mp scanned).2
  exact cut.pointsInto (marks_of_ofTokens failed cut.spelled)

theorem fault_points_into_text_of_group_and_end :
    let sum : List Token := [⟨"1", 0, .atom (.number 1)⟩, ⟨"+", 1, .operator .add⟩,
      ⟨"(", 2, .paren true⟩]
    let group : ParseFault := ⟨.emptyGroup, 2, some "()"⟩
    let missing : ParseFault := ⟨.unexpectedEnd, 3, none⟩
    (tokenize defaultLengthLimit "1 + ()" = .ok (sum ++ [⟨")", 3, .paren false⟩]) ∧
      Expr.ofTokens (sum ++ [⟨")", 3, .paren false⟩]) = .error group ∧
      group.PointsInto (Text.condense "1 + ()".toList)) ∧
    (tokenize defaultLengthLimit "1 + (" = .ok sum ∧ Expr.ofTokens sum = .error missing ∧
      missing.PointsInto (Text.condense "1 + (".toList)) := by
  intro sum group missing
  have closed : tokenize defaultLengthLimit "1 + ()" = .ok (sum ++ [⟨")", 3, .paren false⟩]) := by
    decide +kernel
  have opened : tokenize defaultLengthLimit "1 + (" = .ok sum := by decide +kernel
  have empty : Expr.ofTokens (sum ++ [⟨")", 3, .paren false⟩]) = .error group := by decide +kernel
  have ended : Expr.ofTokens sum = .error missing := by decide +kernel
  exact ⟨⟨closed, empty, fault_points_into_text closed empty⟩,
    ⟨opened, ended, fault_points_into_text opened ended⟩⟩

end DiceFormula
