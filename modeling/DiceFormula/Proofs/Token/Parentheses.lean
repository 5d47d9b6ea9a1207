import DiceFormula.Token.Form
import Mathlib.Data.List.Induction

namespace DiceFormula

def openings (tokens : List Token) : Nat := tokens.countP (·.lexeme = .paren true)

def closings (tokens : List Token) : Nat := tokens.countP (·.lexeme = .paren false)

/-- Wherever the tokens are cut off, no more groups have been closed than opened. -/
def NeverOverclosed (tokens : List Token) : Prop :=
  ∀ n, closings (tokens.take n) ≤ openings (tokens.take n)

/-- Every parenthesis has its partner. -/
structure Balanced (tokens : List Token) : Prop where
  even : openings tokens = closings tokens
  sane : NeverOverclosed tokens

instance (tokens : List Token) : Decidable (NeverOverclosed tokens) :=
  decidable_of_iff
    (∀ n ≤ tokens.length, closings (tokens.take n) ≤ openings (tokens.take n))
    ⟨fun sane n => by
      rcases Nat.le_total n tokens.length with within | beyond
      · exact sane n within
      · rw [List.take_of_length_le beyond, ← List.take_length (l := tokens)]
        exact sane _ (Nat.le_refl _),
      fun sane n _ => sane n⟩

/-- So many of the opening parentheses are closed by none that come after them. -/
def stillOpen : List Token → Nat
  | [] => 0
  | token :: rest =>
    (if token.lexeme = .paren true ∧ NeverOverclosed rest then 1 else 0) + stillOpen rest

/-- An opening parenthesis finds its partner in the tokens that come after it: one that closes, all
    between the two being balanced. -/
def PartnerIn (after : List Token) : Prop :=
  ∃ inner closing rest, after = inner ++ closing :: rest ∧ closing.lexeme = .paren false ∧
    Balanced inner

/-- So many groups are open after the tokens, and between any two of the parentheses that open them
    everything is balanced. -/
inductive Nested : List Token → Nat → Prop
  | balanced {tokens : List Token} (balanced : Balanced tokens) : Nested tokens 0
  | within {outer inner : List Token} {opening : Token} {depth : Nat} (around : Nested outer depth)
      (opens : opening.lexeme = .paren true) (balanced : Balanced inner) :
      Nested (outer ++ opening :: inner) (depth + 1)

variable {tokens more : List Token} {token opening closing : Token} {depth : Nat}

@[simp] theorem openings_append (tokens more : List Token) :
    openings (tokens ++ more) = openings tokens + openings more := List.countP_append

@[simp] theorem closings_append (tokens more : List Token) :
    closings (tokens ++ more) = closings tokens + closings more := List.countP_append

theorem openings_cons (token : Token) (tokens : List Token) :
    openings (token :: tokens) =
      openings tokens + if token.lexeme = .paren true then 1 else 0 := by
  simp [openings, List.countP_cons]

theorem closings_cons (token : Token) (tokens : List Token) :
    closings (token :: tokens) =
      closings tokens + if token.lexeme = .paren false then 1 else 0 := by
  simp [closings, List.countP_cons]

theorem NeverOverclosed.whole (sane : NeverOverclosed tokens) :
    closings tokens ≤ openings tokens := by
  have all := sane tokens.length
  rwa [List.take_length] at all

theorem NeverOverclosed.append (first : NeverOverclosed tokens) (second : NeverOverclosed more) :
    NeverOverclosed (tokens ++ more) := by
  intro n
  rw [List.take_append, openings_append, closings_append]
  exact Nat.add_le_add (first n) (second _)

theorem NeverOverclosed.of_append (sane : NeverOverclosed (tokens ++ more)) :
    NeverOverclosed tokens := by
  intro n
  have cut := sane (min n tokens.length)
  rwa [List.take_append_of_le_length (Nat.min_le_right _ _), ← List.take_eq_take_min] at cut

theorem NeverOverclosed.concat (sane : NeverOverclosed tokens)
    (room : closings tokens < openings tokens) (token : Token) :
    NeverOverclosed (tokens ++ [token]) := by
  intro n
  rcases Nat.lt_or_ge tokens.length n with beyond | within
  · have whole : (tokens ++ [token]).length ≤ n := by
      rw [List.length_append, List.length_singleton]
      exact beyond
    have one : closings [token] ≤ 1 := List.countP_le_length
    rw [List.take_of_length_le whole, openings_append, closings_append]
    omega
  · rw [List.take_append_of_le_length within]
    exact sane n

theorem NeverOverclosed.cons (opens : opening.lexeme = .paren true)
    (sane : NeverOverclosed tokens) : NeverOverclosed (opening :: tokens) := by
  intro n
  cases n with
  | zero => exact Nat.le_refl _
  | succ n =>
    have cut := sane n
    rw [List.take_succ_cons, openings_cons, closings_cons, opens]
    simp only [↓reduceIte, Lexeme.paren.injEq, Bool.true_eq_false, Nat.add_zero]
    omega

namespace Balanced

theorem nil : Balanced [] := ⟨rfl, fun n => by rw [List.take_nil]; exact Nat.le_refl _⟩

theorem append (first : Balanced tokens) (second : Balanced more) : Balanced (tokens ++ more) := by
  refine ⟨?_, first.sane.append second.sane⟩
  rw [openings_append, closings_append, first.even, second.even]

theorem single (other : ∀ isOpen, token.lexeme ≠ .paren isOpen) : Balanced [token] := by
  have opened : openings [token] = 0 := by simp [openings, other]
  have closed : closings [token] = 0 := by simp [closings, other]
  refine ⟨opened.trans closed.symm, fun n => ?_⟩
  have cut : closings ([token].take n) ≤ closings [token] :=
    (List.take_sublist n [token]).countP_le
  omega

theorem group (opens : opening.lexeme = .paren true) (closes : closing.lexeme = .paren false)
    (inner : Balanced tokens) : Balanced (opening :: tokens ++ [closing]) := by
  have even := inner.even
  have one : openings (opening :: tokens) = closings (opening :: tokens) + 1 := by
    simp [openings_cons, closings_cons, opens, even]
  refine ⟨?_, (inner.sane.cons opens).concat (by omega) closing⟩
  rw [openings_append, closings_append, one]
  simp [openings, closings, closes]

theorem neverOverclosed_append_iff (first : Balanced tokens) :
    NeverOverclosed (tokens ++ more) ↔ NeverOverclosed more := by
  constructor
  · intro sane n
    have cut := sane (tokens.length + n)
    have even := first.even
    rw [List.take_length_add_append, openings_append, closings_append] at cut
    omega
  · exact first.sane.append

end Balanced

theorem not_balanced_of_opening (opens : opening.lexeme = .paren true)
    (sane : NeverOverclosed more) : ¬Balanced (tokens ++ opening :: more) := by
  intro balanced
  have even := balanced.even
  have before := balanced.sane.of_append.whole
  have after := sane.whole
  simp only [openings_append, closings_append, openings_cons, closings_cons, opens, ↓reduceIte,
    Lexeme.paren.injEq, Bool.true_eq_false] at even
  omega

theorem NeverOverclosed.concat_ends (sane : NeverOverclosed tokens)
    (exceeds : ¬NeverOverclosed (tokens ++ [token])) :
    token.lexeme = .paren false ∧ Balanced tokens := by
  constructor
  · refine Decidable.byContradiction fun other => exceeds (sane.append fun n => ?_)
    have none : closings [token] = 0 := by simp [closings, other]
    have cut : closings ([token].take n) ≤ closings [token] :=
      (List.take_sublist n [token]).countP_le
    omega
  · have full : ¬closings tokens < openings tokens := fun room => exceeds (sane.concat room token)
    exact ⟨Nat.le_antisymm (Nat.not_lt.mp full) sane.whole, sane⟩

theorem partnerIn_iff : PartnerIn tokens ↔ ¬NeverOverclosed tokens := by
  constructor
  · rintro ⟨inner, closing, rest, rfl, closes, balanced⟩ sane
    rw [balanced.neverOverclosed_append_iff] at sane
    have one := sane 1
    simp [openings, closings, closes] at one
  · intro exceeds
    induction tokens using List.reverseRecOn with
    | nil => exact absurd Balanced.nil.sane exceeds
    | append_singleton tokens token ih =>
      by_cases sane : NeverOverclosed tokens
      · obtain ⟨closes, balanced⟩ := sane.concat_ends exceeds
        exact ⟨tokens, token, [], rfl, closes, balanced⟩
      · obtain ⟨inner, closing, rest, rfl, closes, balanced⟩ := ih sane
        exact ⟨inner, closing, rest ++ [token], List.append_assoc _ _ _, closes, balanced⟩

namespace Nested

theorem openings_eq (nested : Nested tokens depth) :
    openings tokens = closings tokens + depth := by
  induction nested with
  | balanced balanced => exact balanced.even
  | within _ opens inner ih =>
    simp only [openings_append, closings_append, openings_cons, closings_cons, opens, inner.even,
      ih, ↓reduceIte, Lexeme.paren.injEq, Bool.true_eq_false]
    omega

end Nested

theorem stillOpen_append (sane : NeverOverclosed more) :
    stillOpen (tokens ++ more) = stillOpen tokens + stillOpen more := by
  induction tokens with
  | nil => exact (Nat.zero_add _).symm
  | cons token rest ih =>
    have same : NeverOverclosed (rest ++ more) ↔ NeverOverclosed rest :=
      ⟨.of_append, fun first => first.append sane⟩
    rw [List.cons_append, stillOpen, stillOpen, ih, Nat.add_assoc]
    simp only [same]

theorem stillOpen_eq_zero
    (covered : ∀ n, openings (tokens.drop n) ≤ closings (tokens.drop n)) :
    stillOpen tokens = 0 := by
  induction tokens with
  | nil => rfl
  | cons token rest ih =>
    have closed : ¬(token.lexeme = .paren true ∧ NeverOverclosed rest) := by
      rintro ⟨opens, sane⟩
      have all := covered 0
      have whole := sane.whole
      simp only [List.drop_zero, openings_cons, closings_cons, opens, ↓reduceIte,
        Lexeme.paren.injEq, Bool.true_eq_false] at all
      omega
    rw [stillOpen, if_neg closed, ih fun n => covered (n + 1)]

theorem Balanced.stillOpen_eq (balanced : Balanced tokens) : stillOpen tokens = 0 := by
  refine stillOpen_eq_zero fun n => ?_
  have even := balanced.even
  have before := balanced.sane n
  rw [← List.take_append_drop n tokens, openings_append, closings_append] at even
  omega

theorem Nested.stillOpen_eq (nested : Nested tokens depth) : stillOpen tokens = depth := by
  induction nested with
  | balanced balanced => exact balanced.stillOpen_eq
  | within _ opens inner ih =>
    rw [stillOpen_append (inner.sane.cons opens), ih, stillOpen, if_pos ⟨opens, inner.sane⟩,
      inner.stillOpen_eq]

end DiceFormula
