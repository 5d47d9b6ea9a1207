import DiceFormula.Expr.Basic
import DiceFormula.Token.Form

namespace DiceFormula

def Atom.pool? : Atom → Option Pool
  | number _ => none
  | dice pool => some pool
  | conditional pool _ => some pool
  | reroll pool _ _ => some pool

def Atom.explodes : Atom → Bool
  | reroll _ .exploding _ => true
  | _ => false

namespace Expr

def lexemes : Expr → List Lexeme
  | atom a => [.atom a]
  | group inner => .paren true :: inner.lexemes ++ [.paren false]
  | binary operator left right => left.lexemes ++ .operator operator :: right.lexemes

def atoms : Expr → List Atom
  | atom a => [a]
  | group inner => inner.atoms
  | binary _ left right => left.atoms ++ right.atoms

def pools (e : Expr) : List Pool := e.atoms.filterMap Atom.pool?

def nesting : Expr → Nat
  | atom _ => 0
  | group inner => inner.nesting + 1
  | binary _ left right => max left.nesting right.nesting

theorem mem_pools_atom {a : Atom} {pool : Pool} (has : a.pool? = some pool) :
    pool ∈ (atom a).pools :=
  List.mem_filterMap.mpr ⟨a, List.mem_singleton_self a, has⟩

theorem pools_binary (operator : Operator) (left right : Expr) :
    (binary operator left right).pools = left.pools ++ right.pools :=
  List.filterMap_append

theorem mem_lexemes_of_mem_atoms {e : Expr} {a : Atom} (member : a ∈ e.atoms) :
    Lexeme.atom a ∈ e.lexemes := by
  induction e with
  | atom b =>
    have same : a = b := List.mem_singleton.mp member
    rw [same]
    exact List.mem_singleton_self _
  | group inner ih => exact List.mem_append_left _ (List.mem_cons_of_mem _ (ih member))
  | binary operator left right leftIh rightIh =>
    rcases List.mem_append.mp member with inLeft | inRight
    · exact List.mem_append_left _ (leftIh inLeft)
    · exact List.mem_append_right _ (List.mem_cons_of_mem _ (rightIh inRight))

theorem head?_lexemes (e : Expr) (after : List Lexeme) :
    (∃ a, (e.lexemes ++ after).head? = some (.atom a)) ∨
      (e.lexemes ++ after).head? = some (.paren true) := by
  induction e generalizing after with
  | atom a => exact .inl ⟨a, rfl⟩
  | group inner _ => exact .inr rfl
  | binary operator left right leftIh _ =>
    rw [lexemes, List.append_assoc]
    exact leftIh _

theorem getLast?_lexemes (e : Expr) (before : List Lexeme) :
    (∃ a, (before ++ e.lexemes).getLast? = some (.atom a)) ∨
      (before ++ e.lexemes).getLast? = some (.paren false) := by
  induction e generalizing before with
  | atom a => exact .inl ⟨a, List.getLast?_concat⟩
  | group inner _ =>
    right
    rw [lexemes, ← List.append_assoc]
    exact List.getLast?_concat
  | binary operator left right _ rightIh =>
    have last := rightIh (before ++ left.lexemes ++ [.operator operator])
    simpa only [lexemes, List.append_assoc, List.singleton_append] using last

end Expr

end DiceFormula
