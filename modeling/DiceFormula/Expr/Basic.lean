import DiceFormula.Atom
import DiceFormula.Operator

namespace DiceFormula

inductive Expr
  | atom (atom : Atom)
  | group (inner : Expr)
  | binary (operator : Operator) (left right : Expr)
  deriving DecidableEq

structure Link where
  operator : Operator
  left : Expr
  right : Expr
  deriving DecidableEq

namespace Expr

def size : Expr → Nat
  | atom _ => 1
  | group inner => inner.size + 1
  | binary _ left right => left.size + right.size + 1

theorem size_pos (e : Expr) : 0 < e.size := by
  cases e <;> simp [size]

end Expr

def Link.expr (link : Link) : Expr := .binary link.operator link.left link.right

def chainSize : List Link → Nat
  | [] => 0
  | link :: rest => link.right.size + 1 + chainSize rest

namespace Expr

def unwind : Expr → List Link → Expr × List Link
  | binary operator left right, links => unwind left (⟨operator, left, right⟩ :: links)
  | e, links => (e, links)

def spine (e : Expr) : Expr × List Link := unwind e []

theorem size_unwind (e : Expr) (links : List Link) :
    (unwind e links).1.size + chainSize (unwind e links).2 = e.size + chainSize links := by
  induction e generalizing links with
  | atom _ => rfl
  | group _ _ => rfl
  | binary operator left right leftIh _ =>
    rw [unwind, leftIh]
    simp only [chainSize, size]
    omega

theorem size_spine (e : Expr) : e.spine.1.size + chainSize e.spine.2 = e.size := by
  have total := size_unwind e []
  simpa [spine, chainSize] using total

theorem length_le_unwind (e : Expr) (links : List Link) :
    links.length ≤ (unwind e links).2.length := by
  induction e generalizing links with
  | atom _ => exact Nat.le_refl _
  | group _ _ => exact Nat.le_refl _
  | binary operator left right leftIh _ =>
    exact Nat.le_trans (Nat.le_succ _) (leftIh (⟨operator, left, right⟩ :: links))

theorem spine_binary_ne_nil (operator : Operator) (left right : Expr) :
    (binary operator left right).spine.2 ≠ [] := by
  intro empty
  have longer := length_le_unwind left [⟨operator, left, right⟩]
  simp only [spine, unwind] at empty
  simp [empty] at longer

theorem chainSize_cons (link : Link) (rest : List Link) :
    chainSize (link :: rest) = link.right.size + 1 + chainSize rest := rfl

theorem chainSize_pos {links : List Link} (nonempty : links ≠ []) : 0 < chainSize links := by
  cases links with
  | nil => exact absurd rfl nonempty
  | cons link rest =>
    rw [chainSize_cons]
    omega

theorem size_first_lt (operator : Operator) (left right : Expr) :
    (binary operator left right).spine.1.size < (binary operator left right).size := by
  have total := size_spine (binary operator left right)
  have chain := chainSize_pos (spine_binary_ne_nil operator left right)
  omega

theorem chainSize_lt (operator : Operator) (left right : Expr) :
    chainSize (binary operator left right).spine.2 < (binary operator left right).size := by
  have total := size_spine (binary operator left right)
  have first := size_pos (binary operator left right).spine.1
  omega

end Expr

end DiceFormula

namespace DiceFormula.Expr

mutual

def render : Expr → String
  | atom a => a.render
  | group inner => "(" ++ inner.render ++ ")"
  | binary operator left right =>
    renderChain (binary operator left right).spine.1.render (binary operator left right).spine.2
termination_by e => e.size
decreasing_by
  · simp [size]
  · exact size_first_lt operator left right
  · exact chainSize_lt operator left right

def renderChain (written : String) : List Link → String
  | [] => written
  | link :: rest =>
    renderChain (written ++ " " ++ link.operator.symbol ++ " " ++ link.right.render) rest
termination_by links => chainSize links
decreasing_by
  all_goals rw [chainSize_cons]
  all_goals omega

end

def totalSize : List Expr → Nat
  | [] => 0
  | e :: rest => e.size + totalSize rest

def countWaiting (counted : Nat) : List Expr → Nat
  | [] => counted
  | atom _ :: rest => countWaiting (counted + 1) rest
  | group inner :: rest => countWaiting (counted + 1) (inner :: rest)
  | binary _ left right :: rest => countWaiting (counted + 1) (right :: left :: rest)
termination_by waiting => totalSize waiting
decreasing_by
  all_goals simp only [totalSize, size]
  all_goals omega

def nodeCount (e : Expr) : Nat := countWaiting 0 [e]

end DiceFormula.Expr
