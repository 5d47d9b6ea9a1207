import DiceFormula.Proofs.Expr.Canonical
import DiceFormula.Proofs.Expr.Recursion
import Mathlib.Algebra.Order.Ring.Int
import Mathlib.Data.List.Chain

namespace DiceFormula.Expr

/-- The operations down the left side of a tree, in the order in which they are carried out: the
    first starts at the operand, each stands on the left of the next, and the last is the tree. -/
structure Unwinds (e first : Expr) (links : List Link) : Prop where
  operand : first.isBinary = false
  nonempty : links ≠ []
  starts : ∀ link, links.head? = some link → link.left = first
  linked : links.IsChain fun link next => next.left = link.expr
  ends : ∀ link, links.getLast? = some link → link.expr = e

variable {e first : Expr} {links : List Link}

theorem unwind_of_operand (operand : first.isBinary = false) (links : List Link) :
    unwind first links = (first, links) := by
  cases first with
  | atom a => rfl
  | group inner => rfl
  | binary operator left right => cases operand

theorem unwind_linked (starts : ∀ link, links.head? = some link → link.left = e)
    (linked : links.IsChain fun link next => next.left = link.expr) :
    (unwind e links).1.isBinary = false ∧
      (∀ link, (unwind e links).2.head? = some link → link.left = (unwind e links).1) ∧
      (unwind e links).2.IsChain fun link next => next.left = link.expr := by
  induction e generalizing links with
  | atom a => exact ⟨rfl, starts, linked⟩
  | group inner _ => exact ⟨rfl, starts, linked⟩
  | binary operator left right leftIh _ =>
    apply leftIh
    · intro link first
      cases first
      rfl
    · exact List.isChain_cons.mpr ⟨fun next member => starts next member, linked⟩

theorem getLast?_unwind (e : Expr) (nonempty : links ≠ []) :
    (unwind e links).2.getLast? = links.getLast? := by
  induction e generalizing links with
  | atom a => rfl
  | group inner _ => rfl
  | binary operator left right leftIh _ =>
    obtain ⟨link, rest, rfl⟩ := List.exists_cons_of_ne_nil nonempty
    rw [unwind, leftIh (List.cons_ne_nil _ _), List.getLast?_cons_cons]

theorem unwinds_spine (operator : Operator) (left right : Expr) :
    Unwinds (binary operator left right) (binary operator left right).spine.1
      (binary operator left right).spine.2 := by
  have single : ∀ link : Link, [⟨operator, left, right⟩].head? = some link → link.left = left := by
    intro link first
    cases first
    rfl
  obtain ⟨operand, starts, linked⟩ := unwind_linked single (List.isChain_singleton _)
  refine ⟨operand, spine_binary_ne_nil operator left right, starts, linked, ?_⟩
  intro link last
  rw [spine, unwind, getLast?_unwind left (List.cons_ne_nil _ _)] at last
  cases last
  rfl

theorem unwind_expr (link : Link) (links : List Link) :
    unwind link.expr links = unwind link.left (link :: links) := rfl

theorem unwind_of_linked (nonempty : links ≠ [])
    (starts : ∀ link, links.head? = some link → link.left = first)
    (linked : links.IsChain fun link next => next.left = link.expr)
    (ends : ∀ link, links.getLast? = some link → link.expr = e) (rest : List Link) :
    unwind e rest = unwind first (links ++ rest) := by
  induction links generalizing first with
  | nil => exact absurd rfl nonempty
  | cons link more ih =>
    have left : link.left = first := starts link rfl
    cases more with
    | nil =>
      have whole : link.expr = e := ends link rfl
      rw [← whole, unwind_expr, left, List.singleton_append]
    | cons next later =>
      obtain ⟨meets, linked⟩ := List.isChain_cons_cons.mp linked
      have again : ∀ link', (next :: later).head? = some link' → link'.left = link.expr := by
        intro other first
        cases first
        exact meets
      rw [ih (List.cons_ne_nil _ _) again linked ends, unwind_expr, left]
      rfl

theorem spine_eq_iff (operator : Operator) (left right first : Expr) (links : List Link) :
    (binary operator left right).spine = (first, links) ↔
      Unwinds (binary operator left right) first links := by
  constructor
  · intro same
    have unwinds := unwinds_spine operator left right
    rwa [same] at unwinds
  · intro unwinds
    rw [spine, unwind_of_linked unwinds.nonempty unwinds.starts unwinds.linked unwinds.ends,
      List.append_nil, unwind_of_operand unwinds.operand]

def renderPlainly : Expr → String
  | atom a => a.render
  | group inner => "(" ++ inner.renderPlainly ++ ")"
  | binary operator left right =>
    left.renderPlainly ++ " " ++ operator.symbol ++ " " ++ right.renderPlainly

def boundsPlainly (multiplier : Int) : Expr → Except RollFault Bounds
  | atom a => .ok (a.bounds multiplier)
  | group inner => inner.boundsPlainly multiplier
  | binary operator left right => do
    let leftBounds ← left.boundsPlainly multiplier
    let rightBounds ← right.boundsPlainly multiplier
    Bounds.combine operator leftBounds rightBounds

def children : Expr → List Expr
  | atom _ => []
  | group inner => [inner]
  | binary _ left right => [left, right]

theorem render_eq_renderPlainly (e : Expr) : e.render = e.renderPlainly := by
  induction e with
  | atom a => rw [render, renderPlainly]
  | group inner ih => rw [render, renderPlainly, ih]
  | binary operator left right leftIh rightIh =>
    rw [render_binary, renderPlainly, leftIh, rightIh]

theorem bounds_eq_boundsPlainly (multiplier : Int) (e : Expr) :
    e.bounds multiplier = e.boundsPlainly multiplier := by
  induction e with
  | atom a => rw [bounds, boundsPlainly]
  | group inner ih => rw [bounds, boundsPlainly, ih]
  | binary operator left right leftIh rightIh =>
    rw [bounds_binary, boundsPlainly, leftIh, rightIh]

theorem nodeCount_eq_children (e : Expr) :
    e.nodeCount = 1 + (e.children.map nodeCount).sum := by
  cases e with
  | atom a =>
    rw [nodeCount_eq_size]
    rfl
  | group inner =>
    simp only [children, List.map_cons, List.map_nil, List.sum_cons, List.sum_nil,
      nodeCount_eq_size, size]
    omega
  | binary operator left right =>
    simp only [children, List.map_cons, List.map_nil, List.sum_cons, List.sum_nil,
      nodeCount_eq_size, size]
    omega

/-- A tree with an operation at its top has one spine, and the walks along spines end as plain
    recursion over the tree does, in its first fault as in its result. The nodes that wait to be
    counted are each counted once. -/
theorem walks_eq_recursion :
    (∀ operator left right first links, (binary operator left right).spine = (first, links) ↔
      Unwinds (binary operator left right) first links) ∧
    (∀ e : Expr, e.render = e.renderPlainly) ∧
    (∀ multiplier (e : Expr), e.bounds multiplier = e.boundsPlainly multiplier) ∧
    ∀ e : Expr, e.nodeCount = 1 + (e.children.map nodeCount).sum :=
  ⟨spine_eq_iff, render_eq_renderPlainly, bounds_eq_boundsPlainly, nodeCount_eq_children⟩

end DiceFormula.Expr
