import DiceFormula.Expr.Basic
import DiceFormula.Expr.Bounds

namespace DiceFormula.Expr

theorem chainBounds_unwind (multiplier : Int) (e : Expr) (links : List Link) :
    ((unwind e links).1.bounds multiplier >>= fun first =>
      chainBounds multiplier first (unwind e links).2) =
    (e.bounds multiplier >>= fun left => chainBounds multiplier left links) := by
  induction e generalizing links with
  | atom a => rfl
  | group inner _ => rfl
  | binary operator left right leftIh _ =>
    have whole := leftIh [⟨operator, left, right⟩]
    have longer := leftIh (⟨operator, left, right⟩ :: links)
    rw [unwind, longer, bounds, spine, unwind, whole, bind_assoc]
    simp only [chainBounds, bind_assoc]
    rfl

theorem bounds_binary (multiplier : Int) (operator : Operator) (left right : Expr) :
    (binary operator left right).bounds multiplier = (do
      let leftBounds ← left.bounds multiplier
      let rightBounds ← right.bounds multiplier
      Bounds.combine operator leftBounds rightBounds) := by
  rw [bounds, spine, unwind, chainBounds_unwind]
  simp only [chainBounds]
  congr 1
  funext leftBounds
  congr 1
  funext rightBounds
  exact bind_pure _

theorem renderChain_unwind (e : Expr) (links : List Link) :
    renderChain (unwind e links).1.render (unwind e links).2 = renderChain e.render links := by
  induction e generalizing links with
  | atom a => rfl
  | group inner _ => rfl
  | binary operator left right leftIh _ =>
    have whole := leftIh [⟨operator, left, right⟩]
    rw [unwind, leftIh, render, spine, unwind, whole]
    simp only [renderChain]

theorem render_binary (operator : Operator) (left right : Expr) :
    (binary operator left right).render =
      left.render ++ " " ++ operator.symbol ++ " " ++ right.render := by
  rw [render, spine, unwind, renderChain_unwind]
  simp only [renderChain]

theorem countWaiting_eq (counted : Nat) (waiting : List Expr) :
    countWaiting counted waiting = counted + totalSize waiting := by
  fun_induction countWaiting counted waiting with
  | case1 => rfl
  | case2 counted a rest ih => rw [ih, totalSize, size, Nat.add_assoc]
  | case3 counted inner rest ih =>
    rw [ih]
    simp only [totalSize, size]
    omega
  | case4 counted operator left right rest ih =>
    rw [ih]
    simp only [totalSize, size]
    omega

theorem nodeCount_eq_size (e : Expr) : e.nodeCount = e.size := by
  rw [nodeCount, countWaiting_eq, Nat.zero_add]
  rfl

end DiceFormula.Expr
