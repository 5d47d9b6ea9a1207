import DiceFormula.Roll.Evaluate

namespace DiceFormula

variable {σ : Type}

namespace Rolling

theorem countNodes_add (m n : Nat) (next : Rolling σ α) :
    (do modify (Trace.countNodes m); modify (Trace.countNodes n); next) =
      (do modify (Trace.countNodes (m + n)); next : Rolling σ α) := by
  funext trace
  show next.run _ = next.run _
  simp [Trace.countNodes, Nat.add_assoc]

theorem countNodes_zero (next : Rolling σ α) :
    (do modify (Trace.countNodes 0); next) = next := rfl

end Rolling

variable [Supply σ]

namespace Expr

theorem roll_binary_of_unwind {limit : Int} {operator : Operator} {left right : Expr}
    (unwound : (do
        modify (Trace.countNodes ((unwind left [⟨operator, left, right⟩]).2.length - 1))
        let first ← (unwind left [⟨operator, left, right⟩]).1.roll limit
        rollChain limit first (unwind left [⟨operator, left, right⟩]).2 : Rolling σ Int) =
      (do
        let leftValue ← left.roll limit
        rollChain limit leftValue [⟨operator, left, right⟩])) :
    ((binary operator left right).roll limit : Rolling σ Int) = (do
      modify (Trace.countNodes 1)
      let leftValue ← left.roll limit
      let rightValue ← right.roll limit
      let value ← Rolling.ofExcept (operator.apply leftValue rightValue)
      Rolling.noteOperation operator leftValue rightValue value
      Rolling.noteNode (binary operator left right) value
      return value) := by
  have noted := congrArg (fun work : Rolling σ Int => do
    let value ← work
    Rolling.noteNode (binary operator left right) value
    return value) unwound
  simp only [bind_assoc, rollChain, List.isEmpty_nil, ↓reduceIte, pure_bind] at noted
  rw [roll, spine, unwind, noted]

/-- The nodes of a chain are all counted first, and so they are when each side counts its own. -/
theorem rollChain_unwind (limit : Int) (e : Expr) (links : List Link) (nonempty : links ≠ []) :
    (do
      modify (Trace.countNodes ((unwind e links).2.length - links.length))
      let first ← (unwind e links).1.roll limit
      rollChain limit first (unwind e links).2 : Rolling σ Int) =
    (do
      let value ← e.roll limit
      rollChain limit value links) := by
  -- Going down the left side moves one operation after the other from the tree to the links.
  induction e generalizing links with
  | atom a => simp only [unwind, Nat.sub_self, Rolling.countNodes_zero]
  | group inner _ => simp only [unwind, Nat.sub_self, Rolling.countNodes_zero]
  | binary operator left right leftIh _ =>
    have whole := roll_binary_of_unwind (leftIh [⟨operator, left, right⟩] (List.cons_ne_nil _ _))
    have longer := leftIh (⟨operator, left, right⟩ :: links) (List.cons_ne_nil _ _)
    have deeper := length_le_unwind left (⟨operator, left, right⟩ :: links)
    have total : (unwind left (⟨operator, left, right⟩ :: links)).2.length - links.length =
        1 + ((unwind left (⟨operator, left, right⟩ :: links)).2.length -
          (⟨operator, left, right⟩ :: links : List Link).length) := by
      simp only [List.length_cons] at deeper ⊢
      omega
    have more : links.isEmpty = false := by simpa using nonempty
    rw [unwind, total, ← Rolling.countNodes_add, longer, whole]
    simp only [rollChain, more, Link.expr, bind_assoc, pure_bind, Bool.false_eq_true, ↓reduceIte]

theorem roll_binary (limit : Int) (operator : Operator) (left right : Expr) :
    ((binary operator left right).roll limit : Rolling σ Int) = (do
      modify (Trace.countNodes 1)
      let leftValue ← left.roll limit
      let rightValue ← right.roll limit
      let value ← Rolling.ofExcept (operator.apply leftValue rightValue)
      Rolling.noteOperation operator leftValue rightValue value
      Rolling.noteNode (binary operator left right) value
      return value) :=
  roll_binary_of_unwind
    (rollChain_unwind limit left [⟨operator, left, right⟩] (List.cons_ne_nil _ _))

end Expr

end DiceFormula
