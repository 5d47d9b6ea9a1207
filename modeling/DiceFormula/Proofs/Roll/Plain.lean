import DiceFormula.Proofs.Roll.Account

namespace DiceFormula

variable {σ : Type} [Supply σ]

namespace Expr

/-- Counts a node, evaluates it and describes it, by plain recursion on the tree. -/
def rollPlainly (limit : Int) : Expr → Rolling σ Int
  | atom a => do
    modify (Trace.countNodes 1)
    let value ← a.roll limit
    Rolling.noteNode (atom a) value
    return value
  | group inner => do
    modify (Trace.countNodes 1)
    let value ← inner.rollPlainly limit
    Rolling.note fun recorder => recorder.noteGroup value
    Rolling.noteNode (group inner) value
    return value
  | binary operator left right => do
    modify (Trace.countNodes 1)
    let leftValue ← left.rollPlainly limit
    let rightValue ← right.rollPlainly limit
    let value ← Rolling.ofExcept (operator.apply leftValue rightValue)
    Rolling.noteOperation operator leftValue rightValue value
    Rolling.noteNode (binary operator left right) value
    return value

def evaluatePlainly (limit : Int) (e : Expr) (trace : Trace σ) :
    Except RollFault Int × Trace σ :=
  (e.rollPlainly limit).run trace.restart

theorem roll_eq_rollPlainly (limit : Int) (e : Expr) :
    (e.roll limit : Rolling σ Int) = e.rollPlainly limit := by
  induction e with
  | atom a => rw [roll, rollPlainly]
  | group inner ih => rw [roll, rollPlainly, ih]
  | binary operator left right leftIh rightIh => rw [roll_binary, rollPlainly, leftIh, rightIh]

def postorder : Expr → List Expr
  | atom a => [atom a]
  | group inner => inner.postorder ++ [group inner]
  | binary operator left right => left.postorder ++ right.postorder ++ [binary operator left right]

theorem Reckons.map_fst {e : Expr} {totals : List Int} {values : List (Expr × Int)} {value : Int}
    (reckons : e.Reckons totals values value) : values.map Prod.fst = e.postorder := by
  induction reckons with
  | number _ => rfl
  | dice _ _ => rfl
  | group _ ih => rw [List.map_append, ih, postorder]; rfl
  | binary _ _ _ leftIh rightIh =>
    rw [List.map_append, List.map_append, leftIh, rightIh, postorder]
    rfl

/-- The walk along the chains ends in every way as plain recursion does. Where the steps of nodes
    are kept, a successful evaluation adds one for each node, in postorder and with the node's
    value: that of dice is the total they rolled, and that of an operation comes from its
    operands. -/
theorem evaluate_eq_plainly_in_postorder (limit : Int) (e : Expr) (trace : Trace σ) :
    e.evaluate limit trace = e.evaluatePlainly limit trace ∧
      ∀ recorder value, trace.recorder = some recorder →
        recorder.options.includeIntermediateSteps = true →
        (e.evaluate limit trace).1 = .ok value →
        ∃ later steps values, (e.evaluate limit trace).2.recorder = some later ∧
          later.steps.toList = recorder.steps.toList ++ steps ∧
          valuesOf steps = values.map (fun (node, value) => (some node, value)) ∧
          values.map Prod.fst = e.postorder ∧
          e.Reckons ((termsOf steps).map Term.subtotal) values value := by
  constructor
  · rw [evaluate, evaluatePlainly, roll_eq_rollPlainly]
  · intro recorder value kept wanted done
    obtain ⟨later, steps, goes, extended, told⟩ := evaluate_told kept done
    obtain ⟨values, reckons, listed⟩ := told.values
    rw [TranscriptOptions.shown, if_pos wanted] at listed
    exact ⟨later, steps, values, goes, extended.steps, listed, reckons.map_fst, reckons⟩

theorem evaluate_in_postorder_to_the_right :
    let three : Expr := .atom (.number 3)
    let seven : Expr := .atom (.number 7)
    let die : Expr := .atom (.dice ⟨1, 2⟩)
    let difference : Expr := .binary .subtract seven die
    let product : Expr := .binary .multiply three difference
    let recorder : Recorder := ⟨"", {}, #[], [], "", none⟩
    let trace : Trace Source := { supply := .twosThenOnes 1 0, recorder := some recorder }
    (product.evaluate 0 trace).1 = .ok 15 ∧
      ∃ later values, (product.evaluate 0 trace).2.recorder = some later ∧
        valuesOf later.steps.toList = values.map (fun (node, value) => (some node, value)) ∧
        values.map Prod.fst = [three, seven, die, difference, product] ∧
        product.Reckons ((termsOf later.steps.toList).map Term.subtotal) values 15 := by
  intro three seven die difference product recorder trace
  have done : (product.evaluate 0 trace).1 = .ok 15 := by decide +kernel
  obtain ⟨later, steps, values, goes, added, listed, ordered, reckons⟩ :=
    (evaluate_eq_plainly_in_postorder 0 product trace).2 recorder 15 rfl rfl done
  have all : later.steps.toList = steps := added
  exact ⟨done, later, values, goes, all ▸ listed, ordered, all ▸ reckons⟩

end Expr

end DiceFormula
