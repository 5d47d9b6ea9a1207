import DiceFormula.Proofs.Expr.Parts
import DiceFormula.Proofs.Run
import DiceFormula.Roller.Evaluate
import Mathlib.Algebra.Order.Ring.Int

namespace DiceFormula

def termsOf (steps : List Step) : List Term := (steps.filter (·.kind.isTerm)).map Step.term

def valuesOf (steps : List Step) : List (Option Expr × Int) :=
  (steps.filter (·.kind = .evaluation)).map fun step => (step.expr, step.value)

def TranscriptOptions.shown (options : TranscriptOptions) (values : List (Expr × Int)) :
    List (Option Expr × Int) :=
  if options.includeIntermediateSteps then values.map fun (e, value) => (some e, value) else []

@[simp]
theorem termsOf_append (early late : List Step) :
    termsOf (early ++ late) = termsOf early ++ termsOf late := by
  simp [termsOf]

@[simp]
theorem valuesOf_append (early late : List Step) :
    valuesOf (early ++ late) = valuesOf early ++ valuesOf late := by
  simp [valuesOf]

theorem TranscriptOptions.shown_append (options : TranscriptOptions)
    (early late : List (Expr × Int)) :
    options.shown (early ++ late) = options.shown early ++ options.shown late := by
  unfold shown
  split
  · exact List.map_append
  · rfl

namespace Expr

def dice (e : Expr) : List Atom := e.atoms.filter (·.pool?.isSome)

theorem dice_atom {a : Atom} (rolls : a.pool?.isSome) : (atom a).dice = [a] :=
  List.filter_cons_of_pos rolls

theorem dice_group (inner : Expr) : (group inner).dice = inner.dice := rfl

theorem dice_binary (operator : Operator) (left right : Expr) :
    (binary operator left right).dice = left.dice ++ right.dice := List.filter_append _ _

/-- With these totals in the place of its dice, from left to right, a formula comes to this value.
    The values of its nodes are listed as well, those of operands before that of the whole. -/
inductive Reckons : Expr → List Int → List (Expr × Int) → Int → Prop
  | number (value : Int) :
      Reckons (atom (.number value)) [] [(atom (.number value), value)] value
  | dice {a : Atom} (rolls : a.pool?.isSome) (total : Int) :
      Reckons (atom a) [total] [(atom a, total)] total
  | group {inner : Expr} {totals : List Int} {values : List (Expr × Int)} {value : Int}
      (within : Reckons inner totals values value) :
      Reckons (group inner) totals (values ++ [(group inner, value)]) value
  | binary {operator : Operator} {left right : Expr} {leftTotals rightTotals : List Int}
      {leftValues rightValues : List (Expr × Int)} {leftValue rightValue value : Int}
      (first : Reckons left leftTotals leftValues leftValue)
      (second : Reckons right rightTotals rightValues rightValue)
      (applied : operator.apply leftValue rightValue = .ok value) :
      Reckons (binary operator left right) (leftTotals ++ rightTotals)
        (leftValues ++ rightValues ++ [(binary operator left right, value)]) value

variable {e : Expr} {totals : List Int} {values others : List (Expr × Int)} {value other : Int}

theorem Reckons.length_totals (reckons : e.Reckons totals values value) :
    totals.length = e.dice.length := by
  induction reckons with
  | number _ => rfl
  | dice rolls _ => rw [dice_atom rolls]; rfl
  | group _ ih => exact ih
  | binary _ _ _ leftIh rightIh =>
    rw [dice_binary, List.length_append, List.length_append, leftIh, rightIh]

theorem Reckons.unique (one : e.Reckons totals values value)
    (two : e.Reckons totals others other) : values = others ∧ value = other := by
  induction one generalizing others other with
  | number _ =>
    cases two with
    | number _ => exact ⟨rfl, rfl⟩
  | dice _ _ =>
    cases two with
    | dice _ _ => exact ⟨rfl, rfl⟩
  | group _ ih =>
    cases two with
    | group again =>
      obtain ⟨rfl, rfl⟩ := ih again
      exact ⟨rfl, rfl⟩
  | @binary _ _ _ leftTotals rightTotals _ _ _ _ _ first _ applied leftIh rightIh =>
    -- Each side has as many dice as before, and so it gets the same totals.
    generalize joined : leftTotals ++ rightTotals = totals at two
    cases two with
    | binary firstAgain secondAgain again =>
      obtain ⟨rfl, rfl⟩ := List.append_inj joined
        (first.length_totals.trans firstAgain.length_totals.symm)
      obtain ⟨rfl, rfl⟩ := leftIh firstAgain
      obtain ⟨rfl, rfl⟩ := rightIh secondAgain
      cases applied.symm.trans again
      exact ⟨rfl, rfl⟩

end Expr

def Check.passes (check : Check) (face : Int) : Bool :=
  match check.holds face with
  | .ok passes => passes
  | .error _ => false

/-- What a die that showed these faces, one after the other, is worth in the end. -/
def RerollKind.Settles : RerollKind → List Int → Int → Prop
  | exploding, run, worth => run ≠ [] ∧ worth = run.sum
  | once, run, worth => run.getLast? = some worth
  | recursive, run, worth => run.getLast? = some worth

/-- The term tells of the dice what they were, what each of them came to and what they come to
    together; and the faces are those that were drawn for it. -/
def Atom.Accounted : Atom → Term → List Int → Prop
  | number _, _, _ => False
  | dice pool, term, faces =>
    term.kind = .diceRoll ∧ term.written = some (Expr.atom (dice pool)).render ∧
      term.rolls.length = pool.count ∧ term.subtotal = term.rolls.sum ∧ faces = term.rolls
  | conditional pool check, term, faces =>
    term.kind = .conditional ∧ term.written = some (Expr.atom (conditional pool check)).render ∧
      term.rolls.length = pool.count ∧ term.subtotal = term.rolls.countP check.passes ∧
      faces = term.rolls
  | reroll pool kind check, term, faces =>
    term.kind = .reroll ∧ term.written = some (Expr.atom (reroll pool kind check)).render ∧
      term.rolls.length = pool.count ∧ term.subtotal = term.rolls.sum ∧
      ∃ runs, faces = runs.flatten ∧ List.Forall₂ kind.Settles runs term.rolls

/-- One term for each of the dice, in order, and the faces cut up among them. -/
inductive Accounts : List Atom → List Term → List Int → Prop
  | nil : Accounts [] [] []
  | cons {a : Atom} {dice : List Atom} {term : Term} {terms : List Term} {faces rest : List Int}
      (first : a.Accounted term faces) (others : Accounts dice terms rest) :
      Accounts (a :: dice) (term :: terms) (faces ++ rest)

theorem Accounts.append {early late : List Atom} {before after : List Term}
    {faces rest : List Int} (first : Accounts early before faces)
    (second : Accounts late after rest) :
    Accounts (early ++ late) (before ++ after) (faces ++ rest) := by
  induction first with
  | nil => exact second
  | cons head _ ih =>
    rw [List.append_assoc]
    exact .cons head ih

theorem countPassing_eq {check : Check} {passed total : Nat} {faces : List Int}
    (counted : countPassing check passed faces = .ok total) :
    total = passed + faces.countP check.passes := by
  induction faces generalizing passed with
  | nil =>
    cases counted
    rfl
  | cons face rest ih =>
    obtain ⟨passes, held, counted⟩ := ok_of_bind counted
    have face_passes : check.passes face = passes := by rw [Check.passes, held]
    rw [ih counted, List.countP_cons, face_passes]
    cases passes with
    | false => rfl
    | true => simp only [↓reduceIte]; omega

theorem RerollKind.Settles.push {kind : RerollKind} {run : List Int} {worth : Int}
    (settled : kind.Settles run worth) (next : Int) :
    kind.Settles (run ++ [next]) (if kind = .exploding then worth + next else next) := by
  cases kind with
  | exploding =>
    obtain ⟨_, rfl⟩ := settled
    refine ⟨List.append_ne_nil_of_right_ne_nil _ (List.cons_ne_nil _ _), ?_⟩
    rw [List.sum_append, List.sum_singleton, if_pos rfl]
  | once => exact List.getLast?_concat
  | recursive => exact List.getLast?_concat

end DiceFormula
