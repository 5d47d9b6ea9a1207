import DiceFormula.Proofs.Roll.Containment
import DiceFormula.Proofs.Roll.Reckoning
import DiceFormula.Proofs.Roll.Effect
import Mathlib.Algebra.Ring.BooleanRing

namespace DiceFormula

variable {σ : Type} {options : TranscriptOptions}

variable [Supply σ]

def telling (options : TranscriptOptions) : Grading σ Unit where
  ready _ trace := ∃ recorder, trace.recorder = some recorder ∧ recorder.options = options
  allows _ _ _ := True
  allows_steps _ := trivial
  allows_add _ _ := trivial
  allows_stopped _ := trivial
  ready_first ready := ready
  ready_second ready does _ := by
    obtain ⟨recorder, kept, same⟩ := ready
    obtain ⟨later, told, extended⟩ := does.extended kept
    exact ⟨later, told, extended.options.trans same⟩

/-- Work of which an account is kept adds steps to the account and faces to the rolls. If it comes
    to a value, then the value, the steps and the faces fit together. -/
abbrev Rolling.Adds (options : TranscriptOptions) (good : α → List Step → List Int → Prop)
    (work : Rolling σ α) : Prop :=
  Has (telling options) ()
    (fun value effect => good value effect.steps (effect.draws.map Draw.face)) work

namespace Rolling.Adds

variable {good : α → List Step → List Int → Prop} {better : β → List Step → List Int → Prop}

theorem pure {value : α} (fits : good value [] []) :
    Adds options good (Pure.pure value : Rolling σ α) := Has.pure fits

theorem mono {good better : α → List Step → List Int → Prop} {work : Rolling σ α}
    (adds : Adds options good work)
    (weaker : ∀ value steps faces, good value steps faces → better value steps faces) :
    Adds options better work :=
  Has.mono adds fun value _ fits => weaker value _ _ fits

theorem bind {first : Rolling σ α} {next : α → Rolling σ β} (starts : Adds options good first)
    (goesOn : ∀ value steps faces, good value steps faces →
      Adds options (fun result more rest => better result (steps ++ more) (faces ++ rest))
        (next value)) :
    Adds options better (first >>= next) := by
  show Has (telling options) (() + ()) _ _
  refine starts.bind_effect fun value effect fits => ?_
  refine Has.mono (goesOn value _ _ fits) fun result other holds => ?_
  show better result (effect.steps ++ other.steps) ((effect.draws ++ other.draws).map Draw.face)
  rw [List.map_append]
  exact holds

theorem ofExcept_bind {result : Except RollFault α} {next : α → Rolling σ β}
    (goesOn : ∀ value, result = .ok value → Adds options better (next value)) :
    Adds options better (Rolling.ofExcept result >>= next) :=
  Has.ofExcept_bind (fun _ _ => trivial) goesOn

theorem silent_bind {first : Rolling σ α} {next : α → Rolling σ β}
    (starts : Adds options (fun _ steps faces => steps = [] ∧ faces = []) first)
    (goesOn : ∀ value, Adds options better (next value)) :
    Adds options better (first >>= next) := by
  refine starts.bind ?_
  rintro value _ _ ⟨rfl, rfl⟩
  exact goesOn value

theorem countNode : Adds options (fun _ steps faces => steps = [] ∧ faces = [])
    (modify (Trace.countNodes 1) : Rolling σ PUnit) := Has.countNodes trivial ⟨rfl, rfl⟩

theorem countReroll : Adds options (fun _ steps faces => steps = [] ∧ faces = [])
    (modify Trace.countReroll : Rolling σ PUnit) := Has.countReroll trivial ⟨rfl, rfl⟩

theorem tryNote {good : Unit → List Step → List Int → Prop}
    {record : Recorder → Except RollFault Recorder}
    (fits : ∀ recorder later : Recorder, recorder.options = options → record recorder = .ok later →
      ∃ steps, recorder.Extends later steps ∧ good () steps []) :
    Adds options good (Rolling.tryNote record : Rolling σ Unit) := by
  refine Has.tryNote (fun before ready silent => ?_) fun before recorder ready kept => ?_
  · obtain ⟨recorder, kept, _⟩ := ready
    cases kept.symm.trans silent
  · obtain ⟨other, told, same⟩ := ready
    cases kept.symm.trans told
    exact ⟨fun _ _ => trivial, fun later written => fits recorder later same written⟩

theorem note {good : Unit → List Step → List Int → Prop} {record : Recorder → Recorder}
    (fits : ∀ recorder : Recorder, recorder.options = options →
      ∃ steps, recorder.Extends (record recorder) steps ∧ good () steps []) :
    Adds options good (Rolling.note record : Rolling σ Unit) := by
  rw [note_eq_tryNote]
  refine tryNote fun recorder later same written => ?_
  cases written
  exact fits recorder same

end Rolling.Adds

open Rolling

def Aside (_ : Unit) (steps : List Step) (faces : List Int) : Prop :=
  termsOf steps = [] ∧ valuesOf steps = [] ∧ faces = []

theorem adds_noteGroup (value : Int) :
    Adds options Aside
      (Rolling.note fun recorder => recorder.noteGroup value : Rolling σ Unit) := by
  refine Adds.note fun recorder _ => ?_
  unfold Recorder.noteGroup
  split
  · exact ⟨_, recorder.extends_add _ _ _ _ _ _, rfl, rfl, rfl⟩
  · exact ⟨[], .refl recorder, rfl, rfl, rfl⟩

theorem adds_noteOperation (operator : Operator) (left right result : Int) :
    Adds options Aside
      (Rolling.noteOperation operator left right result : Rolling σ Unit) := by
  refine Adds.tryNote fun recorder later _ written => ?_
  unfold Recorder.noteOperation at written
  split at written
  · cases written
    exact ⟨_, recorder.extends_add _ _ _ _ _ _, rfl, rfl, rfl⟩
  · cases written

theorem adds_noteNode (e : Expr) (value : Int) :
    Adds options
      (fun _ steps faces =>
        termsOf steps = [] ∧ valuesOf steps = options.shown [(e, value)] ∧ faces = [])
      (Rolling.noteNode e value : Rolling σ Unit) := by
  refine Adds.tryNote fun recorder later same written => ?_
  unfold Recorder.noteNode at written
  rw [same] at written
  cases shown : options.includeIntermediateSteps with
  | false =>
    rw [if_neg (by simp [shown])] at written
    cases written
    refine ⟨[], .refl recorder, rfl, ?_, rfl⟩
    rw [TranscriptOptions.shown, if_neg (by simp [shown])]
    rfl
  | true =>
    rw [if_pos shown] at written
    obtain ⟨activity, _, added⟩ := ok_of_bind written
    cases added
    refine ⟨_, recorder.extends_add _ _ _ _ _ _, rfl, ?_, rfl⟩
    rw [TranscriptOptions.shown, if_pos shown]
    rfl

def OneTerm (kind : StepKind) (a : Atom) (rolls : List Int) (total : Int) (_ : Unit)
    (steps : List Step) (faces : List Int) : Prop :=
  valuesOf steps = [] ∧ faces = [] ∧
    ∃ details, termsOf steps = [⟨kind, some (Expr.atom a).render, rolls, total, details⟩]

theorem adds_noteTerm {kind : StepKind} {a : Atom} {rolls : List Int} {total : Int}
    {record : Recorder → Recorder} (term : kind.isTerm = true)
    (added : ∀ recorder : Recorder, ∃ description details,
      record recorder = recorder.add kind description total details (some rolls) (some (.atom a))) :
    Adds options (OneTerm kind a rolls total) (Rolling.note record : Rolling σ Unit) := by
  refine Adds.note fun recorder _ => ?_
  obtain ⟨description, details, record_eq⟩ := added recorder
  rw [record_eq]
  refine ⟨_, recorder.extends_add _ _ _ _ _ _, ?_⟩
  cases kind with
  | diceRoll => exact ⟨rfl, rfl, _, rfl⟩
  | conditional => exact ⟨rfl, rfl, _, rfl⟩
  | reroll => exact ⟨rfl, rfl, _, rfl⟩
  | _ => cases term

theorem adds_die (sides : Int) :
    Adds options (fun face steps faces => steps = [] ∧ faces = [face])
      (Rolling.die sides : Rolling σ Int) :=
  Has.die (fun _ _ _ _ _ => ⟨trivial, rfl, rfl⟩) fun _ _ _ _ _ => trivial

theorem adds_rollDice (sides : Int) (rolled : Array Int) (count : Nat) :
    Adds options
      (fun all steps faces =>
        steps = [] ∧ all.toList = rolled.toList ++ faces ∧ faces.length = count)
      (rollDice sides rolled count : Rolling σ (Array Int)) := by
  induction count generalizing rolled with
  | zero => exact .pure ⟨rfl, (List.append_nil _).symm, rfl⟩
  | succ count ih =>
    refine .bind (adds_die sides) ?_
    rintro face _ _ ⟨rfl, rfl⟩
    refine (ih (rolled.push face)).mono ?_
    rintro all _ faces ⟨rfl, all_eq, length⟩
    refine ⟨rfl, ?_, congrArg (· + 1) length⟩
    rw [all_eq, Array.toList_push, List.append_assoc]

theorem adds_reroll (limit sides : Int) (kind : RerollKind) (check : Check) (face worth : Int)
    (faces : Array Int) (allowance : Nat) (settled : kind.Settles faces.toList worth) :
    Adds options
      (fun die steps drawn => steps = [] ∧ die.faces.toList = faces.toList ++ drawn ∧
        kind.Settles die.faces.toList die.worth)
      (reroll limit sides kind check face worth faces allowance : Rolling σ Settled) := by
  induction allowance generalizing face worth faces with
  | zero =>
    rw [reroll]
    refine Adds.ofExcept_bind fun passes _ => ?_
    cases passes with
    | false => exact .pure ⟨rfl, (List.append_nil _).symm, settled⟩
    | true => exact .throw trivial
  | succ allowance ih =>
    rw [reroll]
    refine Adds.ofExcept_bind fun passes _ => ?_
    cases passes with
    | false => exact .pure ⟨rfl, (List.append_nil _).symm, settled⟩
    | true =>
      refine .bind (adds_die sides) ?_
      rintro next _ _ ⟨rfl, rfl⟩
      refine Adds.silent_bind .countReroll fun _ => ?_
      have pushed : kind.Settles (faces.push next).toList
          (if kind = .exploding then worth + next else next) := by
        rw [Array.toList_push]
        exact settled.push next
      dsimp only
      split
      · exact .pure ⟨rfl, Array.toList_push, pushed⟩
      · refine (ih next _ _ pushed).mono ?_
        rintro die _ drawn ⟨rfl, die_eq, ends⟩
        refine ⟨rfl, ?_, ends⟩
        rw [die_eq, Array.toList_push, List.append_assoc]

theorem adds_rollSettled (limit sides : Int) (kind : RerollKind) (check : Check) :
    Adds options
      (fun die steps drawn => steps = [] ∧ die.faces.toList = drawn ∧
        kind.Settles drawn die.worth)
      (rollSettled limit sides kind check : Rolling σ Settled) := by
  refine .bind (adds_die sides) ?_
  rintro face _ _ ⟨rfl, rfl⟩
  have single : kind.Settles #[face].toList face := by
    cases kind with
    | exploding => exact ⟨List.cons_ne_nil _ _, (List.sum_singleton).symm⟩
    | once => rfl
    | recursive => rfl
  refine (adds_reroll limit sides kind check face face #[face] limit.toNat single).mono ?_
  rintro die _ drawn ⟨rfl, die_eq, ends⟩
  exact ⟨rfl, die_eq, die_eq ▸ ends⟩

theorem adds_rollGroup (limit sides : Int) (kind : RerollKind) (check : Check)
    (group : SettledGroup) (count : Nat) :
    Adds options
      (fun all steps drawn => steps = [] ∧ ∃ runs worths,
        all.worths.toList = group.worths.toList ++ worths ∧ worths.length = count ∧
          drawn = runs.flatten ∧ List.Forall₂ kind.Settles runs worths)
      (rollGroup limit sides kind check group count : Rolling σ SettledGroup) := by
  induction count generalizing group with
  | zero => exact .pure ⟨rfl, [], [], (List.append_nil _).symm, rfl, rfl, .nil⟩
  | succ count ih =>
    refine .bind (adds_rollSettled limit sides kind check) ?_
    rintro die _ run ⟨rfl, _, settled⟩
    refine (ih (group.add die)).mono ?_
    rintro all _ _ ⟨rfl, runs, worths, all_eq, length, rfl, ends⟩
    refine ⟨rfl, run :: runs, die.worth :: worths, ?_, congrArg (· + 1) length, rfl,
      .cons settled ends⟩
    rw [all_eq, SettledGroup.add, Array.toList_push, List.append_assoc]
    rfl

structure Atom.Told (a : Atom) (value : Int) (steps : List Step) (faces : List Int) : Prop where
  reckons : (Expr.atom a).Reckons ((termsOf steps).map Term.subtotal) [(.atom a, value)] value
  values : valuesOf steps = []
  dice : (∀ pool ∈ (Expr.atom a).pools, 0 ≤ pool.count) →
    Accounts (Expr.atom a).dice (termsOf steps) faces

theorem Atom.Told.of_oneTerm {a : Atom} {pool : Pool} {kind : StepKind}
    {rolls faces drawn : List Int} {total : Int} {steps : List Step} (has : a.pool? = some pool)
    (one : OneTerm kind a rolls total () steps drawn)
    (accounted : 0 ≤ pool.count → ∀ details,
      a.Accounted ⟨kind, some (Expr.atom a).render, rolls, total, details⟩ faces) :
    a.Told total steps (faces ++ drawn) := by
  obtain ⟨quiet, rfl, details, told⟩ := one
  have rolled : a.pool?.isSome = true := by rw [has]; rfl
  refine ⟨?_, quiet, fun natural => ?_⟩
  · rw [told]
    exact .dice rolled total
  · rw [told, Expr.dice_atom rolled]
    exact .cons (accounted (natural pool (Expr.mem_pools_atom has)) details) .nil

theorem adds_atom (limit : Int) (a : Atom) :
    Adds options a.Told (a.roll limit : Rolling σ Int) := by
  cases a with
  | number value => exact .pure ⟨.number value, rfl, fun _ => .nil⟩
  | dice pool =>
    refine .bind (adds_rollDice pool.sides #[] _) ?_
    rintro all _ faces ⟨rfl, rfl, length⟩
    refine .bind (adds_noteTerm rfl fun _ => ⟨_, _, rfl⟩) fun _ steps drawn one => .pure ?_
    rw [List.append_nil, List.append_nil]
    refine .of_oneTerm rfl one fun natural _ => ⟨rfl, rfl, ?_, sumOf_eq_sum _, rfl⟩
    rw [length, Int.toNat_of_nonneg natural]
  | conditional pool check =>
    refine .bind (adds_rollDice pool.sides #[] _) ?_
    rintro all _ faces ⟨rfl, rfl, length⟩
    refine Adds.ofExcept_bind fun successes counted => ?_
    refine .bind (adds_noteTerm rfl fun _ => ⟨_, _, rfl⟩) fun _ steps drawn one => .pure ?_
    rw [List.append_nil, List.append_nil]
    refine .of_oneTerm rfl one fun natural _ => ⟨rfl, rfl, ?_, ?_, rfl⟩
    · rw [length, Int.toNat_of_nonneg natural]
    · have total := countPassing_eq counted
      rw [Nat.zero_add] at total
      exact congrArg Nat.cast total
  | reroll pool kind check =>
    refine .bind (adds_rollGroup limit pool.sides kind check {} _) ?_
    rintro all _ _ ⟨rfl, runs, worths, rfl, length, rfl, settled⟩
    refine .bind (adds_noteTerm rfl fun _ => ⟨_, _, rfl⟩) fun _ steps drawn one => .pure ?_
    rw [List.append_nil, List.append_nil]
    refine .of_oneTerm rfl one fun natural _ =>
      ⟨rfl, rfl, ?_, sumOf_eq_sum _, runs, rfl, settled⟩
    rw [length, Int.toNat_of_nonneg natural]

/-- The steps and the faces of an evaluation of the formula, and the value that it came to. -/
structure Expr.Told (options : TranscriptOptions) (e : Expr) (value : Int) (steps : List Step)
    (faces : List Int) : Prop where
  values : ∃ values, e.Reckons ((termsOf steps).map Term.subtotal) values value ∧
    valuesOf steps = options.shown values
  dice : (∀ pool ∈ e.pools, 0 ≤ pool.count) → Accounts e.dice (termsOf steps) faces

theorem adds_roll (limit : Int) (e : Expr) :
    Adds options (e.Told options) (e.roll limit : Rolling σ Int) := by
  induction e with
  | atom a =>
    rw [Expr.roll]
    refine Adds.silent_bind .countNode fun _ => .bind (adds_atom limit a) ?_
    intro value steps faces told
    refine .bind (adds_noteNode (.atom a) value) ?_
    rintro _ after _ ⟨quiet, shown, rfl⟩
    refine .pure ⟨⟨[(.atom a, value)], ?_, ?_⟩, fun natural => ?_⟩
    · simpa [quiet] using told.reckons
    · simpa [shown] using told.values
    · simpa [quiet] using told.dice natural
  | group inner ih =>
    rw [Expr.roll]
    refine Adds.silent_bind .countNode fun _ => .bind ih ?_
    intro value steps faces told
    refine .bind (adds_noteGroup value) ?_
    rintro _ aside _ ⟨quiet, silent, rfl⟩
    refine .bind (adds_noteNode (.group inner) value) ?_
    rintro _ after _ ⟨unheard, shown, rfl⟩
    obtain ⟨values, reckons, listed⟩ := told.values
    refine .pure ⟨⟨values ++ [(.group inner, value)], ?_, ?_⟩, fun natural => ?_⟩
    · simpa [quiet, unheard] using reckons.group
    · simp [silent, listed, shown, options.shown_append]
    · simpa [Expr.dice_group, quiet, unheard] using told.dice natural
  | binary operator left right leftIh rightIh =>
    rw [Expr.roll_binary]
    refine Adds.silent_bind .countNode fun _ => .bind leftIh ?_
    intro leftValue leftSteps leftFaces leftTold
    refine .bind rightIh fun rightValue rightSteps rightFaces rightTold => ?_
    refine Adds.ofExcept_bind fun value applied => ?_
    refine .bind (adds_noteOperation _ _ _ _) ?_
    rintro _ aside _ ⟨quiet, silent, rfl⟩
    refine .bind (adds_noteNode _ _) ?_
    rintro _ after _ ⟨unheard, shown, rfl⟩
    obtain ⟨leftValues, leftReckons, leftListed⟩ := leftTold.values
    obtain ⟨rightValues, rightReckons, rightListed⟩ := rightTold.values
    refine .pure ⟨⟨leftValues ++ rightValues ++ [(.binary operator left right, value)], ?_, ?_⟩,
      fun natural => ?_⟩
    · simpa [quiet, unheard] using leftReckons.binary rightReckons applied
    · simp [leftListed, rightListed, silent, shown, options.shown_append]
    · rw [Expr.pools_binary, List.forall_mem_append] at natural
      have both := (leftTold.dice natural.1).append (rightTold.dice natural.2)
      simpa [Expr.dice_binary, quiet, unheard] using both

theorem evaluate_told {e : Expr} {limit value : Int} {trace : Trace σ} {recorder : Recorder}
    (kept : trace.recorder = some recorder) (done : (e.evaluate limit trace).1 = .ok value) :
    ∃ later steps, (e.evaluate limit trace).2.recorder = some later ∧
      recorder.Extends later steps ∧
      e.Told recorder.options value steps (e.evaluate limit trace).2.rolls.toList := by
  obtain ⟨effect, does, _, told⟩ := adds_roll limit e trace.restart ⟨recorder, kept, rfl⟩
  obtain ⟨later, goes, extended⟩ := does.extended kept
  have fresh : (e.evaluate limit trace).2.rolls.toList = effect.draws.map Draw.face := does.rolls
  exact ⟨later, effect.steps, goes, extended, fresh ▸ told value done⟩

end DiceFormula
