import DiceFormula.Proofs.Roll.Falling
import DiceFormula.Proofs.Roll.Simulation
import Mathlib.Algebra.Group.Defs

namespace DiceFormula

structure Recorder.Extends (recorder later : Recorder) (steps : List Step) : Prop where
  options : later.options = recorder.options
  steps : later.steps.toList = recorder.steps.toList ++ steps

theorem Recorder.Extends.refl (recorder : Recorder) : recorder.Extends recorder [] :=
  ⟨rfl, (List.append_nil _).symm⟩

theorem Recorder.Extends.trans {recorder later last : Recorder} {steps more : List Step}
    (first : recorder.Extends later steps) (second : later.Extends last more) :
    recorder.Extends last (steps ++ more) := by
  refine ⟨second.options.trans first.options, ?_⟩
  rw [second.steps, first.steps, List.append_assoc]

theorem Recorder.extends_add (recorder : Recorder) (kind : StepKind) (description : String)
    (value : Int) (details : Option String) (rolls : Option (List Int)) (expr : Option Expr) :
    recorder.Extends (recorder.add kind description value details rolls expr)
      [⟨recorder.steps.size + 1, kind, description, value, details, rolls, expr⟩] :=
  ⟨rfl, Array.toList_push⟩

def Recorder.Tells (record : Recorder → Except RollFault Recorder) : Prop :=
  ∀ recorder later, record recorder = .ok later → ∃ steps, recorder.Extends later steps

theorem Recorder.extends_noteGroup (recorder : Recorder) (value : Int) :
    ∃ steps, recorder.Extends (recorder.noteGroup value) steps := by
  unfold noteGroup
  split
  · exact ⟨_, recorder.extends_add _ _ _ _ _ _⟩
  · exact ⟨[], .refl recorder⟩

theorem Recorder.tells_noteNode (e : Expr) (value : Int) :
    Tells fun recorder => recorder.noteNode e value := by
  intro recorder later written
  dsimp only at written
  unfold noteNode at written
  split at written
  · obtain ⟨activity, _, added⟩ := ok_of_bind written
    cases added
    exact ⟨_, recorder.extends_add _ _ _ _ _ _⟩
  · cases written
    exact ⟨[], .refl recorder⟩

theorem Recorder.tells_noteOperation (operator : Operator) (left right value : Int) :
    Tells fun recorder => recorder.noteOperation operator left right value := by
  intro recorder later written
  dsimp only at written
  unfold noteOperation at written
  split at written
  · cases written
    exact ⟨_, recorder.extends_add _ _ _ _ _ _⟩
  · cases written

/-- What some work does: the dice that it draws, how many dice show it no face, the nodes and the
    rerolls that it counts, and the steps that it tells of. -/
structure Effect where
  draws : List Draw := []
  lost : Nat := 0
  nodes : Nat := 0
  rerolls : Nat := 0
  steps : List Step := []

instance : Zero Effect := ⟨{}⟩

instance : Add Effect where
  add first second := ⟨first.draws ++ second.draws, first.lost + second.lost,
    first.nodes + second.nodes, first.rerolls + second.rerolls, first.steps ++ second.steps⟩

variable {σ : Type}

theorem Rolling.ofExcept_ok_bind (value : α) (next : α → Rolling σ β) :
    (Rolling.ofExcept (.ok value) >>= next) = next value := rfl

theorem Rolling.note_eq_tryNote (record : Recorder → Recorder) :
    (Rolling.note record : Rolling σ Unit) =
      Rolling.tryNote fun recorder => .ok (record recorder) := by
  funext trace
  cases kept : trace.recorder with
  | none =>
    refine Eq.trans ?_ (run_tryNote_none kept).symm
    show (Except.ok (), trace.note record) = _
    rw [Trace.note, kept, Option.map_none, ← kept]
  | some recorder =>
    refine Eq.trans ?_ (run_tryNote_some kept).symm
    show (Except.ok (), trace.note record) = _
    rw [Trace.note, kept, Option.map_some]

variable [Supply σ]

/-- From the first state to the second, this much has been done. -/
structure Trace.Does (before : Trace σ) (effect : Effect) (after : Trace σ) : Prop where
  supply : effect.lost = 0 → Supply.Falls before.supply effect.draws after.supply
  rolls : after.rolls.toList = before.rolls.toList ++ effect.draws.map Draw.face
  nodes : after.metrics.nodesEvaluated = before.metrics.nodesEvaluated + effect.nodes
  dice : after.metrics.diceRolled = before.metrics.diceRolled + effect.draws.length
  rerolls : after.metrics.rerollsPerformed = before.metrics.rerollsPerformed + effect.rerolls
  account : Option.Rel (fun recorder later => recorder.Extends later effect.steps)
    before.recorder after.recorder

namespace Trace

variable {before between after : Trace σ} {effect other : Effect}

theorem rel_extends_refl (kept : Option Recorder) :
    Option.Rel (fun recorder later => recorder.Extends later []) kept kept := by
  cases kept with
  | none => exact .none
  | some recorder => exact .some (.refl recorder)

theorem Does.refl (before : Trace σ) : before.Does 0 before :=
  ⟨fun _ => .nil _, (List.append_nil _).symm, rfl, rfl, rfl, rel_extends_refl _⟩

theorem Does.trans (first : before.Does effect between) (second : between.Does other after) :
    before.Does (effect + other) after where
  supply none := by
    obtain ⟨noneFirst, noneSecond⟩ := Nat.add_eq_zero_iff.mp none
    exact (first.supply noneFirst).append (second.supply noneSecond)
  rolls := by
    rw [second.rolls, first.rolls, List.append_assoc, ← List.map_append]
    rfl
  nodes := by rw [second.nodes, first.nodes, Nat.add_assoc]; rfl
  dice := by rw [second.dice, first.dice, Nat.add_assoc, ← List.length_append]; rfl
  rerolls := by rw [second.rerolls, first.rerolls, Nat.add_assoc]; rfl
  account := by
    have early := first.account
    have late := second.account
    generalize before.recorder = one, between.recorder = two, after.recorder = three at early late
    cases early with
    | none =>
      cases late with
      | none => exact .none
    | some extended =>
      cases late with
      | some further => exact .some (extended.trans further)

theorem Does.silent (does : before.Does effect after) (silent : before.recorder = none) :
    after.recorder = none := by
  have account := does.account
  rw [silent] at account
  generalize after.recorder = kept at account
  cases account
  rfl

theorem Does.extended (does : before.Does effect after) {recorder : Recorder}
    (kept : before.recorder = some recorder) :
    ∃ later, after.recorder = some later ∧ recorder.Extends later effect.steps := by
  have account := does.account
  rw [kept] at account
  generalize after.recorder = left at account
  cases account with
  | some extended => exact ⟨_, rfl, extended⟩

theorem does_countNodes (before : Trace σ) (count : Nat) :
    before.Does { nodes := count } (before.countNodes count) :=
  ⟨fun _ => .nil _, (List.append_nil _).symm, rfl, rfl, rfl, rel_extends_refl _⟩

theorem does_countReroll (before : Trace σ) : before.Does { rerolls := 1 } before.countReroll :=
  ⟨fun _ => .nil _, (List.append_nil _).symm, rfl, rfl, rfl, rel_extends_refl _⟩

theorem does_rollDie_of_ok {sides face : Int} {supply : σ}
    (rolled : Supply.rollDie sides before.supply = (.ok face, supply)) :
    before.rollDie sides = (.ok face, { before with supply := supply }.addRoll face) ∧
      before.Does { draws := [⟨sides, face⟩] } ({ before with supply := supply }.addRoll face) := by
  refine ⟨?_, fun _ => .single rolled, Array.toList_push, rfl, rfl, rfl, rel_extends_refl _⟩
  unfold Trace.rollDie
  rw [rolled]

theorem does_rollDie_of_error {sides : Int} {fault : RollFault} {supply : σ}
    (rolled : Supply.rollDie sides before.supply = (.error fault, supply)) :
    before.rollDie sides = (.error fault, { before with supply := supply }) ∧
      before.Does { lost := 1 } { before with supply := supply } := by
  refine ⟨?_, nofun, (List.append_nil _).symm, rfl, rfl, rfl, rel_extends_refl _⟩
  unfold Trace.rollDie
  rw [rolled]

end Trace

/-- A way to say what work does, in grades that add up where one work follows another. A grade says
    in which states the work may start, and what it may do until it comes to a value or a fault. -/
structure Grading (σ γ : Type) [Supply σ] [AddMonoid γ] where
  ready : γ → Trace σ → Prop
  allows : γ → Option RollFault → Effect → Prop
  allows_steps (steps : List Step) : allows 0 none { steps := steps }
  allows_add {grade more : γ} {fault : Option RollFault} {effect other : Effect} :
    allows grade none effect → allows more fault other →
      allows (grade + more) fault (effect + other)
  allows_stopped {grade more : γ} {fault : RollFault} {effect : Effect} :
    allows grade (some fault) effect → allows (grade + more) (some fault) effect
  ready_first {grade more : γ} {trace : Trace σ} : ready (grade + more) trace → ready grade trace
  ready_second {grade more : γ} {before between : Trace σ} {effect : Effect} :
    ready (grade + more) before → before.Does effect between → allows grade none effect →
      ready more between

def faultOf : Except RollFault α → Option RollFault
  | .ok _ => none
  | .error fault => some fault

/-- Started where its grade lets it, the work does what its grade allows, and its value, if it comes
    to one, goes with what it has done. -/
def Rolling.Has {γ : Type} [AddMonoid γ] (grading : Grading σ γ) (grade : γ)
    (good : α → Effect → Prop) (work : Rolling σ α) : Prop :=
  ∀ before, grading.ready grade before → ∃ effect, before.Does effect (work.run before).2 ∧
    grading.allows grade (faultOf (work.run before).1) effect ∧
    ∀ value, (work.run before).1 = .ok value → good value effect

namespace Rolling.Has

variable {γ : Type} [AddMonoid γ] {grading : Grading σ γ} {grade more : γ}

section Rules

variable {good : α → Effect → Prop} {better : β → Effect → Prop}

theorem pure {value : α} (fits : good value 0) :
    Has grading 0 good (Pure.pure value : Rolling σ α) := by
  refine fun before _ => ⟨0, .refl before, grading.allows_steps [], fun result done => ?_⟩
  cases done
  exact fits

theorem throw {fault : RollFault} (allowed : grading.allows grade (some fault) 0) :
    Has grading grade good (MonadExcept.throw fault : Rolling σ α) :=
  fun before _ => ⟨0, .refl before, allowed, nofun⟩

theorem ofExcept_bind {result : Except RollFault α} {next : α → Rolling σ β}
    (fails : ∀ fault, result = .error fault → grading.allows grade (some fault) 0)
    (goesOn : ∀ value, result = .ok value → Has grading grade better (next value)) :
    Has grading grade better (Rolling.ofExcept result >>= next) := by
  cases result with
  | error fault => exact throw (fails fault rfl)
  | ok value => exact goesOn value rfl

theorem mono {better : α → Effect → Prop} {work : Rolling σ α} (has : Has grading grade good work)
    (weaker : ∀ value effect, good value effect → better value effect) :
    Has grading grade better work := by
  intro before ready
  obtain ⟨effect, does, allowed, fits⟩ := has before ready
  exact ⟨effect, does, allowed, fun value done => weaker value effect (fits value done)⟩

theorem bind_effect {first : Rolling σ α} {next : α → Rolling σ β}
    (starts : Has grading grade good first)
    (goesOn : ∀ value effect, good value effect →
      Has grading more (fun result other => better result (effect + other)) (next value)) :
    Has grading (grade + more) better (first >>= next) := by
  intro before ready
  obtain ⟨effect, does, allowed, fits⟩ := starts before (grading.ready_first ready)
  rw [run_bind]
  cases started : first.run before with
  | mk result between =>
    rw [started] at does allowed fits
    cases result with
    | error fault => exact ⟨effect, does, grading.allows_stopped allowed, nofun⟩
    | ok value =>
      obtain ⟨other, doesOn, allowedToo, fitsToo⟩ := goesOn value effect (fits value rfl) between
        (grading.ready_second ready does allowed)
      exact ⟨effect + other, does.trans doesOn, grading.allows_add allowed allowedToo, fitsToo⟩

theorem countNodes {count : Nat} {good : PUnit → Effect → Prop}
    (allowed : grading.allows grade none { nodes := count })
    (fits : good ⟨⟩ { nodes := count }) :
    Has grading grade good (modify (Trace.countNodes count) : Rolling σ PUnit) :=
  fun before _ => ⟨_, before.does_countNodes count, allowed, fun _ _ => fits⟩

theorem countReroll {good : PUnit → Effect → Prop}
    (allowed : grading.allows grade none { rerolls := 1 }) (fits : good ⟨⟩ { rerolls := 1 }) :
    Has grading grade good (modify Trace.countReroll : Rolling σ PUnit) :=
  fun before _ => ⟨_, before.does_countReroll, allowed, fun _ _ => fits⟩

theorem die {sides : Int} {good : Int → Effect → Prop}
    (shown : ∀ before face supply, grading.ready grade before →
      Supply.rollDie sides before.supply = (.ok face, supply) →
      grading.allows grade none { draws := [⟨sides, face⟩] } ∧
        good face { draws := [⟨sides, face⟩] })
    (lost : ∀ before fault supply, grading.ready grade before →
      Supply.rollDie sides before.supply = (.error fault, supply) →
      grading.allows grade (some fault) { lost := 1 }) :
    Has grading grade good (Rolling.die sides : Rolling σ Int) := by
  intro before ready
  show ∃ effect, before.Does effect (before.rollDie sides).2 ∧
    grading.allows grade (faultOf (before.rollDie sides).1) effect ∧
    ∀ value, (before.rollDie sides).1 = .ok value → good value effect
  cases rolled : Supply.rollDie sides before.supply with
  | mk result supply =>
    cases result with
    | error fault =>
      obtain ⟨same, does⟩ := Trace.does_rollDie_of_error rolled
      rw [same]
      exact ⟨_, does, lost before fault supply ready rolled, nofun⟩
    | ok face =>
      obtain ⟨same, does⟩ := Trace.does_rollDie_of_ok rolled
      obtain ⟨allowed, fits⟩ := shown before face supply ready rolled
      rw [same]
      refine ⟨_, does, allowed, fun value done => ?_⟩
      cases done
      exact fits

theorem tryNote {record : Recorder → Except RollFault Recorder} {good : Unit → Effect → Prop}
    (silent : ∀ before, grading.ready 0 before → before.recorder = none → good () 0)
    (kept : ∀ before recorder, grading.ready 0 before → before.recorder = some recorder →
      (∀ fault, record recorder = .error fault → grading.allows 0 (some fault) 0) ∧
      ∀ later, record recorder = .ok later →
        ∃ steps, recorder.Extends later steps ∧ good () { steps := steps }) :
    Has grading 0 good (Rolling.tryNote record : Rolling σ Unit) := by
  intro before ready
  cases told : before.recorder with
  | none =>
    rw [run_tryNote_none told]
    exact ⟨0, .refl before, grading.allows_steps [], fun _ _ => silent before ready told⟩
  | some recorder =>
    obtain ⟨fails, fits⟩ := kept before recorder ready told
    rw [run_tryNote_some told]
    cases written : record recorder with
    | error fault => exact ⟨0, .refl before, fails fault written, nofun⟩
    | ok later =>
      obtain ⟨steps, extended, holds⟩ := fits later written
      refine ⟨_, ⟨fun _ => .nil _, (List.append_nil _).symm, rfl, rfl, rfl, ?_⟩,
        grading.allows_steps steps, fun _ _ => holds⟩
      rw [told]
      exact .some extended

theorem tryNote_of_tells {record : Recorder → Except RollFault Recorder}
    (tells : Recorder.Tells record)
    (fails : ∀ before recorder fault, grading.ready 0 before → before.recorder = some recorder →
      record recorder = .error fault → grading.allows 0 (some fault) 0) :
    Has grading 0 (fun _ _ => True) (Rolling.tryNote record : Rolling σ Unit) := by
  refine tryNote (fun _ _ _ => trivial) fun before recorder ready kept => ⟨?_, ?_⟩
  · exact fun fault failed => fails before recorder fault ready kept failed
  · intro later written
    obtain ⟨steps, extended⟩ := tells recorder later written
    exact ⟨steps, extended, trivial⟩

theorem note {record : Recorder → Recorder}
    (told : ∀ recorder : Recorder, ∃ steps, recorder.Extends (record recorder) steps) :
    Has grading 0 (fun _ _ => True) (Rolling.note record : Rolling σ Unit) := by
  rw [note_eq_tryNote]
  apply tryNote_of_tells
  · intro recorder later written
    cases written
    exact told recorder
  · intro _ recorder fault _ _ failed
    cases failed

end Rules

section Values

variable {good : α → Prop} {better : β → Prop} {first : Rolling σ α} {next : α → Rolling σ β}

theorem bind (starts : Has grading grade (fun value _ => good value) first)
    (goesOn : ∀ value, good value → Has grading more (fun result _ => better result) (next value)) :
    Has grading (grade + more) (fun result _ => better result) (first >>= next) :=
  starts.bind_effect fun value _ holds => goesOn value holds

theorem silent_bind (starts : Has grading 0 (fun value _ => good value) first)
    (goesOn : ∀ value, good value →
      Has grading grade (fun result _ => better result) (next value)) :
    Has grading grade (fun result _ => better result) (first >>= next) := by
  have both := starts.bind goesOn
  rwa [zero_add] at both

theorem bind_silent (starts : Has grading grade (fun value _ => good value) first)
    (goesOn : ∀ value, good value → Has grading 0 (fun result _ => better result) (next value)) :
    Has grading grade (fun result _ => better result) (first >>= next) := by
  have both := starts.bind goesOn
  rwa [add_zero] at both

end Values

end Rolling.Has

end DiceFormula
