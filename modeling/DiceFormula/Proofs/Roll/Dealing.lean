import DiceFormula.Proofs.Roll.Effect
import DiceFormula.Proofs.Roll.Observation
import Mathlib.Data.Stream.Init

namespace DiceFormula

variable {σ : Type}

namespace Supply

variable [Supply σ]

def after (sides : Int) (supply : σ) : Nat → σ
  | 0 => supply
  | count + 1 => after sides (Supply.rollDie sides supply).2 count

/-- From here on, dice with so many sides show these faces. -/
def Deals (sides : Int) (supply : σ) (faces : Stream' Int) : Prop :=
  ∀ n, (Supply.rollDie sides (after sides supply n)).1 = .ok (faces.get n)

variable {sides : Int} {supply : σ} {faces : Stream' Int}

theorem after_add (sides : Int) (supply : σ) (m n : Nat) :
    after sides supply (m + n) = after sides (after sides supply m) n := by
  induction m generalizing supply with
  | zero => rw [Nat.zero_add]; rfl
  | succ m ih =>
    rw [Nat.succ_add]
    exact ih _

theorem Deals.head (deals : Deals sides supply faces) :
    (Supply.rollDie sides supply).1 = .ok faces.head := deals 0

theorem Deals.drop (deals : Deals sides supply faces) (used : Nat) :
    Deals sides (after sides supply used) (faces.drop used) := by
  intro n
  rw [← after_add, Stream'.get_drop]
  exact deals (used + n)

theorem reaches_after (sides : Int) (supply : σ) (count : Nat) :
    Supply.Reaches supply (after sides supply count) := by
  induction count with
  | zero => exact .refl
  | succ count ih =>
    rw [after_add]
    exact .roll sides ih

end Supply

namespace Source

variable {sides : Nat}

theorem exists_deals (source : Source) (least : 1 ≤ sides)
    (most : sides ≤ Decimal.significandLimit) :
    ∃ faces : Stream' Int, Supply.Deals sides source faces ∧
      ∀ n, 1 ≤ faces.get n ∧ faces.get n ≤ sides := by
  have low : (1 : Int) ≤ sides := by omega
  have high : (sides : Int) ≤ Decimal.significandLimit := by omega
  choose face shown using Source.shows low high
  refine ⟨fun n => face (Supply.after sides source n), fun n => shown _, fun n => ?_⟩
  exact source.fair low high _ (Supply.reaches_after sides source n) _ (shown _)

theorem after_stream (sides : Int) (values : Nat → Fraction) (used count : Nat) :
    Supply.after sides (stream values used) count = stream values (used + count) := by
  induction count generalizing used with
  | zero => rfl
  | succ count ih => exact (ih (used + 1)).trans (by rw [Nat.add_assoc, Nat.add_comm 1])

def twosThenOnesFaces (twos : Nat) : Stream' Int := fun n => if n < twos then 2 else 1

theorem deals_twosThenOnes (twos : Nat) :
    Supply.Deals 2 (twosThenOnes twos 0) (twosThenOnesFaces twos) := by
  intro n
  have left : Supply.after 2 (twosThenOnes twos 0) n = twosThenOnes twos n := by
    show Supply.after 2 (stream _ 0) n = _
    rw [after_stream, Nat.zero_add]
    rfl
  rw [left, rollDie_twosThenOnes]
  rfl

theorem deals_of_faces (few : 2 * sides ≤ Decimal.twoPow 52) {faces : Stream' Int}
    (within : ∀ n, 1 ≤ faces.get n ∧ faces.get n ≤ sides) :
    ∃ source : Source, Supply.Deals sides source faces := by
  have inside (n : Nat) : (faces.get n).toNat - 1 < sides := by
    have bounds := within n
    omega
  choose value shown using fun n => Fraction.exists_value (inside n) few
  refine ⟨stream value 0, fun n => ?_⟩
  have face : (((faces.get n).toNat - 1 : Nat) : Int) + 1 = faces.get n := by
    have bounds := within n
    omega
  rw [after_stream, Nat.zero_add, rollDie_eq]
  dsimp only [next]
  rw [Fraction.rollDie_of_face? (shown n), face]

end Source

theorem take_append_take_drop (faces : Stream' Int) (used rest : Nat) :
    faces.take used ++ (faces.drop used).take rest = faces.take (used + rest) := by
  induction used generalizing faces with
  | zero => rw [Stream'.take_zero, List.nil_append, Stream'.drop_zero, Nat.zero_add]
  | succ used ih =>
    rw [Nat.succ_add, Stream'.take_succ, Stream'.take_succ, Stream'.drop_succ, List.cons_append,
      ih]

def drawsOf (sides : Int) (faces : List Int) : List Draw := faces.map (Draw.mk sides)

theorem drawsOf_append (sides : Int) (faces more : List Int) :
    drawsOf sides (faces ++ more) = drawsOf sides faces ++ drawsOf sides more := List.map_append

theorem map_face_drawsOf (sides : Int) (faces : List Int) :
    (drawsOf sides faces).map Draw.face = faces := by
  rw [drawsOf, List.map_map]
  exact List.map_id faces

theorem Supply.Deals.falls [Supply σ] {sides : Int} {supply : σ} {faces : Stream' Int}
    (deals : Supply.Deals sides supply faces) (used : Nat) :
    Supply.Falls supply (drawsOf sides (faces.take used)) (Supply.after sides supply used) := by
  induction used generalizing supply faces with
  | zero => exact .nil supply
  | succ used ih =>
    rw [Stream'.take_succ]
    exact .cons (Prod.ext deals.head rfl) (ih (deals.drop 1))

/-- Dice that are to fall, and the fault that comes after them, if there is to be one. -/
@[ext]
structure Plan where
  draws : List Draw
  fault : Option RollFault

def Plan.followedBy (first second : Plan) : Plan :=
  match first.fault with
  | none => ⟨first.draws ++ second.draws, second.fault⟩
  | some _ => first

instance : Zero Plan := ⟨⟨[], none⟩⟩

instance : Add Plan := ⟨Plan.followedBy⟩

instance : AddMonoid Plan where
  add_assoc
    | ⟨_, none⟩, ⟨_, none⟩, _ => Plan.ext (List.append_assoc _ _ _) rfl
    | ⟨_, none⟩, ⟨_, some _⟩, _ => rfl
    | ⟨_, some _⟩, _, _ => rfl
  zero_add _ := rfl
  add_zero
    | ⟨_, none⟩ => Plan.ext (List.append_nil _) rfl
    | ⟨_, some _⟩ => rfl
  nsmul := nsmulRec

namespace Plan

variable {plan more : Plan}

theorem add_of_going (going : plan.fault = none) :
    plan + more = ⟨plan.draws ++ more.draws, more.fault⟩ := by
  show plan.followedBy more = _
  unfold followedBy
  rw [going]

theorem add_of_stopped {fault : RollFault} (stopped : plan.fault = some fault) :
    plan + more = plan := by
  show plan.followedBy more = _
  unfold followedBy
  rw [stopped]

end Plan

variable [Supply σ]

/-- Graded by a plan, work draws the dice that are to fall and ends as planned. Quiet work is
    started only where no account is kept. -/
def falling (quiet : Prop) : Grading σ Plan where
  ready plan trace :=
    (quiet → trace.recorder = none) ∧ ∃ left, Supply.Falls trace.supply plan.draws left
  allows plan fault effect := fault = plan.fault ∧ effect.draws = plan.draws ∧ effect.lost = 0
  allows_steps _ := ⟨rfl, rfl, rfl⟩
  allows_add first second := by
    obtain ⟨going, drawn, none⟩ := first
    obtain ⟨ended, drawnToo, noneToo⟩ := second
    rw [Plan.add_of_going going.symm]
    exact ⟨ended, congrArg₂ (· ++ ·) drawn drawnToo, Nat.add_eq_zero_iff.mpr ⟨none, noneToo⟩⟩
  allows_stopped allowed := by
    rw [Plan.add_of_stopped allowed.1.symm]
    exact allowed
  ready_first ready := by
    rename_i plan more trace
    obtain ⟨silent, left, falls⟩ := ready
    cases planned : plan.fault with
    | some fault => exact ⟨silent, left, Plan.add_of_stopped planned ▸ falls⟩
    | none =>
      rw [Plan.add_of_going planned] at falls
      obtain ⟨next, first, _⟩ := falls.of_append
      exact ⟨silent, next, first⟩
  ready_second ready does allowed := by
    obtain ⟨silent, left, falls⟩ := ready
    obtain ⟨going, drawn, none⟩ := allowed
    rw [Plan.add_of_going going.symm] at falls
    obtain ⟨next, first, second⟩ := falls.of_append
    have same := first.unique (drawn ▸ does.supply none)
    exact ⟨fun quiet => does.silent (silent quiet), left, same ▸ second⟩

/-- If the next dice fall like this, then the work draws them, and it comes to such a value or to
    this fault. -/
abbrev Rolling.Takes (quiet : Prop) (draws : List Draw) (fault : Option RollFault)
    (good : α → Prop) (work : Rolling σ α) : Prop :=
  Has (falling quiet) ⟨draws, fault⟩ (fun value _ => good value) work

namespace Rolling.Takes

variable {quiet : Prop} {draws more : List Draw} {fault : Option RollFault}
  {good : α → Prop} {better : β → Prop}

theorem bind {first : Rolling σ α} {next : α → Rolling σ β}
    (starts : Takes quiet draws none good first)
    (goesOn : ∀ value, good value → Takes quiet more fault better (next value)) :
    Takes quiet (draws ++ more) fault better (first >>= next) := Has.bind starts goesOn

theorem bind_of_fault {fault : RollFault} {first : Rolling σ α}
    (stops : Takes quiet draws (some fault) good first) (next : α → Rolling σ β) :
    Takes quiet draws (some fault) better (first >>= next) := by
  intro before ready
  obtain ⟨effect, does, allowed, fits⟩ := stops before ready
  rw [run_bind]
  cases started : first.run before with
  | mk result between =>
    rw [started] at does allowed fits
    cases result with
    | error other => exact ⟨effect, does, allowed, nofun⟩
    | ok value => exact absurd allowed.1 nofun

theorem run_of_falls {work : Rolling σ α} (takes : Takes quiet draws fault good work)
    (trace : Trace σ) {left : σ} (silent : quiet → trace.recorder = none)
    (falls : Supply.Falls trace.supply draws left) :
    faultOf (work.run trace).1 = fault ∧ (∀ value, (work.run trace).1 = .ok value → good value) ∧
      (work.run trace).2.rolls.toList = trace.rolls.toList ++ draws.map Draw.face ∧
      (work.run trace).2.supply = left := by
  obtain ⟨effect, does, ⟨ended, drawn, none⟩, fits⟩ := takes trace ⟨silent, left, falls⟩
  dsimp only at drawn
  subst drawn
  exact ⟨ended, fits, does.rolls, (does.supply none).unique falls⟩

theorem run_eq_ok {work : Rolling σ α} {value : α} (takes : Takes quiet draws none (· = value) work)
    (trace : Trace σ) {left : σ} (silent : quiet → trace.recorder = none)
    (falls : Supply.Falls trace.supply draws left) :
    (work.run trace).1 = .ok value ∧
      (work.run trace).2.rolls.toList = trace.rolls.toList ++ draws.map Draw.face ∧
      (work.run trace).2.supply = left := by
  obtain ⟨ended, reached, rolled, supply⟩ := takes.run_of_falls trace silent falls
  refine ⟨?_, rolled, supply⟩
  cases done : (work.run trace).1 with
  | error fault =>
    rw [done] at ended
    cases ended
  | ok other => rw [reached other done]

theorem pure {value : α} (holds : good value) :
    Takes quiet [] none good (Pure.pure value : Rolling σ α) := Has.pure holds

theorem throw (fault : RollFault) :
    Takes quiet [] (some fault) good (MonadExcept.throw fault : Rolling σ α) :=
  Has.throw ⟨rfl, rfl, rfl⟩

theorem countReroll :
    Takes quiet [] none (fun _ => True) (modify Trace.countReroll : Rolling σ PUnit) :=
  Has.countReroll ⟨rfl, rfl, rfl⟩ trivial

theorem countNode :
    Takes quiet [] none (fun _ => True) (modify (Trace.countNodes 1) : Rolling σ PUnit) :=
  Has.countNodes ⟨rfl, rfl, rfl⟩ trivial

theorem die (sides face : Int) :
    Takes quiet [⟨sides, face⟩] none (· = face) (Rolling.die sides : Rolling σ Int) := by
  refine Has.die (fun _ _ _ ready rolled => ?_) fun _ _ _ ready rolled => ?_
  · obtain ⟨_, left, falls⟩ := ready
    cases falls with
    | cons shown _ =>
      cases rolled.symm.trans shown
      exact ⟨⟨rfl, rfl, rfl⟩, rfl⟩
  · obtain ⟨_, left, falls⟩ := ready
    cases falls with
    | cons shown _ => cases rolled.symm.trans shown

theorem tryNote {record : Recorder → Except RollFault Recorder} (tells : Recorder.Tells record)
    (written : quiet ∨ ∀ recorder, ∃ later, record recorder = .ok later) :
    Takes quiet [] none (fun _ => True) (Rolling.tryNote record : Rolling σ Unit) := by
  refine Has.tryNote_of_tells tells fun before recorder fault ready kept failed => ?_
  rcases written with quiet | written
  · cases (ready.1 quiet).symm.trans kept
  · obtain ⟨later, done⟩ := written recorder
    cases failed.symm.trans done

theorem noteNode_return {e : Expr} {value : Int} {good : Int → Prop} (holds : good value)
    (written : quiet ∨ ∀ recorder : Recorder, ∃ later, recorder.noteNode e value = .ok later) :
    Takes quiet [] none good (do Rolling.noteNode e value; return value : Rolling σ Int) :=
  .silent_bind (tryNote (Recorder.tells_noteNode e value) written) fun _ _ => .pure holds

end Rolling.Takes

section Roll

open Rolling

variable {quiet : Prop} {draws more : List Draw} {fault : Option RollFault} {good : Int → Prop}
  {limit : Int}

theorem takes_roll_atom {a : Atom}
    (takes : Takes quiet draws fault good (a.roll limit : Rolling σ Int)) :
    Takes quiet draws fault good ((Expr.atom a).roll limit : Rolling σ Int) := by
  have written (value : Int) (recorder : Recorder) :
      ∃ later, recorder.noteNode (.atom a) value = .ok later := by
    cases a with
    | _ => exact noteNode_of_activity rfl value recorder
  rw [Expr.roll]
  refine .silent_bind Takes.countNode fun _ _ => ?_
  cases fault with
  | some fault => exact takes.bind_of_fault _
  | none =>
    exact .bind_silent takes fun value holds => Takes.noteNode_return holds (.inr (written value))

theorem takes_roll_group {inner : Expr}
    (takes : Takes True draws none good (inner.roll limit : Rolling σ Int)) :
    Takes True draws none good ((Expr.group inner).roll limit : Rolling σ Int) := by
  rw [Expr.roll]
  refine .silent_bind Takes.countNode fun _ _ => .bind_silent takes fun value holds => ?_
  exact .silent_bind (.note fun recorder => recorder.extends_noteGroup value) fun _ _ =>
    Takes.noteNode_return holds (.inl trivial)

theorem takes_roll_binary {operator : Operator} {left right : Expr}
    {leftValue rightValue value : Int}
    (leftTakes : Takes True draws none (· = leftValue) (left.roll limit : Rolling σ Int))
    (rightTakes : Takes True more none (· = rightValue) (right.roll limit : Rolling σ Int))
    (applied : operator.apply leftValue rightValue = .ok value) :
    Takes True (draws ++ more) none (· = value)
      ((Expr.binary operator left right).roll limit : Rolling σ Int) := by
  rw [Expr.roll_binary]
  refine .silent_bind Takes.countNode fun _ _ => Takes.bind leftTakes ?_
  rintro _ rfl
  refine .bind_silent rightTakes ?_
  rintro _ rfl
  rw [applied, ofExcept_ok_bind]
  exact .silent_bind (Takes.tryNote (Recorder.tells_noteOperation operator _ _ value)
    (.inl trivial)) fun _ _ => Takes.noteNode_return rfl (.inl trivial)

end Roll

end DiceFormula
