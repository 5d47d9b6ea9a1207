import DiceFormula.Proofs.Expr.Recursion
import DiceFormula.Proofs.Roll.Effect
import DiceFormula.Proofs.Roll.Timing
import Mathlib.Algebra.BigOperators.Ring.Finset

namespace DiceFormula

namespace Effect

/-- All dice show a face and have such numbers of sides; and apart from the rerolls there are no
    more than this. -/
structure Within (effect : Effect) (known : Int → Prop) (nodes dice rerolls : Nat) : Prop where
  sides : ∀ draw ∈ effect.draws, known draw.sides
  lost : effect.lost = 0
  nodes : effect.nodes ≤ nodes
  dice : effect.draws.length ≤ effect.rerolls + dice
  rerolls : effect.rerolls ≤ rerolls

structure Full (effect : Effect) (nodes dice : Nat) : Prop where
  nodes : effect.nodes = nodes
  dice : effect.draws.length = effect.rerolls + dice

variable {first second : Effect} {known : Int → Prop}
  {nodes dice rerolls moreNodes moreDice moreRerolls : Nat}

theorem Within.steps (steps : List Step) (known : Int → Prop) (nodes dice rerolls : Nat) :
    Effect.Within { steps := steps } known nodes dice rerolls :=
  ⟨nofun, rfl, Nat.zero_le _, Nat.zero_le _, Nat.zero_le _⟩

theorem Within.add (one : first.Within known nodes dice rerolls)
    (two : second.Within known moreNodes moreDice moreRerolls) :
    (first + second).Within known (nodes + moreNodes) (dice + moreDice)
      (rerolls + moreRerolls) where
  sides := List.forall_mem_append.mpr ⟨one.sides, two.sides⟩
  lost := Nat.add_eq_zero_iff.mpr ⟨one.lost, two.lost⟩
  nodes := Nat.add_le_add one.nodes two.nodes
  dice := by
    have both := Nat.add_le_add one.dice two.dice
    show (first.draws ++ second.draws).length ≤ first.rerolls + second.rerolls + (dice + moreDice)
    rw [List.length_append]
    omega
  rerolls := Nat.add_le_add one.rerolls two.rerolls

theorem Within.mono (within : first.Within known nodes dice rerolls) (moreNodes moreDice : Nat)
    {moreRerolls : Nat} (more : rerolls ≤ moreRerolls) :
    first.Within known (nodes + moreNodes) (dice + moreDice) moreRerolls := by
  obtain ⟨sides, found, counted, drawn, rerolled⟩ := within
  exact ⟨sides, found, by omega, by omega, by omega⟩

theorem Full.add (one : first.Full nodes dice) (two : second.Full moreNodes moreDice) :
    (first + second).Full (nodes + moreNodes) (dice + moreDice) := by
  refine ⟨congrArg₂ (· + ·) one.nodes two.nodes, ?_⟩
  show (first.draws ++ second.draws).length = first.rerolls + second.rerolls + (dice + moreDice)
  rw [List.length_append, one.dice, two.dice]
  omega

end Effect

variable {σ : Type} [Supply σ]

/-- Graded by nodes, dice and rerolls, work never takes more than these, and leaves out neither a
    node nor a die if it comes to a value. -/
def spending (known : Int → Prop) : Grading σ (Nat × Nat × Nat) where
  ready _ _ := True
  allows := fun (nodes, dice, rerolls) fault effect =>
    effect.Within known nodes dice rerolls ∧ (fault = none → effect.Full nodes dice)
  allows_steps steps := ⟨.steps steps _ _ _ _, fun _ => ⟨rfl, rfl⟩⟩
  allows_add first second :=
    ⟨first.1.add second.1, fun done => (first.2 rfl).add (second.2 done)⟩
  allows_stopped first := ⟨first.1.mono _ _ (Nat.le_add_right _ _), nofun⟩
  ready_first ready := ready
  ready_second _ _ _ := trivial

abbrev Rolling.Costs (known : Int → Prop) (nodes dice rerolls : Nat) (work : Rolling σ α) : Prop :=
  Has (spending known) (nodes, dice, rerolls) (fun _ _ => True) work

variable {known : Int → Prop}

open Rolling

theorem spending_stopped (nodes dice rerolls : Nat) (fault : RollFault) :
    (spending known : Grading σ _).allows (nodes, dice, rerolls) (some fault) 0 :=
  ⟨.steps [] _ _ _ _, nofun⟩

namespace Rolling.Costs

variable {nodes dice rerolls moreNodes moreDice moreRerolls : Nat} {sides : Int}

theorem bind {first : Rolling σ α} {next : α → Rolling σ β}
    (starts : Costs known nodes dice rerolls first)
    (goesOn : ∀ value, Costs known moreNodes moreDice moreRerolls (next value)) :
    Costs known (nodes + moreNodes) (dice + moreDice) (rerolls + moreRerolls) (first >>= next) :=
  Has.bind starts fun value _ => goesOn value

theorem raise {work : Rolling σ α} (costs : Costs known nodes dice rerolls work)
    (more : rerolls ≤ moreRerolls) : Costs known nodes dice moreRerolls work := by
  intro before _
  obtain ⟨effect, does, ⟨within, full⟩, _⟩ := costs before trivial
  exact ⟨effect, does, ⟨within.mono 0 0 more, full⟩, fun _ _ => trivial⟩

theorem pure (value : α) : Costs known 0 0 rerolls (Pure.pure value : Rolling σ α) :=
  raise (Has.pure trivial) (Nat.zero_le _)

theorem throw (fault : RollFault) :
    Costs known nodes dice rerolls (MonadExcept.throw fault : Rolling σ α) :=
  Has.throw (spending_stopped _ _ _ _)

theorem ofExcept_bind {result : Except RollFault α} {next : α → Rolling σ β}
    (goesOn : ∀ value, Costs known nodes dice rerolls (next value)) :
    Costs known nodes dice rerolls (Rolling.ofExcept result >>= next) :=
  Has.ofExcept_bind (fun _ _ => spending_stopped _ _ _ _) fun value _ => goesOn value

theorem tryNote {record : Recorder → Except RollFault Recorder} (tells : Recorder.Tells record) :
    Costs known 0 0 0 (Rolling.tryNote record : Rolling σ Unit) :=
  Has.tryNote_of_tells tells fun _ _ _ _ _ _ => spending_stopped _ _ _ _

theorem noteNode_return (e : Expr) (value : Int) :
    Costs known 0 0 0 (do Rolling.noteNode e value; return value : Rolling σ Int) :=
  .silent_bind (tryNote (Recorder.tells_noteNode e value)) fun _ _ => pure value

theorem counted {work : Rolling σ α} (costs : Costs known nodes dice rerolls work) :
    Costs known (nodes + 1) dice rerolls (do modify (Trace.countNodes 1); work) := by
  have counts : Costs known 1 0 0 (modify (Trace.countNodes 1) : Rolling σ PUnit) :=
    Has.countNodes ⟨⟨nofun, rfl, Nat.le_refl _, Nat.le_refl _, Nat.le_refl _⟩,
      fun _ => ⟨rfl, rfl⟩⟩ trivial
  have both := counts.bind fun _ => costs
  rwa [Nat.add_comm 1, Nat.zero_add, Nat.zero_add] at both

theorem die (shows : Supply.Shows σ sides) (has : known sides) :
    Costs known 0 1 0 (Rolling.die sides : Rolling σ Int) := by
  refine Has.die (fun _ face _ _ _ => ⟨⟨?_, fun _ => ⟨rfl, rfl⟩⟩, trivial⟩)
    fun before fault supply _ rolled => ?_
  · exact ⟨List.forall_mem_singleton.mpr has, rfl, Nat.le_refl _, Nat.le_refl _, Nat.le_refl _⟩
  · obtain ⟨face, shown⟩ := shows before.supply
    rw [rolled] at shown
    cases shown

theorem redraw (shows : Supply.Shows σ sides) (has : known sides) :
    Costs known 0 0 1 (do
      let face ← Rolling.die sides
      modify Trace.countReroll
      return face : Rolling σ Int) := by
  intro before _
  obtain ⟨face, shown⟩ := shows before.supply
  obtain ⟨same, does⟩ := Trace.does_rollDie_of_ok (Prod.ext shown rfl)
  have rolled : (Rolling.die sides).run before = (.ok face, _) := same
  rw [run_bind, rolled]
  exact ⟨_, does.trans (Trace.does_countReroll _),
    ⟨⟨List.forall_mem_singleton.mpr has, rfl, Nat.le_refl _, Nat.le_refl _, Nat.le_refl _⟩,
      fun _ => ⟨rfl, rfl⟩⟩, fun _ _ => trivial⟩

end Rolling.Costs

variable {sides : Int} {pool : Pool}

theorem costs_rollDice (shows : Supply.Shows σ sides) (has : known sides) (rolled : Array Int)
    (count : Nat) :
    Costs known 0 count 0 (rollDice sides rolled count : Rolling σ (Array Int)) := by
  induction count generalizing rolled with
  | zero => exact .pure rolled
  | succ count ih =>
    have both := (Costs.die shows has).bind fun face => ih (rolled.push face)
    rw [Nat.add_comm 1] at both
    exact both

theorem costs_reroll (shows : Supply.Shows σ sides) (has : known sides) (limit : Int)
    (kind : RerollKind) (check : Check) (face worth : Int) (faces : Array Int) (allowance : Nat) :
    Costs known 0 0 allowance
      (reroll limit sides kind check face worth faces allowance : Rolling σ Settled) := by
  induction allowance generalizing face worth faces with
  | zero =>
    rw [reroll]
    refine .ofExcept_bind fun passes => ?_
    cases passes with
    | false => exact .pure _
    | true => exact .throw _
  | succ allowance ih =>
    rw [reroll]
    refine .ofExcept_bind fun passes => ?_
    cases passes with
    | false => exact .pure _
    | true =>
      have again (next : Int) : Costs known 0 0 allowance
          (if kind = .once then return ⟨if kind = .exploding then worth + next else next,
              faces.push next⟩
            else reroll limit sides kind check next
              (if kind = .exploding then worth + next else next) (faces.push next) allowance :
            Rolling σ Settled) := by
        split
        · exact .pure _
        · exact ih next _ _
      have both := (Costs.redraw shows has).bind again
      simp only [bind_assoc, pure_bind, Nat.add_comm 1] at both
      exact both

theorem costs_rollSettled (shows : Supply.Shows σ sides) (has : known sides) (limit : Int)
    (kind : RerollKind) (check : Check) :
    Costs known 0 1 limit.toNat
      (rollSettled limit sides kind check : Rolling σ Settled) := by
  have both := (Costs.die shows has).bind fun face =>
    costs_reroll shows has limit kind check face face #[face] limit.toNat
  rw [Nat.zero_add limit.toNat] at both
  exact both

theorem costs_rollGroup (shows : Supply.Shows σ sides) (has : known sides) (limit : Int)
    (kind : RerollKind) (check : Check) (group : SettledGroup) (count : Nat) :
    Costs known 0 count (count * limit.toNat)
      (rollGroup limit sides kind check group count : Rolling σ SettledGroup) := by
  induction count generalizing group with
  | zero => exact .pure group
  | succ count ih =>
    have both := (costs_rollSettled shows has limit kind check).bind fun die =>
      ih (group.add die)
    rw [Nat.add_comm 1, Nat.add_comm limit.toNat, ← Nat.succ_mul] at both
    exact both

namespace Expr

def diceCount (e : Expr) : Nat := (e.pools.map fun pool => pool.count.toNat).sum

theorem diceCount_atom {a : Atom} (has : a.pool? = some pool) :
    (atom a).diceCount = pool.count.toNat := by
  rw [diceCount, pools, atoms, List.filterMap_cons_some has]
  exact Nat.add_zero _

theorem diceCount_binary (operator : Operator) (left right : Expr) :
    (binary operator left right).diceCount = left.diceCount + right.diceCount := by
  rw [diceCount, pools_binary, List.map_append, List.sum_append]
  rfl

theorem diceCount_eq_sum {e : Expr} (natural : ∀ pool ∈ e.pools, 0 ≤ pool.count) :
    (e.diceCount : Int) = (e.pools.map Pool.count).sum := by
  rw [diceCount, Nat.cast_list_sum, List.map_map]
  congr 1
  exact List.map_congr_left fun pool member => Int.toNat_of_nonneg (natural pool member)

end Expr

theorem costs_atom (shows : ∀ sides, known sides → Supply.Shows σ sides) (limit : Int) {a : Atom}
    (has : ∀ pool, a.pool? = some pool → known pool.sides) :
    Costs known 0 (Expr.atom a).diceCount ((Expr.atom a).diceCount * limit.toNat)
      (a.roll limit : Rolling σ Int) := by
  have rolled (pool : Pool) (has : known pool.sides) :
      Costs known 0 pool.count.toNat (pool.count.toNat * limit.toNat)
        (rollDice pool.sides #[] pool.count.toNat : Rolling σ (Array Int)) :=
    (costs_rollDice (shows _ has) has #[] _).raise (Nat.zero_le _)
  cases a with
  | number value => exact .pure value
  | dice pool =>
    rw [Expr.diceCount_atom rfl]
    refine .bind_silent (rolled pool (has pool rfl)) fun _ _ => ?_
    exact .silent_bind (.note fun recorder => ⟨_, recorder.extends_add _ _ _ _ _ _⟩) fun _ _ =>
      Costs.pure _
  | conditional pool check =>
    rw [Expr.diceCount_atom rfl]
    refine .bind_silent (rolled pool (has pool rfl)) fun _ _ => Costs.ofExcept_bind fun _ => ?_
    exact .silent_bind (.note fun recorder => ⟨_, recorder.extends_add _ _ _ _ _ _⟩) fun _ _ =>
      Costs.pure _
  | reroll pool kind check =>
    rw [Expr.diceCount_atom rfl]
    have known := has pool rfl
    refine .bind_silent (costs_rollGroup (shows _ known) known limit kind check {} _) fun _ _ => ?_
    exact .silent_bind (.note fun recorder => ⟨_, recorder.extends_add _ _ _ _ _ _⟩) fun _ _ =>
      Costs.pure _

theorem costs_roll (shows : ∀ sides, known sides → Supply.Shows σ sides) (limit : Int) {e : Expr}
    (has : ∀ pool ∈ e.pools, known pool.sides) :
    Costs known e.size e.diceCount (e.diceCount * limit.toNat)
      (e.roll limit : Rolling σ Int) := by
  induction e with
  | atom a =>
    rw [Expr.roll]
    have rolled := costs_atom (σ := σ) shows limit (a := a) fun pool found =>
      has pool (Expr.mem_pools_atom found)
    exact Costs.counted (.bind_silent rolled fun value _ => Costs.noteNode_return (.atom a) value)
  | group inner ih =>
    rw [Expr.roll]
    refine Costs.counted (.bind_silent (ih has) fun value _ => ?_)
    exact .silent_bind (.note fun recorder => recorder.extends_noteGroup value) fun _ _ =>
      Costs.noteNode_return (.group inner) value
  | binary operator left right leftIh rightIh =>
    rw [Expr.pools_binary, List.forall_mem_append] at has
    rw [Expr.roll_binary, Expr.diceCount_binary, Nat.add_mul]
    refine Costs.counted (Costs.bind (leftIh has.1) fun leftValue => ?_)
    refine .bind_silent (rightIh has.2) fun rightValue _ => Costs.ofExcept_bind fun value => ?_
    exact .silent_bind (Costs.tryNote (Recorder.tells_noteOperation _ _ _ value)) fun _ _ =>
      Costs.noteNode_return _ value

/-- The record that an evaluation leaves tells of every die that it has drawn, and of nothing else.
    Apart from the rerolls an evaluation that comes to a value has rolled each die of its formula
    once, and one that fails has never rolled more. -/
structure Metered (e : Expr) (limit : Int) (supply : Source) (result : Except RollFault Int)
    (left : Trace Source) : Prop where
  drawn : ∃ draws : List Draw, Supply.Falls supply draws left.supply ∧
    left.rolls.toList = draws.map Draw.face ∧
    ∀ draw ∈ draws, ∃ pool ∈ e.pools, pool.sides = draw.sides
  advanced : left.supply = supply.skip left.rolls.size
  diceRolled : left.metrics.diceRolled = left.rolls.size
  limited : (left.metrics.diceRolled : Int) ≤ (e.pools.map Pool.count).sum * (1 + limit)
  returned : ∀ value, result = .ok value → left.metrics.nodesEvaluated = e.nodeCount ∧
    (left.metrics.diceRolled : Int) - left.metrics.rerollsPerformed =
      (e.pools.map Pool.count).sum
  failed : ∀ fault, result = .error fault → left.metrics.nodesEvaluated ≤ e.nodeCount ∧
    (left.metrics.diceRolled : Int) - left.metrics.rerollsPerformed ≤
      (e.pools.map Pool.count).sum

theorem metered_evaluate {e : Expr} {limit : Int} (natural : 0 ≤ limit)
    (real : ∀ pool ∈ e.pools, 1 ≤ pool.count ∧ 1 ≤ pool.sides ∧ pool.sides ≤ mostSides)
    (trace : Trace Source) :
    Metered e limit trace.supply (e.evaluate limit trace).1 (e.evaluate limit trace).2 := by
  have shows (sides : Int) (has : ∃ pool ∈ e.pools, pool.sides = sides) :
      Supply.Shows Source sides := by
    obtain ⟨pool, member, rfl⟩ := has
    obtain ⟨_, least, most⟩ := real pool member
    exact Source.shows least (Int.le_trans most mostSides_le_significandLimit)
  obtain ⟨effect, does, ⟨within, full⟩, _⟩ :=
    costs_roll shows limit (fun pool member => ⟨pool, member, rfl⟩) trace.restart trivial
  let left := (e.evaluate limit trace).2
  have rolls : left.rolls.toList = effect.draws.map Draw.face := does.rolls
  have nodes : left.metrics.nodesEvaluated = effect.nodes :=
    does.nodes.trans (Nat.zero_add _)
  have dice : left.metrics.diceRolled = effect.draws.length :=
    does.dice.trans (Nat.zero_add _)
  have rerolls : left.metrics.rerollsPerformed = effect.rerolls :=
    does.rerolls.trans (Nat.zero_add _)
  have size : left.rolls.size = effect.draws.length := by
    rw [← Array.length_toList, rolls, List.length_map]
  have count : (e.diceCount : Int) = (e.pools.map Pool.count).sum :=
    Expr.diceCount_eq_sum fun pool member => Int.le_trans Int.one_nonneg (real pool member).1
  have rolled := within.dice
  exact {
    drawn := ⟨effect.draws, does.supply within.lost, rolls, within.sides⟩
    advanced := size ▸ Source.skip_of_falls (does.supply within.lost)
    diceRolled := dice.trans size.symm
    limited := by
      have rerolled := within.rerolls
      have most : effect.draws.length ≤ e.diceCount * (1 + limit.toNat) := by
        rw [Nat.mul_add, Nat.mul_one]
        omega
      rw [dice, ← count, ← Int.toNat_of_nonneg natural]
      exact_mod_cast most
    returned := by
      intro value done
      have ended : faultOf (e.evaluate limit trace).1 = none := congrArg faultOf done
      have whole := (full ended).dice
      rw [nodes, dice, rerolls, ← count, Expr.nodeCount_eq_size]
      exact ⟨(full ended).nodes, by omega⟩
    failed := by
      intro fault failed
      rw [nodes, dice, rerolls, ← count, Expr.nodeCount_eq_size]
      exact ⟨within.nodes, by omega⟩ }

namespace Session

inductive Call
  | plain (e : Expr)
  | timed (e : Expr)

def Call.expr : Call → Expr
  | plain e => e
  | timed e => e

def answer : Call → Session → Except RollFault Int × Session
  | .plain e, session => session.evaluate e
  | .timed e, session =>
    let (result, left) := session.evaluateTimed e
    (result.map Prod.fst, left)

def after (calls : List Call) (session : Session) : Session :=
  calls.foldl (fun session call => (session.answer call).2) session

theorem answer_eq (call : Call) (session : Session) :
    (session.answer call).1 = (call.expr.evaluate session.rerollLimit session.trace).1 ∧
      (session.answer call).2.trace =
        (call.expr.evaluate session.rerollLimit session.trace).2 ∧
      (session.answer call).2.rerollLimit = session.rerollLimit := by
  cases call with
  | plain e => exact ⟨rfl, rfl, rfl⟩
  | timed e =>
    obtain ⟨elapsed, value_eq, trace_eq, limit_eq⟩ := session.evaluateTimed_eq e
    refine ⟨?_, trace_eq, limit_eq⟩
    show (session.evaluateTimed e).1.map Prod.fst =
      (e.evaluate session.rerollLimit session.trace).1
    rw [value_eq]
    cases (e.evaluate session.rerollLimit session.trace).1 with
    | error fault => rfl
    | ok value => rfl

theorem rerollLimit_after (calls : List Call) (session : Session) :
    (session.after calls).rerollLimit = session.rerollLimit := by
  induction calls generalizing session with
  | nil => rfl
  | cons call calls ih =>
    show ((session.answer call).2.after calls).rerollLimit = _
    rw [ih, (answer_eq call session).2.2]

/-- Whatever a session has been asked for before, and whether or not that failed, the next call
    is told of as it was rolled. -/
theorem answer_metered (session : Session) (natural : 0 ≤ session.rerollLimit)
    (calls : List Call) (call : Call)
    (real : ∀ pool ∈ call.expr.pools, 1 ≤ pool.count ∧ 1 ≤ pool.sides ∧
      pool.sides ≤ mostSides) :
    Metered call.expr session.rerollLimit (session.after calls).trace.supply
      ((session.after calls).answer call).1 ((session.after calls).answer call).2.trace := by
  obtain ⟨value_eq, trace_eq, _⟩ := answer_eq call (session.after calls)
  rw [value_eq, trace_eq, rerollLimit_after]
  exact metered_evaluate natural real _

theorem answer_metered_after_failure :
    let e : Expr := .binary .add (.atom (.reroll ⟨2, 2⟩ .exploding ⟨.equal, 2⟩)) (.atom (.number 3))
    let session : Session := ⟨1, none, { supply := .twosThenOnes 3 0 }, ⟨fun _ => 0, 0⟩, #[]⟩
    let between := session.after [.plain e]
    (session.answer (.plain e)).1 = .error (.rerollsExhausted 1) ∧
      (between.answer (.plain e)).1 = .ok 7 ∧
      (between.answer (.plain e)).2.trace.rolls.toList = [2, 1, 1] ∧
      Metered e 1 between.trace.supply (between.answer (.plain e)).1
        (between.answer (.plain e)).2.trace := by
  intro e session between
  have real : ∀ pool ∈ e.pools, 1 ≤ pool.count ∧ 1 ≤ pool.sides ∧ pool.sides ≤ mostSides := by
    decide
  exact ⟨by decide +kernel, by decide +kernel, by decide +kernel,
    answer_metered session (by decide) [.plain e] (.plain e) real⟩

end Session

end DiceFormula
