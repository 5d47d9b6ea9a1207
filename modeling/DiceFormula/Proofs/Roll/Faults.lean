import DiceFormula.Proofs.Expr.Canonical
import DiceFormula.Proofs.Roll.Fair
import DiceFormula.Proofs.Roll.Simulation

namespace DiceFormula

inductive RollFault.Expected (limit : Int) : RollFault → Prop
  | divisionByZero (dividend : Int) : Expected limit (.divisionByZero dividend)
  | rerollsExhausted : Expected limit (.rerollsExhausted limit)

abbrev Rolling.FailsAsExpected {σ : Type} (limit : Int) (work : Rolling σ α) : Prop :=
  FailsOnly (fun trace => trace.recorder = none) (RollFault.Expected limit) work

variable {σ : Type} {limit sides : Int}

theorem Comparison.holds_of_spelled {comparison : Comparison}
    (spelled : comparison ∈ Comparison.spelled) (value threshold : Int) :
    ∃ passes, comparison.holds value threshold = .ok passes := by
  cases comparison with
  | other symbol => simp [Comparison.spelled, Comparison.simple] at spelled
  | _ => exact ⟨_, rfl⟩

theorem Operator.fault_of_apply {operator : Operator} {left right : Int} {fault : RollFault}
    (known : operator.isAdditive = true ∨ operator.isMultiplicative = true)
    (failed : operator.apply left right = .error fault) : fault = .divisionByZero left := by
  cases operator with
  | divide =>
    rw [apply] at failed
    split at failed
    all_goals cases failed
    rfl
  | other symbol => rcases known with sign | sign <;> cases sign
  | _ => cases failed

theorem fails_tryNote (record : Recorder → Except RollFault Recorder) :
    Rolling.FailsAsExpected limit (Rolling.tryNote record : Rolling σ Unit) := by
  intro trace quiet
  rw [run_tryNote_none quiet]
  exact ⟨quiet, fun _ failed => nomatch failed⟩

theorem fails_note (record : Recorder → Recorder) :
    Rolling.FailsAsExpected limit (Rolling.note record : Rolling σ Unit) := by
  refine .modify fun trace quiet => ?_
  rw [Trace.note, quiet]
  rfl

theorem countPassing_of_spelled {check : Check}
    (spelled : check.comparison ∈ Comparison.spelled) (passed : Nat) (faces : List Int) :
    ∃ count, countPassing check passed faces = .ok count := by
  induction faces generalizing passed with
  | nil => exact ⟨passed, rfl⟩
  | cons face rest ih =>
    obtain ⟨passes, held⟩ := Comparison.holds_of_spelled spelled face check.threshold
    obtain ⟨count, counted⟩ := ih (if passes then passed + 1 else passed)
    refine ⟨count, ?_⟩
    rw [countPassing, Check.holds, held]
    exact counted

variable [Supply σ]

theorem fails_die (shows : Supply.Shows σ sides) :
    Rolling.FailsAsExpected limit (Rolling.die sides : Rolling σ Int) := by
  intro trace quiet
  obtain ⟨face, shown⟩ := shows trace.supply
  show (Trace.rollDie sides trace).2.recorder = none ∧
    ∀ fault, (Trace.rollDie sides trace).1 = .error fault → _
  unfold Trace.rollDie
  cases drawn : Supply.rollDie sides trace.supply with
  | mk result supply =>
    rw [drawn] at shown
    cases shown
    exact ⟨quiet, fun _ failed => nomatch failed⟩

theorem fails_rollDice (shows : Supply.Shows σ sides) (rolled : Array Int) (count : Nat) :
    Rolling.FailsAsExpected limit (rollDice sides rolled count : Rolling σ (Array Int)) := by
  induction count generalizing rolled with
  | zero => exact .pure rolled
  | succ count ih => exact .bind (fails_die shows) fun face => ih (rolled.push face)

theorem fails_reroll {kind : RerollKind} {check : Check} (shows : Supply.Shows σ sides)
    (spelled : check.comparison ∈ Comparison.spelled) (face worth : Int) (faces : Array Int)
    (allowance : Nat) :
    Rolling.FailsAsExpected limit
      (reroll limit sides kind check face worth faces allowance : Rolling σ Settled) := by
  have held (face : Int) :
      Rolling.FailsAsExpected limit (Rolling.ofExcept (check.holds face) : Rolling σ Bool) := by
    refine .ofExcept fun fault failed => ?_
    obtain ⟨passes, holds⟩ := Comparison.holds_of_spelled spelled face check.threshold
    rw [Check.holds, holds] at failed
    cases failed
  induction allowance generalizing face worth faces with
  | zero =>
    rw [reroll]
    refine .bind (held face) fun passes => ?_
    cases passes with
    | false => exact .pure _
    | true => exact .throw .rerollsExhausted
  | succ allowance ih =>
    rw [reroll]
    refine .bind (held face) fun passes => ?_
    cases passes with
    | false => exact .pure _
    | true =>
      apply FailsOnly.bind (fails_die shows)
      intro next
      refine FailsOnly.bind (.modify fun _ quiet => quiet) fun _ => ?_
      dsimp only
      split
      · exact .pure _
      · exact ih next _ _

theorem fails_rollGroup {kind : RerollKind} {check : Check} (shows : Supply.Shows σ sides)
    (spelled : check.comparison ∈ Comparison.spelled) (group : SettledGroup) (count : Nat) :
    Rolling.FailsAsExpected limit
      (rollGroup limit sides kind check group count : Rolling σ SettledGroup) := by
  induction count generalizing group with
  | zero => exact .pure group
  | succ count ih =>
    have first : Rolling.FailsAsExpected limit
        (rollSettled limit sides kind check : Rolling σ Settled) :=
      .bind (fails_die shows) fun face => fails_reroll shows spelled face face _ _
    exact .bind first fun die => ih (group.add die)

theorem fails_atom {a : Atom} (canonical : a.Canonical)
    (shows : ∀ pool, a.pool? = some pool → Supply.Shows σ pool.sides) :
    Rolling.FailsAsExpected limit (a.roll limit : Rolling σ Int) := by
  cases a with
  | number value => exact .pure value
  | dice pool =>
    apply FailsOnly.bind (fails_rollDice (shows pool rfl) #[] _)
    intro rolled
    exact .bind (fails_note _) fun _ => .pure _
  | conditional pool check =>
    apply FailsOnly.bind (fails_rollDice (shows pool rfl) #[] _)
    intro rolled
    obtain ⟨count, counted⟩ := countPassing_of_spelled canonical.2.1 0 rolled.toList
    rw [counted]
    refine .bind (.ofExcept fun _ failed => nomatch failed) fun _ => ?_
    exact .bind (fails_note _) fun _ => .pure _
  | reroll pool kind check =>
    have spelled := List.mem_cons_of_mem Comparison.doubledEqual canonical.2.1
    apply FailsOnly.bind (fails_rollGroup (shows pool rfl) spelled {} _)
    intro group
    exact .bind (fails_note _) fun _ => .pure _

theorem fails_roll {e : Expr} (canonical : e.CanonicalNodes)
    (shows : ∀ pool ∈ e.pools, Supply.Shows σ pool.sides) :
    Rolling.FailsAsExpected limit (e.roll limit : Rolling σ Int) := by
  have counted : Rolling.FailsAsExpected limit
      (modify (Trace.countNodes 1) : Rolling σ PUnit) := .modify fun _ quiet => quiet
  induction e with
  | atom a =>
    rw [Expr.roll]
    refine .bind counted fun _ => .bind (fails_atom canonical fun pool has => ?_) fun value => ?_
    · exact shows pool (Expr.mem_pools_atom has)
    · exact .bind (fails_tryNote _) fun _ => .pure value
  | group inner ih =>
    rw [Expr.roll]
    refine .bind counted fun _ => .bind (ih canonical shows) fun value => ?_
    exact .bind (fails_note _) fun _ => .bind (fails_tryNote _) fun _ => .pure value
  | binary operator left right leftIh rightIh =>
    obtain ⟨shape, leftCanonical, rightCanonical⟩ := canonical
    rw [Expr.pools_binary, List.forall_mem_append] at shows
    have known : operator.isAdditive = true ∨ operator.isMultiplicative = true :=
      shape.imp And.left And.left
    rw [Expr.roll_binary]
    refine .bind counted fun _ => .bind (leftIh leftCanonical shows.1) fun leftValue => ?_
    refine .bind (rightIh rightCanonical shows.2) fun rightValue => ?_
    refine .bind (.ofExcept fun fault failed => ?_) fun value => ?_
    · rw [operator.fault_of_apply known failed]
      exact .divisionByZero leftValue
    · exact .bind (fails_tryNote _) fun _ => .bind (fails_tryNote _) fun _ => .pure value

theorem expected_of_evaluate {e : Expr} (canonical : e.CanonicalNodes) {trace : Trace σ}
    (shows : ∀ pool ∈ e.pools, Supply.Shows σ pool.sides) (quiet : trace.recorder = none)
    {fault : RollFault} (failed : (e.evaluate limit trace).1 = .error fault) :
    fault.Expected limit :=
  (fails_roll canonical shows trace.restart quiet).2 fault failed

end DiceFormula
