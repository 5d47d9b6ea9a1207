import DiceFormula.Proofs.Expr.Parts
import DiceFormula.Proofs.Lockstep
import DiceFormula.Proofs.Roll.Recursion
import DiceFormula.Roller.Evaluate

namespace DiceFormula

variable {σ τ : Type}

theorem run_tryNote_some {record : Recorder → Except RollFault Recorder} {trace : Trace σ}
    {recorder : Recorder} (kept : trace.recorder = some recorder) :
    (Rolling.tryNote record).run trace =
      match record recorder with
      | .ok later => (.ok (), { trace with recorder := some later })
      | .error fault => (.error fault, trace) := by
  rw [Rolling.tryNote, run_bind, run_get]
  dsimp only
  rw [kept]
  dsimp only
  cases record recorder with
  | error fault => rfl
  | ok later => rfl

theorem run_tryNote_none {record : Recorder → Except RollFault Recorder} {trace : Trace σ}
    (quiet : trace.recorder = none) : (Rolling.tryNote record).run trace = (.ok (), trace) := by
  rw [Rolling.tryNote, run_bind, run_get]
  dsimp only
  rw [quiet]
  rfl

structure Trace.Alike (supplies : σ → τ → Prop)
    (accounts : Option Recorder → Option Recorder → Prop) (one : Trace σ) (two : Trace τ) :
    Prop where
  supply : supplies one.supply two.supply
  account : accounts one.recorder two.recorder
  rolls : one.rolls = two.rolls
  metrics : one.metrics = two.metrics

namespace Trace.Alike

variable {supplies : σ → τ → Prop} {accounts : Option Recorder → Option Recorder → Prop}
  {one : Trace σ} {two : Trace τ}

theorem countNodes (alike : one.Alike supplies accounts two) (count : Nat) :
    (one.countNodes count).Alike supplies accounts (two.countNodes count) := by
  refine ⟨alike.supply, alike.account, alike.rolls, ?_⟩
  rw [Trace.countNodes, Trace.countNodes, alike.metrics]

theorem countReroll (alike : one.Alike supplies accounts two) :
    one.countReroll.Alike supplies accounts two.countReroll := by
  refine ⟨alike.supply, alike.account, alike.rolls, ?_⟩
  rw [Trace.countReroll, Trace.countReroll, alike.metrics]

theorem note (alike : one.Alike supplies accounts two) {record : Recorder → Recorder}
    (noted : ∀ first second, accounts first second →
      accounts (first.map record) (second.map record)) :
    (one.note record).Alike supplies accounts (two.note record) :=
  ⟨alike.supply, noted _ _ alike.account, alike.rolls, alike.metrics⟩

end Trace.Alike

abbrev Trace.SameFaces (supplies : σ → τ → Prop) : Trace σ → Trace τ → Prop :=
  Trace.Alike supplies Eq

theorem sameFaces_tryNote {supplies : σ → τ → Prop}
    (record : Recorder → Except RollFault Recorder) :
    Lockstep (Trace.SameFaces supplies) (Rolling.tryNote record : Rolling σ Unit)
      (Rolling.tryNote record : Rolling τ Unit) := by
  intro one two alike
  have same := alike.account
  cases kept : two.recorder with
  | none =>
    rw [run_tryNote_none kept, run_tryNote_none (same.trans kept)]
    exact ⟨rfl, alike⟩
  | some recorder =>
    rw [run_tryNote_some kept, run_tryNote_some (same.trans kept)]
    cases record recorder with
    | error fault => exact ⟨rfl, alike⟩
    | ok later => exact ⟨rfl, alike.supply, rfl, alike.rolls, alike.metrics⟩

variable [Supply σ] [Supply τ]

/-- Two evaluations that belong together still do so after anything that rolling dice consists of,
    as long as the dice have such numbers of sides. -/
structure Trace.Simulated (sides : Int → Prop) (related : Trace σ → Trace τ → Prop) : Prop where
  die : ∀ count, sides count →
    Lockstep related (Rolling.die count : Rolling σ Int) (Rolling.die count : Rolling τ Int)
  countReroll : ∀ one two, related one two → related one.countReroll two.countReroll
  noteTerm : ∀ kind : StepKind, kind.isTerm = true → ∀ description value details rolls a,
    let record : Recorder → Recorder := fun recorder =>
      recorder.add kind description value (recorder.whenDetailed details) (some rolls)
        (some (.atom a))
    Lockstep related (Rolling.note record : Rolling σ Unit) (Rolling.note record : Rolling τ Unit)

namespace Trace.Simulated

variable {sides : Int → Prop} {related : Trace σ → Trace τ → Prop} {count : Int}

theorem rollDice (simulated : Simulated sides related) (known : sides count)
    (rolled : Array Int) (remaining : Nat) :
    Lockstep related (DiceFormula.rollDice count rolled remaining : Rolling σ (Array Int))
      (DiceFormula.rollDice count rolled remaining : Rolling τ (Array Int)) := by
  induction remaining generalizing rolled with
  | zero => exact .pure rolled
  | succ remaining ih => exact .bind (simulated.die count known) fun face => ih (rolled.push face)

theorem reroll (simulated : Simulated sides related) (known : sides count) (limit : Int)
    (kind : RerollKind) (check : Check) (face worth : Int) (faces : Array Int) (allowance : Nat) :
    Lockstep related
      (DiceFormula.reroll limit count kind check face worth faces allowance : Rolling σ Settled)
      (DiceFormula.reroll limit count kind check face worth faces allowance :
        Rolling τ Settled) := by
  induction allowance generalizing face worth faces with
  | zero =>
    rw [DiceFormula.reroll, DiceFormula.reroll]
    refine .bind (.ofExcept _) fun passes => ?_
    cases passes with
    | false => exact .pure _
    | true => exact .throw _
  | succ allowance ih =>
    rw [DiceFormula.reroll, DiceFormula.reroll]
    refine .bind (.ofExcept _) fun passes => ?_
    cases passes with
    | false => exact .pure _
    | true =>
      apply Lockstep.bind (simulated.die count known)
      intro next
      refine Lockstep.bind (.modify simulated.countReroll) fun _ => ?_
      dsimp only
      split
      · exact .pure _
      · exact ih next _ _

theorem rollGroup (simulated : Simulated sides related) (known : sides count) (limit : Int)
    (kind : RerollKind) (check : Check) (group : SettledGroup) (remaining : Nat) :
    Lockstep related
      (DiceFormula.rollGroup limit count kind check group remaining : Rolling σ SettledGroup)
      (DiceFormula.rollGroup limit count kind check group remaining :
        Rolling τ SettledGroup) := by
  induction remaining generalizing group with
  | zero => exact .pure group
  | succ remaining ih =>
    have first : Lockstep related (rollSettled limit count kind check : Rolling σ Settled)
        (rollSettled limit count kind check : Rolling τ Settled) :=
      .bind (simulated.die count known) fun face =>
        simulated.reroll known limit kind check face face _ _
    exact .bind first fun die => ih (group.add die)

theorem atom (simulated : Simulated sides related) (limit : Int) {a : Atom}
    (known : ∀ pool, a.pool? = some pool → sides pool.sides) :
    Lockstep related (a.roll limit : Rolling σ Int) (a.roll limit : Rolling τ Int) := by
  cases a with
  | number value => exact .pure value
  | dice pool =>
    refine .bind (simulated.rollDice (known pool rfl) _ _) fun _ => ?_
    exact .bind (simulated.noteTerm _ rfl _ _ _ _ _) fun _ => .pure _
  | conditional pool check =>
    refine .bind (simulated.rollDice (known pool rfl) _ _) fun _ => ?_
    refine .bind (.ofExcept _) fun _ => ?_
    exact .bind (simulated.noteTerm _ rfl _ _ _ _ _) fun _ => .pure _
  | reroll pool kind check =>
    refine .bind (simulated.rollGroup (known pool rfl) _ _ _ _ _) fun _ => ?_
    exact .bind (simulated.noteTerm _ rfl _ _ _ _ _) fun _ => .pure _

end Trace.Simulated

theorem Expr.activity_atom (a : Atom) : ∃ activity, (atom a).activity = .ok activity := by
  cases a with
  | _ => exact ⟨_, rfl⟩

theorem Expr.activity_of_apply {operator : Operator} {leftValue rightValue value : Int}
    (applied : operator.apply leftValue rightValue = .ok value) (left right : Expr) :
    ∃ activity, (binary operator left right).activity = .ok activity := by
  cases operator with
  | other symbol => cases applied
  | _ => exact ⟨_, rfl⟩

structure Trace.Followed (sides : Int → Prop) (related : Trace σ → Trace τ → Prop) : Prop
    extends Trace.Simulated sides related where
  countNodes : ∀ one two, related one two → related (one.countNodes 1) (two.countNodes 1)
  noteGroup : ∀ value,
    Lockstep related (Rolling.note fun recorder => recorder.noteGroup value : Rolling σ Unit)
      (Rolling.note fun recorder => recorder.noteGroup value : Rolling τ Unit)
  noteNode : ∀ e activity, e.activity = .ok activity → ∀ value,
    Lockstep related (Rolling.noteNode e value : Rolling σ Unit)
      (Rolling.noteNode e value : Rolling τ Unit)
  noteOperation : ∀ operator left right value,
    Lockstep related (Rolling.noteOperation operator left right value : Rolling σ Unit)
      (Rolling.noteOperation operator left right value : Rolling τ Unit)

theorem Trace.Followed.roll {sides : Int → Prop} {related : Trace σ → Trace τ → Prop}
    (followed : Trace.Followed sides related) (limit : Int) (e : Expr)
    (known : ∀ pool ∈ e.pools, sides pool.sides) :
    Lockstep related (e.roll limit : Rolling σ Int) (e.roll limit : Rolling τ Int) := by
  have counts : Lockstep related (modify (Trace.countNodes 1) : Rolling σ PUnit)
      (modify (Trace.countNodes 1) : Rolling τ PUnit) := .modify followed.countNodes
  induction e with
  | atom a =>
    rw [Expr.roll, Expr.roll]
    refine counts.bind fun _ => ?_
    obtain ⟨activity, described⟩ := Expr.activity_atom a
    refine .bind (followed.atom limit fun pool has => known pool (Expr.mem_pools_atom has))
      fun value => ?_
    exact .bind (followed.noteNode _ activity described _) fun _ => .pure value
  | group inner ih =>
    rw [Expr.roll, Expr.roll]
    refine counts.bind fun _ => .bind (ih known) fun value => ?_
    refine .bind (followed.noteGroup value) fun _ => ?_
    exact .bind (followed.noteNode _ _ rfl _) fun _ => .pure value
  | binary operator left right leftIh rightIh =>
    rw [Expr.pools_binary, List.forall_mem_append] at known
    rw [Expr.roll_binary, Expr.roll_binary]
    refine counts.bind fun _ => .bind (leftIh known.1) fun leftValue => ?_
    refine .bind (rightIh known.2) fun rightValue => ?_
    have carriedOut : ∀ one two, related one two → ∀ value,
        ((Rolling.ofExcept (operator.apply leftValue rightValue) : Rolling σ Int).run one).1 =
          .ok value → operator.apply leftValue rightValue = .ok value :=
      fun _ _ _ _ applied => applied
    refine .bind_of_good (.ofExcept _) carriedOut fun value applied => ?_
    obtain ⟨activity, described⟩ := Expr.activity_of_apply applied left right
    refine .bind (followed.noteOperation _ _ _ _) fun _ => ?_
    exact .bind (followed.noteNode _ activity described _) fun _ => .pure value

/-- Dice with such numbers of sides fall alike now, and what is left of the supplies still belongs
    together. -/
def Supply.Agree (sides : Int → Prop) (supplies : σ → τ → Prop) : Prop :=
  ∀ count, sides count → ∀ one two, supplies one two →
    (Supply.rollDie count one).1 = (Supply.rollDie count two).1 ∧
      supplies (Supply.rollDie count one).2 (Supply.rollDie count two).2

theorem agree_self : Supply.Agree (fun _ => True) (Eq : σ → σ → Prop) := by
  rintro _ _ supply _ rfl
  exact ⟨rfl, rfl⟩

namespace Trace.Alike

variable {supplies : σ → τ → Prop} {accounts : Option Recorder → Option Recorder → Prop}
  {one : Trace σ} {two : Trace τ}

theorem rollDie (alike : one.Alike supplies accounts two) {sides : Int → Prop}
    (agree : Supply.Agree sides supplies) {count : Int} (known : sides count) :
    (one.rollDie count).1 = (two.rollDie count).1 ∧
      (one.rollDie count).2.Alike supplies accounts (two.rollDie count).2 := by
  obtain ⟨same, left⟩ := agree count known one.supply two.supply alike.supply
  unfold Trace.rollDie
  cases first : Supply.rollDie count one.supply with
  | mk result supply =>
    cases second : Supply.rollDie count two.supply with
    | mk other rest =>
      rw [first, second] at same left
      dsimp only at same
      subst same
      cases result with
      | error fault => exact ⟨rfl, left, alike.account, alike.rolls, alike.metrics⟩
      | ok face =>
        refine ⟨rfl, left, alike.account, congrArg (·.push face) alike.rolls, ?_⟩
        dsimp only [addRoll]
        rw [alike.metrics]

theorem simulated {sides : Int → Prop} (agree : Supply.Agree sides supplies)
    (noted : ∀ (record : Recorder → Recorder) first second, accounts first second →
      accounts (first.map record) (second.map record)) :
    Trace.Simulated sides (Alike supplies accounts) where
  die _ known := fun _ _ alike => alike.rollDie agree known
  countReroll _ _ alike := alike.countReroll
  noteTerm _ _ _ _ _ _ _ := .modify fun _ _ alike => alike.note (noted _)

end Trace.Alike

theorem followed_sameFaces {sides : Int → Prop} {supplies : σ → τ → Prop}
    (agree : Supply.Agree sides supplies) :
    Trace.Followed sides (Trace.SameFaces supplies : Trace σ → Trace τ → Prop) :=
  have noted (record : Recorder → Recorder) (first second : Option Recorder)
      (same : first = second) : first.map record = second.map record :=
    congrArg (Option.map record) same
  { Trace.Alike.simulated agree noted with
    countNodes := fun _ _ alike => alike.countNodes 1
    noteGroup := fun _ => .modify fun _ _ alike => alike.note (noted _)
    noteNode := fun _ _ _ _ => sameFaces_tryNote _
    noteOperation := fun _ _ _ _ => sameFaces_tryNote _ }

theorem sameFaces_evaluate {sides : Int → Prop} {supplies : σ → τ → Prop}
    (agree : Supply.Agree sides supplies) (limit : Int) {e : Expr}
    (known : ∀ pool ∈ e.pools, sides pool.sides) {one : Trace σ} {two : Trace τ}
    (supply : supplies one.supply two.supply) (recorder : one.recorder = two.recorder) :
    (e.evaluate limit one).1 = (e.evaluate limit two).1 ∧
      (e.evaluate limit one).2.SameFaces supplies (e.evaluate limit two).2 :=
  (followed_sameFaces agree).roll limit e known one.restart two.restart
    ⟨supply, recorder, rfl, rfl⟩

end DiceFormula
