import DiceFormula.Proofs.Expr.RoundTrip
import DiceFormula.Proofs.Roll.Containment
import DiceFormula.Proofs.Roll.Overshoot
import DiceFormula.Proofs.Roller.Outcome

namespace DiceFormula

namespace Roller

variable {roller after : Roller} {text : String} {given : Option Source} {e : Expr}

def rolled (e : Expr) (given : Option Source) (roller : Roller) : Except RollFault Int :=
  (e.evaluate roller.settings.maxRerolls (roller.session given none).trace).1

theorem run_evaluate_session (e : Expr) (given : Option Source) (roller : Roller) :
    ∃ left trace, (runSession given none (Session.evaluate e)).run roller =
      (((roller.rolled e given).map (·, trace)).mapError .roll, left) :=
  ⟨_, _, rfl⟩

theorem evaluate_of_parsed (given : Option Source)
    (parsed : (parse text none).run roller = (.ok e, after)) :
    ((evaluate text given).run roller).1 =
      match after.rolled e given with
      | .error fault => .error (.roll fault)
      | .ok value => .ok value := by
  obtain ⟨left, trace, ran⟩ := run_evaluate_session e given after
  rw [evaluate, run_bind, parsed]
  dsimp only
  rw [run_bind, ran]
  cases after.rolled e given with
  | error fault => rfl
  | ok value => rfl

theorem detailedValue_of_parsed (given : Option Source)
    (parsed : (parse text none).run roller = (.ok e, after)) :
    ((evaluateDetailed text given).run roller).1.map Outcome.value =
      match after.rolled e given, e.bounds after.settings.explodeMultiplier with
      | .error fault, _ => .error (.roll fault)
      | .ok _, .error fault => .error (.roll fault)
      | .ok value, .ok _ => .ok value := by
  obtain ⟨elapsed, detailed⟩ := evaluateDetailed_of_parsed given parsed
  have same : (after.rolling e given none).1 = after.rolled e given := rfl
  rw [detailed, conclude, same]
  cases after.rolled e given with
  | error fault => rfl
  | ok value =>
    cases e.bounds after.settings.explodeMultiplier with
    | error fault => rfl
    | ok bounds => rfl

/-- The detailed evaluation gives the value of the plain one, or its fault. -/
def Agrees (roller : Roller) (text : String) (given : Option Source) : Prop :=
  ((evaluateDetailed text given).run roller).1.map Outcome.value =
    ((evaluate text given).run roller).1

/-- The text rolls a value, though its bounds claim that it divides by zero whatever is rolled. -/
def Misjudges (roller : Roller) (text : String) (given : Option Source) : Prop :=
  ∃ e value, Expr.ofText roller.lengthLimit text = .ok e ∧
    ((evaluate text given).run roller).1 = .ok value ∧
    e.bounds roller.settings.explodeMultiplier = .error .divisorAlwaysZero

theorem rolled_mem_bounds {value : Int} (canonical : e.CanonicalNodes)
    (done : roller.rolled e given = .ok value)
    (ceiling : (∀ a ∈ e.atoms, a.explodes = false) ∨
      roller.settings.maxRerolls < roller.settings.explodeMultiplier) :
    ∃ bounds, e.bounds roller.settings.explodeMultiplier = .ok bounds ∧ value ∈ bounds := by
  have real : ∀ pool ∈ e.pools, 1 ≤ pool.count ∧ 1 ≤ pool.sides := fun pool member =>
    ⟨(canonical.pools pool member).1.1, (canonical.pools pool member).2.1⟩
  have fair : ∀ pool ∈ e.pools,
      Supply.Fair (roller.session given none).trace.supply pool.sides := by
    intro pool member
    have most := (canonical.pools pool member).2.2
    exact Source.fair _ (real pool member).2 (Int.le_trans most mostSides_le_significandLimit)
  have positive := roller.settings.explodeMultiplier_pos
  refine evaluate_mem_bounds real fair (by omega) ?_ done
  rcases ceiling with quiet | capped
  · exact .inl quiet
  · exact .inr (by omega)

theorem evaluations_of_fault {fault : Fault} (given : Option Source)
    (failed : (parse text none).run roller = (.error fault, after)) :
    ((evaluate text given).run roller).1 = .error fault ∧
      ((evaluateDetailed text given).run roller).1 = .error fault := by
  rw [evaluate, evaluateDetailed, run_bind, run_bind, failed]
  exact ⟨rfl, rfl⟩

theorem explodes_of_unbounded {value : Int} (canonical : e.CanonicalNodes)
    (done : roller.rolled e given = .ok value)
    (unbounded : e.bounds roller.settings.explodeMultiplier = .error .divisorAlwaysZero) :
    (∃ a ∈ e.atoms, a.explodes = true) ∧
      roller.settings.explodeMultiplier ≤ roller.settings.maxRerolls := by
  have often : ¬((∀ a ∈ e.atoms, a.explodes = false) ∨
      roller.settings.maxRerolls < roller.settings.explodeMultiplier) := by
    intro ceiling
    obtain ⟨bounds, exist, _⟩ := rolled_mem_bounds canonical done ceiling
    rw [unbounded] at exist
    cases exist
  simp only [not_or, Nat.not_lt, not_forall, Bool.not_eq_false] at often
  obtain ⟨⟨a, among, explodes⟩, limits⟩ := often
  exact ⟨⟨a, among, explodes⟩, limits⟩

theorem misjudges_iff_of_parsed (given : Option Source)
    (parsed : (parse text none).run roller = (.ok e, after))
    (read : Expr.ofText roller.lengthLimit text = .ok e)
    (settled : after.settings = roller.settings) :
    roller.Misjudges text given ↔
      (∃ value, after.rolled e given = .ok value) ∧
        e.bounds after.settings.explodeMultiplier = .error .divisorAlwaysZero := by
  rw [Misjudges, evaluate_of_parsed given parsed, settled]
  constructor
  · rintro ⟨other, value, again, done, unbounded⟩
    rw [read] at again
    cases again
    refine ⟨⟨value, ?_⟩, unbounded⟩
    cases result : after.rolled e given with
    | error fault =>
      rw [result] at done
      cases done
    | ok other =>
      rw [result] at done
      cases done
      rfl
  · rintro ⟨⟨value, done⟩, unbounded⟩
    refine ⟨e, value, read, ?_, unbounded⟩
    rw [done]

theorem agrees_iff_not_misjudges (reachable : roller.Reachable) (text : String)
    (given : Option Source) :
    (roller.Agrees text given ↔ ¬roller.Misjudges text given) ∧
    (roller.Misjudges text given →
      ((evaluateDetailed text given).run roller).1 = .error (.roll .divisorAlwaysZero) ∧
      ∃ e, Expr.ofText roller.lengthLimit text = .ok e ∧ (∃ a ∈ e.atoms, a.explodes = true) ∧
        roller.settings.explodeMultiplier ≤ roller.settings.maxRerolls) := by
  obtain ⟨sound, reads⟩ := keeps_parseAfresh text roller reachable.sound
  rw [Agrees]
  cases parsed : (parse text none).run roller with
  | mk result after =>
    rw [parsed] at sound reads
    cases result with
    | error fault =>
      obtain ⟨plain, detailed⟩ := evaluations_of_fault given parsed
      have judged : ¬roller.Misjudges text given := by
        rintro ⟨e, value, _, done, _⟩
        rw [plain] at done
        cases done
      rw [plain, detailed]
      exact ⟨⟨fun _ => judged, fun _ => rfl⟩, fun misjudged => absurd misjudged judged⟩
    | ok e =>
      have read := reads e rfl
      have canonical := (canonical_of_ofText read).nodes
      have plain := evaluate_of_parsed given parsed
      have detailed := detailedValue_of_parsed given parsed
      rw [misjudges_iff_of_parsed given parsed read sound.settled, plain, detailed]
      cases done : after.rolled e given with
      | error fault => simp
      | ok value =>
        cases bounded : e.bounds after.settings.explodeMultiplier with
        | ok bounds => simp
        | error fault =>
          have same := canonical.bounds_fault bounded
          subst same
          obtain ⟨explodes, often⟩ := explodes_of_unbounded canonical done bounded
          rw [sound.settled] at often
          refine ⟨by simp, fun _ => ⟨?_, e, read, explodes, often⟩⟩
          rw [done, bounded] at detailed
          exact error_of_map detailed

theorem rolled_overshooting {multiplier : Nat} (roller : Roller)
    (allowed : multiplier ≤ roller.settings.maxRerolls) :
    roller.rolled (.overshooting multiplier) (some (.twosThenOnes multiplier 0)) = .ok 1 := by
  let session := roller.session (some (.twosThenOnes multiplier 0)) none
  have falls := (Source.deals_twosThenOnes multiplier).falls (multiplier + 1)
  obtain ⟨done, _⟩ := (Expr.takes_overshooting (Int.ofNat_le.mpr allowed)).run_eq_ok
    session.trace.restart (fun _ => rfl) falls
  exact done

theorem misjudges_overshooting (reachable : roller.Reachable)
    (often : roller.settings.explodeMultiplier ≤ roller.settings.maxRerolls)
    (short : (toString (2 * (roller.settings.explodeMultiplier : Int) + 1)).length ≤
      Text.longestNumeral)
    (room : (toString (2 * (roller.settings.explodeMultiplier : Int) + 1)).length + 14 ≤
      roller.settings.maxExpressionLength) :
    roller.Misjudges (Expr.overshooting roller.settings.explodeMultiplier).render
      (some (.twosThenOnes roller.settings.explodeMultiplier 0)) := by
  have positive := roller.settings.explodeMultiplier_pos
  generalize same : roller.settings.explodeMultiplier = multiplier at *
  have fits : ((Expr.overshooting multiplier).render.length : Int) ≤ roller.lengthLimit := by
    rw [Expr.length_render_overshooting]
    exact Int.ofNat_le.mpr room
  have read := ofText_render (Expr.canonical_overshooting short) fits
  refine ⟨_, 1, read, ?_, by rw [same]; exact Expr.bounds_overshooting positive⟩
  let text := (Expr.overshooting multiplier).render
  obtain ⟨sound, _⟩ := keeps_parseAfresh text roller reachable.sound
  have given : ((parse text none).run roller).1 = _ := reachable.sound.parse_eq text (by simp)
  cases parsed : (parse text none).run roller with
  | mk result after =>
    rw [parsed] at sound given
    have result_eq : result = .ok (Expr.overshooting multiplier) := given.trans read
    subst result_eq
    have allowed : multiplier ≤ after.settings.maxRerolls := by rw [sound.settled]; exact often
    rw [evaluate_of_parsed _ parsed, rolled_overshooting after allowed]

/-- The two evaluations agree unless the bounds misjudge the text, of which some dice explode beyond
    their bounds then. With room for such a text, they agree on all texts just where no die may be
    rerolled as often as the multiplier has it. -/
theorem evaluateDetailed_agrees_iff (roller : Roller) (reachable : roller.Reachable) :
    (∀ text given, roller.Agrees text given ↔ ¬roller.Misjudges text given) ∧
    (∀ text given, roller.Misjudges text given →
      ((evaluateDetailed text given).run roller).1 = .error (.roll .divisorAlwaysZero) ∧
      ∃ e, Expr.ofText roller.lengthLimit text = .ok e ∧ (∃ a ∈ e.atoms, a.explodes = true) ∧
        roller.settings.explodeMultiplier ≤ roller.settings.maxRerolls) ∧
    ((toString (2 * (roller.settings.explodeMultiplier : Int) + 1)).length ≤ Text.longestNumeral →
      (toString (2 * (roller.settings.explodeMultiplier : Int) + 1)).length + 14 ≤
        roller.settings.maxExpressionLength →
      ((∀ text given, roller.Agrees text given) ↔
        roller.settings.maxRerolls < roller.settings.explodeMultiplier)) := by
  refine ⟨fun text given => (agrees_iff_not_misjudges reachable text given).1,
    fun text given => (agrees_iff_not_misjudges reachable text given).2, fun short room => ?_⟩
  constructor
  · intro agrees
    by_contra often
    have misjudged := misjudges_overshooting reachable (Nat.not_lt.mp often) short room
    exact (agrees_iff_not_misjudges reachable _ _).1.mp (agrees _ _) misjudged
  · intro seldom text given
    obtain ⟨agrees_iff, beyond⟩ := agrees_iff_not_misjudges reachable text given
    refine agrees_iff.mpr fun misjudged => ?_
    obtain ⟨_, _, _, _, often⟩ := beyond misjudged
    exact Nat.not_le.mpr seldom often

/-- Six twos and a one make thirteen, but twelve is the most that the bounds allow for. -/
theorem evaluateDetailed_fails_at_thirteen :
    let source := Source.twosThenOnes 6 0
    let roller := create {} {} none source ⟨fun _ => 0, 0⟩
    roller.Reachable ∧ ((evaluate "1/(1d2r2/13)" (some source)).run roller).1 = .ok 1 ∧
      ((evaluateDetailed "1/(1d2r2/13)" (some source)).run roller).1.map Outcome.value =
        .error (.roll .divisorAlwaysZero) := by
  intro source roller
  exact ⟨.create _ _ _ _ _, by decide +kernel, by decide +kernel⟩

theorem evaluateDetailed_agrees_at_twelve :
    let source := Source.twosThenOnes 6 0
    let roller := create {} {} none source ⟨fun _ => 0, 0⟩
    roller.Reachable ∧
      ((evaluateDetailed "1/(1d2r2/12)" (some source)).run roller).1.map Outcome.value = .ok 1 ∧
      ¬∀ text given, roller.Agrees text given := by
  intro source roller
  have reachable : roller.Reachable := .create _ _ _ _ _
  have plain : ((evaluate "1/(1d2r2/12)" (some source)).run roller).1 = .ok 1 := by decide +kernel
  have judged : ¬roller.Misjudges "1/(1d2r2/12)" (some source) := by
    rintro ⟨e, value, read, _, unbounded⟩
    have bounded : (Expr.ofText roller.lengthLimit "1/(1d2r2/12)" >>= fun e =>
        (e.bounds roller.settings.explodeMultiplier).mapError Fault.roll) = .ok ⟨1, 1⟩ := by
      decide +kernel
    rw [read] at bounded
    change (e.bounds roller.settings.explodeMultiplier).mapError Fault.roll = _ at bounded
    rw [unbounded] at bounded
    cases bounded
  obtain ⟨agrees_iff, _, always_iff⟩ := evaluateDetailed_agrees_iff roller reachable
  have agrees := (agrees_iff "1/(1d2r2/12)" (some source)).mpr judged
  have often : ¬roller.settings.maxRerolls < roller.settings.explodeMultiplier := by decide
  exact ⟨reachable, agrees.trans plain,
    fun always => often ((always_iff (by decide +kernel) (by decide +kernel)).mp always)⟩

end Roller

end DiceFormula
