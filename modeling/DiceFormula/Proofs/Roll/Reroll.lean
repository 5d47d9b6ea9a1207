import DiceFormula.Proofs.Roll.Containment
import DiceFormula.Proofs.Roll.Dealing
import DiceFormula.Proofs.Roll.Observation
import DiceFormula.Proofs.Roll.Reckoning
import DiceFormula.Proofs.Token.Written

namespace DiceFormula

namespace Check

variable {check : Check} {face : Int} {faces : Stream' Int} {k limit : Nat}

def Met : Check → Int → Prop
  | ⟨.greater, threshold⟩, face => threshold < face
  | ⟨.greaterOrEqual, threshold⟩, face => threshold ≤ face
  | ⟨.less, threshold⟩, face => face < threshold
  | ⟨.lessOrEqual, threshold⟩, face => face ≤ threshold
  | ⟨.equal, threshold⟩, face => face = threshold
  | ⟨.doubledEqual, threshold⟩, face => face = threshold
  | ⟨.other _, _⟩, _ => False

theorem holds_eq_true (met : check.Met face) : check.holds face = .ok true := by
  obtain ⟨comparison, threshold⟩ := check
  cases comparison with
  | other symbol => exact met.elim
  | _ => exact congrArg Except.ok (decide_eq_true met)

theorem holds_eq_false (spelled : check.comparison ∈ Comparison.spelled) (fails : ¬check.Met face) :
    check.holds face = .ok false := by
  obtain ⟨comparison, threshold⟩ := check
  cases comparison with
  | other symbol => simp [Comparison.spelled, Comparison.simple] at spelled
  | _ => exact congrArg Except.ok (decide_eq_false fails)

structure FirstFails (check : Check) (faces : Stream' Int) (k : Nat) : Prop where
  before : ∀ i < k, check.Met (faces.get i)
  fails : ¬check.Met (faces.get k)

theorem FirstFails.tail (first : check.FirstFails faces (k + 1)) :
    check.FirstFails faces.tail k :=
  ⟨fun i less => first.before (i + 1) (Nat.succ_lt_succ less), first.fails⟩

theorem met_of_first_beyond (beyond : ∀ k, check.FirstFails faces k → limit < k) :
    ∀ i ≤ limit, check.Met (faces.get i) := by
  intro i
  induction i using Nat.strongRecOn with
  | ind i ih =>
    intro least
    by_contra fails
    have first : check.FirstFails faces i :=
      ⟨fun j less => ih j less (by omega), fails⟩
    exact absurd (beyond i first) (by omega)

theorem first_or_beyond (check : Check) (faces : Stream' Int) (limit : Nat) :
    (∃ k, check.FirstFails faces k ∧ k ≤ limit) ∨ ∀ k, check.FirstFails faces k → limit < k := by
  by_cases within : ∃ k, check.FirstFails faces k ∧ k ≤ limit
  · exact .inl within
  · exact .inr fun k first => Nat.lt_of_not_le fun least => within ⟨k, first, least⟩

end Check

/-- What becomes of one die that may be rerolled so often and shows these faces: how many of them
    it takes, and what it is worth, if it comes to an end within the limit. -/
inductive DieEnds (limit : Nat) (check : Check) (faces : Stream' Int) :
    RerollKind → Nat → Option Int → Prop
  | exploding {k : Nat} (first : check.FirstFails faces k) (within : k ≤ limit) :
      DieEnds limit check faces .exploding (k + 1) (some (faces.take (k + 1)).sum)
  | recursive {k : Nat} (first : check.FirstFails faces k) (within : k ≤ limit) :
      DieEnds limit check faces .recursive (k + 1) (some (faces.get k))
  | exhausted {kind : RerollKind} (again : kind ≠ .once)
      (beyond : ∀ k, check.FirstFails faces k → limit < k) :
      DieEnds limit check faces kind (limit + 1) none
  | kept (fails : ¬check.Met (faces.get 0)) :
      DieEnds limit check faces .once 1 (some (faces.get 0))
  | replaced (met : check.Met (faces.get 0)) (allowed : 1 ≤ limit) :
      DieEnds limit check faces .once 2 (some (faces.get 1))
  | refused (met : check.Met (faces.get 0)) (forbidden : limit = 0) :
      DieEnds limit check faces .once 1 none

/-- So many dice, each going on where the one before it stopped, with the sum of what they are
    worth. The first that comes to no end is the last. -/
inductive GroupEnds (limit : Nat) (check : Check) (kind : RerollKind) :
    Stream' Int → Nat → Nat → Option Int → Prop
  | nil (faces : Stream' Int) : GroupEnds limit check kind faces 0 0 (some 0)
  | cons {faces : Stream' Int} {count used rest : Nat} {worth : Int} {total : Option Int}
      (first : DieEnds limit check faces kind used (some worth))
      (others : GroupEnds limit check kind (faces.drop used) count rest total) :
      GroupEnds limit check kind faces (count + 1) (used + rest) (total.map (worth + ·))
  | exhausted {faces : Stream' Int} {count used : Nat}
      (first : DieEnds limit check faces kind used none) :
      GroupEnds limit check kind faces (count + 1) used none

def resultOf (limit : Int) : Option Int → Except RollFault Int
  | some total => .ok total
  | none => .error (.rerollsExhausted limit)

theorem exists_dieEnds (limit : Nat) (check : Check) (faces : Stream' Int) (kind : RerollKind) :
    ∃ used worth, DieEnds limit check faces kind used worth := by
  have ends := check.first_or_beyond faces limit
  cases kind with
  | exploding =>
    rcases ends with ⟨k, first, within⟩ | beyond
    · exact ⟨_, _, .exploding first within⟩
    · exact ⟨_, _, .exhausted nofun beyond⟩
  | recursive =>
    rcases ends with ⟨k, first, within⟩ | beyond
    · exact ⟨_, _, .recursive first within⟩
    · exact ⟨_, _, .exhausted nofun beyond⟩
  | once =>
    by_cases met : check.Met (faces.get 0)
    · rcases Nat.eq_zero_or_pos limit with forbidden | allowed
      · exact ⟨_, _, .refused met forbidden⟩
      · exact ⟨_, _, .replaced met allowed⟩
    · exact ⟨_, _, .kept met⟩

theorem exists_groupEnds (limit : Nat) (check : Check) (kind : RerollKind) (faces : Stream' Int)
    (count : Nat) : ∃ used total, GroupEnds limit check kind faces count used total := by
  induction count generalizing faces with
  | zero => exact ⟨_, _, .nil faces⟩
  | succ count ih =>
    obtain ⟨used, worth, first⟩ := exists_dieEnds limit check faces kind
    cases worth with
    | none => exact ⟨_, _, .exhausted first⟩
    | some worth =>
      obtain ⟨rest, total, others⟩ := ih (faces.drop used)
      exact ⟨_, _, .cons first others⟩

variable {σ : Type} [Supply σ] {sides : Int} {kind : RerollKind} {check : Check}

theorem reroll_of_fails (limit : Int) {face : Int} (held : check.holds face = .ok false)
    (worth : Int) (seen : Array Int) (allowance : Nat) :
    (reroll limit sides kind check face worth seen allowance : Rolling σ Settled) =
      pure ⟨worth, seen⟩ := by
  cases allowance with
  | _ => rw [reroll, held]; rfl

theorem reroll_of_met (limit : Int) {face : Int} (held : check.holds face = .ok true)
    (worth : Int) (seen : Array Int) (allowance : Nat) :
    (reroll limit sides kind check face worth seen (allowance + 1) : Rolling σ Settled) = (do
      let next ← Rolling.die sides
      modify Trace.countReroll
      let worth := if kind = .exploding then worth + next else next
      if kind = .once then return ⟨worth, seen.push next⟩
      else reroll limit sides kind check next worth (seen.push next) allowance) := by
  rw [reroll, held]
  rfl

theorem reroll_at_once (limit : Int) {face : Int} (held : check.holds face = .ok true)
    (worth : Int) (seen : Array Int) :
    (reroll limit sides kind check face worth seen 0 : Rolling σ Settled) =
      throw (.rerollsExhausted limit) := by
  rw [reroll, held]
  rfl

open Rolling

variable {quiet : Prop} {draws : List Draw} {fault : Option RollFault}

theorem takes_reroll_of_met {good : Settled → Prop} {limit : Int} (again : kind ≠ .once)
    {face worth next : Int} (met : check.Met face) {seen : Array Int} {allowance : Nat}
    (goesOn : Takes quiet draws fault good
      (reroll limit sides kind check next (if kind = .exploding then worth + next else next)
        (seen.push next) allowance : Rolling σ Settled)) :
    Takes quiet (⟨sides, next⟩ :: draws) fault good
      (reroll limit sides kind check face worth seen (allowance + 1) : Rolling σ Settled) := by
  rw [reroll_of_met limit (Check.holds_eq_true met)]
  refine Takes.bind (.die sides next) ?_
  rintro _ rfl
  refine .silent_bind Takes.countReroll fun _ _ => ?_
  dsimp only
  rw [if_neg again]
  exact goesOn

/-- A die that comes to an end takes a face for each reroll. By induction on their number; what the
    die is worth goes along with the faces it has shown. -/
theorem takes_reroll_settled (limit : Int) (again : kind ≠ .once)
    (spelled : check.comparison ∈ Comparison.spelled) {worth : Int} {seen : Array Int}
    {faces : Stream' Int} {k allowance : Nat} (first : check.FirstFails faces k)
    (within : k ≤ allowance) (settled : kind.Settles seen.toList worth) :
    Takes quiet (drawsOf sides (faces.tail.take k)) none
      (fun die => kind.Settles (seen.toList ++ faces.tail.take k) die.worth)
      (reroll limit sides kind check faces.head worth seen allowance : Rolling σ Settled) := by
  induction k generalizing worth seen faces allowance with
  | zero =>
    have held := Check.holds_eq_false spelled first.fails
    rw [show faces.get 0 = faces.head from rfl] at held
    rw [reroll_of_fails limit held, Stream'.take_zero, List.append_nil]
    exact .pure settled
  | succ k ih =>
    obtain ⟨allowance, rfl⟩ := Nat.exists_eq_add_of_le' (Nat.le_of_add_left_le within)
    have pushed := settled.push faces.tail.head
    rw [← Array.toList_push] at pushed
    have further := ih first.tail (Nat.le_of_succ_le_succ within) pushed
    rw [Array.toList_push, List.append_assoc] at further
    exact takes_reroll_of_met again (first.before 0 (Nat.succ_pos k)) further

theorem takes_reroll_exhausted {good : Settled → Prop} (limit : Int) (again : kind ≠ .once)
    (worth : Int) (seen : Array Int) {faces : Stream' Int} {allowance : Nat}
    (met : ∀ i ≤ allowance, check.Met (faces.get i)) :
    Takes quiet (drawsOf sides (faces.tail.take allowance)) (some (.rerollsExhausted limit)) good
      (reroll limit sides kind check faces.head worth seen allowance : Rolling σ Settled) := by
  have first : check.Met faces.head := met 0 (Nat.zero_le _)
  induction allowance generalizing worth seen faces with
  | zero =>
    rw [reroll_at_once limit (Check.holds_eq_true first)]
    exact .throw _
  | succ allowance ih =>
    have later : ∀ i ≤ allowance, check.Met (faces.tail.get i) :=
      fun i least => met (i + 1) (Nat.succ_le_succ least)
    exact takes_reroll_of_met again first (ih _ _ later (later 0 (Nat.zero_le _)))

theorem takes_reroll_once (limit : Int) {face : Int} (met : check.Met face) (worth : Int)
    (seen : Array Int) (next : Int) (allowance : Nat) :
    Takes quiet [⟨sides, next⟩] none (·.worth = next)
      (reroll limit sides .once check face worth seen (allowance + 1) : Rolling σ Settled) := by
  rw [reroll_of_met limit (Check.holds_eq_true met)]
  refine .bind_silent (Takes.die sides next) ?_
  rintro _ rfl
  exact .silent_bind Takes.countReroll fun _ _ => .pure rfl

theorem takes_rollSettled {good : Settled → Prop} {limit : Nat} {face : Int}
    (goesOn : Takes quiet draws fault good
      (reroll limit sides kind check face face #[face] limit : Rolling σ Settled)) :
    Takes quiet (⟨sides, face⟩ :: draws) fault good
      (rollSettled limit sides kind check : Rolling σ Settled) := by
  refine Takes.bind (.die sides face) ?_
  rintro _ rfl
  exact goesOn

theorem takes_of_dieEnds {limit used : Nat} {faces : Stream' Int} {worth : Option Int}
    (spelled : check.comparison ∈ Comparison.spelled)
    (ends : DieEnds limit check faces kind used worth) :
    Takes quiet (drawsOf sides (faces.take used)) (faultOf (resultOf limit worth))
      (fun die => worth = some die.worth)
      (rollSettled limit sides kind check : Rolling σ Settled) := by
  cases ends with
  | exploding first within =>
    have single : RerollKind.exploding.Settles #[faces.head].toList faces.head :=
      ⟨List.cons_ne_nil _ _, List.sum_singleton.symm⟩
    have again : RerollKind.exploding ≠ .once := nofun
    exact takes_rollSettled ((takes_reroll_settled limit again spelled first within single).mono
      fun die _ ends => congrArg some ends.2.symm)
  | @recursive k first within =>
    have single : RerollKind.recursive.Settles #[faces.head].toList faces.head := rfl
    have again : RerollKind.recursive ≠ .once := nofun
    refine takes_rollSettled ((takes_reroll_settled limit again spelled first within single).mono
      fun die _ ends => ?_)
    have last : (faces.take (k + 1)).getLast? = some die.worth := ends
    rwa [Stream'.take_succ', List.getLast?_concat] at last
  | exhausted again beyond =>
    have met := Check.met_of_first_beyond beyond
    exact takes_rollSettled (takes_reroll_exhausted limit again _ _ met)
  | kept fails =>
    refine takes_rollSettled ?_
    rw [reroll_of_fails limit (Check.holds_eq_false spelled fails)]
    exact .pure rfl
  | replaced met allowed =>
    obtain ⟨allowance, rfl⟩ := Nat.exists_eq_add_of_le' allowed
    exact takes_rollSettled ((takes_reroll_once _ met _ _ (faces.get 1) allowance).mono
      fun die _ same => congrArg some same.symm)
  | refused met forbidden =>
    subst forbidden
    refine takes_rollSettled ?_
    rw [reroll_at_once _ (Check.holds_eq_true met)]
    exact .throw _

theorem faultOf_resultOf_map (limit : Int) (change : Int → Int) (total : Option Int) :
    faultOf (resultOf limit (total.map change)) = faultOf (resultOf limit total) := by
  cases total with
  | none => rfl
  | some total => rfl

theorem eq_resultOf {limit : Int} {total : Option Int} {result : Except RollFault Int}
    (ended : faultOf result = faultOf (resultOf limit total))
    (fits : ∀ value, result = .ok value → total = some value) : result = resultOf limit total := by
  cases result with
  | ok value => rw [fits value rfl]; rfl
  | error fault =>
    cases total with
    | some total => cases ended
    | none =>
      cases ended
      rfl

theorem takes_of_groupEnds {limit count used : Nat} {faces : Stream' Int} {total : Option Int}
    (spelled : check.comparison ∈ Comparison.spelled)
    (ends : GroupEnds limit check kind faces count used total) (group : SettledGroup) :
    Takes quiet (drawsOf sides (faces.take used)) (faultOf (resultOf limit total))
      (fun all => total.map (group.worths.toList.sum + ·) = some all.worths.toList.sum)
      (rollGroup limit sides kind check group count : Rolling σ SettledGroup) := by
  induction ends generalizing group with
  | nil faces => exact .pure (congrArg some (Int.add_zero _))
  | exhausted first => exact (takes_of_dieEnds spelled first).bind_of_fault _
  | @cons faces count used rest worth total first _ ih =>
    rw [faultOf_resultOf_map, ← take_append_take_drop, drawsOf_append]
    refine Takes.bind (takes_of_dieEnds spelled first) ?_
    rintro die same
    cases same
    refine (ih (group.add die)).mono fun all _ sums => ?_
    have pushed : (group.add die).worths.toList.sum = group.worths.toList.sum + die.worth := by
      rw [SettledGroup.add, Array.toList_push, List.sum_append, List.sum_singleton]
    refine Eq.trans ?_ sums
    rw [Option.map_map, pushed]
    congr 1
    funext others
    exact (Int.add_assoc _ _ _).symm

theorem takes_reroll_atom (pool : Pool) {limit used : Nat} {faces : Stream' Int}
    {total : Option Int}
    (spelled : check.comparison ∈ Comparison.spelled)
    (ends : GroupEnds limit check kind faces pool.count.toNat used total) :
    Takes quiet (drawsOf pool.sides (faces.take used)) (faultOf (resultOf limit total))
      (total = some ·) ((Atom.reroll pool kind check).roll limit : Rolling σ Int) := by
  have takes : Takes quiet (drawsOf pool.sides (faces.take used)) (faultOf (resultOf limit total))
      (fun all => total.map ((0 : Int) + ·) = some all.worths.toList.sum)
      (rollGroup limit pool.sides kind check {} pool.count.toNat : Rolling σ SettledGroup) :=
    takes_of_groupEnds spelled ends {}
  cases total with
  | none => exact takes.bind_of_fault _
  | some total =>
    refine .bind_silent takes fun all sums => ?_
    refine .silent_bind (.note fun recorder => ⟨_, recorder.extends_add _ _ _ _ _ _⟩) fun _ _ => ?_
    rw [sumOf_eq_sum]
    exact .pure ((congrArg some (Int.zero_add total).symm).trans sums)

/-- A group of dice that are rerolled ends on every stream of faces as specified: with what the dice
    are worth together, or where one of them is given up. It takes as many faces as that and leaves
    the others, and all that it takes are on record, a fault or not. Sources deal such streams, of
    faces that the dice have, and every one of them is dealt by a source. -/
theorem rerolls_end_as_specified :
    (∀ (σ : Type) [Supply σ] (limit : Nat) (pool : Pool) (kind : RerollKind) (check : Check)
        (faces : Stream' Int) (trace : Trace σ), check.comparison ∈ Comparison.spelled →
        Supply.Deals pool.sides trace.supply faces →
      (∃ used total, GroupEnds limit check kind faces pool.count.toNat used total) ∧
      ∀ used total, GroupEnds limit check kind faces pool.count.toNat used total →
        let done := ((Expr.atom (.reroll pool kind check)).roll limit : Rolling σ Int).run trace
        done.1 = resultOf limit total ∧
          done.2.rolls.toList = trace.rolls.toList ++ faces.take used ∧
          done.2.supply = Supply.after pool.sides trace.supply used) ∧
    ∀ sides : Nat, 1 ≤ sides → sides ≤ mostSides →
      (∀ source : Source, ∃ faces, Supply.Deals sides source faces ∧
        ∀ n, 1 ≤ faces.get n ∧ faces.get n ≤ sides) ∧
      ∀ faces : Stream' Int, (∀ n, 1 ≤ faces.get n ∧ faces.get n ≤ sides) →
        ∃ source : Source, Supply.Deals sides source faces := by
  constructor
  · intro σ _ limit pool kind check faces trace spelled deals
    refine ⟨exists_groupEnds limit check kind faces _, fun used total ends => ?_⟩
    obtain ⟨ended, fits, rolled, left⟩ := Takes.run_of_falls
      (takes_roll_atom (takes_reroll_atom pool spelled ends)) trace False.elim (deals.falls used)
    rw [map_face_drawsOf] at rolled
    exact ⟨eq_resultOf ended fits, rolled, left⟩
  · intro sides least most
    have few : 2 * mostSides ≤ Decimal.twoPow 52 := by decide
    have precise : mostSides ≤ Decimal.significandLimit := by decide
    exact ⟨fun source => source.exists_deals least (Nat.le_trans most precise),
      fun faces within => Source.deals_of_faces (by omega) within⟩

theorem Check.firstFails_twosThenOnesFaces (twos : Nat) :
    Check.FirstFails ⟨.equal, 2⟩ (Source.twosThenOnesFaces twos) twos where
  before _ less := if_pos less
  fails := by
    show ¬(if twos < twos then (2 : Int) else 1) = 2
    rw [if_neg (Nat.lt_irrefl twos)]
    decide

/-- Two twos and then ones: the first of two exploding dice is worth five and the second one, but
    with a single reroll the first is given up. -/
theorem rerolls_end_at_six :
    let faces : Stream' Int := fun n => if n < 2 then 2 else 1
    let start : Trace Source := { supply := .twosThenOnes 2 0 }
    let check : Check := ⟨.equal, 2⟩
    let e : Expr := .atom (.reroll ⟨2, 2⟩ .exploding check)
    Supply.Deals 2 start.supply faces ∧
      GroupEnds 2 check .exploding faces 2 4 (some 6) ∧
      GroupEnds 1 check .exploding faces 2 2 none ∧
      (e.evaluate 2 start).1 = .ok 6 ∧ (e.evaluate 2 start).2.rolls.toList = [2, 2, 1, 1] ∧
      (e.evaluate 1 start).1 = .error (.rerollsExhausted 1) ∧
      (e.evaluate 1 start).2.rolls.toList = [2, 2] := by
  intro faces start check e
  have deals : Supply.Deals 2 start.supply faces := Source.deals_twosThenOnes 2
  have first : check.FirstFails faces 2 := Check.firstFails_twosThenOnesFaces 2
  have second : check.FirstFails (faces.drop 3) 0 := by
    refine ⟨nofun, ?_⟩
    show ¬(if 3 < 2 then (2 : Int) else 1) = 2
    decide
  have ends : GroupEnds 2 check .exploding faces 2 4 (some 6) :=
    .cons (.exploding first (Nat.le_refl 2)) (.cons (.exploding second (by decide)) (.nil _))
  have beyond (k : Nat) (fails : check.FirstFails faces k) : 1 < k := by
    refine Nat.lt_of_not_le fun small => fails.fails ?_
    show (if k < 2 then (2 : Int) else 1) = 2
    rw [if_pos (by omega)]
  have gives : GroupEnds 1 check .exploding faces 2 2 none := .exhausted (.exhausted nofun beyond)
  have spelled : check.comparison ∈ Comparison.spelled := by decide
  obtain ⟨_, settled⟩ := rerolls_end_as_specified.1 Source 2 ⟨2, 2⟩ .exploding check faces start
    spelled deals
  obtain ⟨_, exhausted⟩ := rerolls_end_as_specified.1 Source 1 ⟨2, 2⟩ .exploding check faces start
    spelled deals
  obtain ⟨six, four, _⟩ := settled 4 _ ends
  obtain ⟨fault, two, _⟩ := exhausted 2 _ gives
  exact ⟨deals, ends, gives, six, four, fault, two⟩

end DiceFormula
