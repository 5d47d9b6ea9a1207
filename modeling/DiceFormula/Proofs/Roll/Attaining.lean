import DiceFormula.Proofs.Expr.Extremes
import DiceFormula.Proofs.Roll.Falling
import DiceFormula.Proofs.Roll.Reroll

namespace DiceFormula

/-- Numbers, and dice that are added up and rerolled at most once. -/
def Atom.Exact : Atom → Prop
  | number _ => True
  | dice _ => True
  | conditional _ _ => False
  | reroll _ kind check => kind = .once ∧ check.comparison ∈ Comparison.spelled

/-- The bounds of such a formula are values that it may roll. -/
def Expr.Exact : Expr → Prop
  | atom a => a.Exact
  | group inner => inner.Exact
  | binary operator left right =>
    operator ∈ [.add, .subtract, .multiply] ∧ left.Exact ∧ right.Exact

structure Draw.Fits (e : Expr) (draw : Draw) : Prop where
  least : 1 ≤ draw.face
  most : draw.face ≤ draw.sides
  known : ∃ pool ∈ e.pools, pool.sides = draw.sides

open Rolling

theorem takes_rollDice {σ : Type} [Supply σ] (quiet : Prop) (sides : Int) (rolled : Array Int)
    (faces : List Int) :
    Takes quiet (drawsOf sides faces) none (fun all => all.toList = rolled.toList ++ faces)
      (rollDice sides rolled faces.length : Rolling σ (Array Int)) := by
  induction faces generalizing rolled with
  | nil => exact .pure (List.append_nil _).symm
  | cons face faces ih =>
    refine Takes.bind (.die sides face) ?_
    rintro face rfl
    refine (ih (rolled.push face)).mono fun all _ same => ?_
    rw [Array.toList_push, List.append_assoc] at same
    exact same

theorem take_const (face : Int) (used : Nat) :
    (Stream'.const face).take used = List.replicate used face := by
  induction used with
  | zero => rfl
  | succ used ih =>
    rw [Stream'.take_succ, Stream'.tail_const, ih]
    rfl

theorem exists_groupEnds_of_const {limit : Nat} (allowed : 1 ≤ limit) (check : Check) (face : Int)
    (count : Nat) :
    ∃ used, GroupEnds limit check .once (Stream'.const face) count used (some (count * face)) := by
  have settles : ∃ times, DieEnds limit check (Stream'.const face) .once times (some face) := by
    by_cases met : check.Met face
    · exact ⟨2, .replaced met allowed⟩
    · exact ⟨1, .kept met⟩
  obtain ⟨times, settles⟩ := settles
  induction count with
  | zero =>
    refine ⟨0, ?_⟩
    rw [Nat.cast_zero, Int.zero_mul]
    exact .nil _
  | succ count ih =>
    obtain ⟨used, others⟩ := ih
    rw [← Stream'.drop_const times face] at others
    have total : face + count * face = ((count + 1 : Nat) : Int) * face := by
      rw [Int.natCast_succ, Int.add_mul, Int.one_mul, Int.add_comm]
    exact ⟨times + used, total ▸ .cons settles others⟩

namespace Atom

variable {a : Atom} {goal multiplier limit : Int}

theorem exists_face {pool : Pool} (least : 1 ≤ pool.sides)
    (isEnd : Bounds.IsEnd ⟨pool.count, pool.count * pool.sides⟩ goal) :
    ∃ face, 1 ≤ face ∧ face ≤ pool.sides ∧ goal = pool.count * face := by
  rcases isEnd with rfl | rfl
  · exact ⟨1, Int.le_refl 1, least, (Int.mul_one _).symm⟩
  · exact ⟨pool.sides, least, Int.le_refl _, rfl⟩

theorem fits_drawsOf {pool : Pool} {face : Int} (has : a.pool? = some pool) (least : 1 ≤ face)
    (most : face ≤ pool.sides) (times : Nat) :
    ∀ draw ∈ drawsOf pool.sides (List.replicate times face), Draw.Fits (.atom a) draw := by
  intro draw member
  obtain ⟨other, shown, rfl⟩ := List.mem_map.mp member
  rw [List.eq_of_mem_replicate shown]
  exact ⟨least, most, pool, Expr.mem_pools_atom has, rfl⟩

theorem takes_of_isEnd (exact : a.Exact)
    (real : ∀ pool, a.pool? = some pool → 1 ≤ pool.count ∧ 1 ≤ pool.sides) (allowed : 1 ≤ limit)
    (isEnd : (a.bounds multiplier).IsEnd goal) :
    ∃ draws, (∀ draw ∈ draws, Draw.Fits (.atom a) draw) ∧ ∀ (σ : Type) [Supply σ],
      Takes True draws none (· = goal) (a.roll limit : Rolling σ Int) := by
  cases a with
  | number value =>
    have same : value = goal := isEnd.elim Eq.symm Eq.symm
    exact ⟨[], nofun, fun σ _ => .pure same⟩
  | dice pool =>
    obtain ⟨positive, least⟩ := real pool rfl
    obtain ⟨face, low, high, rfl⟩ := exists_face least isEnd
    refine ⟨_, fits_drawsOf rfl low high pool.count.toNat, fun σ _ => ?_⟩
    have rolled := takes_rollDice (σ := σ) True pool.sides #[] (.replicate pool.count.toNat face)
    rw [List.length_replicate] at rolled
    refine .bind_silent rolled fun all shown => ?_
    refine .silent_bind (.note fun recorder => ⟨_, recorder.extends_add _ _ _ _ _ _⟩) fun _ _ => ?_
    refine .pure ?_
    rw [sumOf_eq_sum, shown, List.nil_append, List.sum_replicate, nsmul_eq_mul,
      Int.toNat_of_nonneg (Int.le_trans Int.one_nonneg positive)]
  | conditional pool check => exact exact.elim
  | reroll pool kind check =>
    obtain ⟨rfl, spelled⟩ := exact
    obtain ⟨positive, least⟩ := real pool rfl
    obtain ⟨face, low, high, rfl⟩ := exists_face least isEnd
    obtain ⟨limit, rfl⟩ := Int.eq_ofNat_of_zero_le (Int.le_trans Int.one_nonneg allowed)
    obtain ⟨used, ends⟩ := exists_groupEnds_of_const (Int.ofNat_le.mp allowed) check face
      pool.count.toNat
    refine ⟨_, fits_drawsOf rfl low high used, fun σ _ => ?_⟩
    rw [Int.toNat_of_nonneg (Int.le_trans Int.one_nonneg positive)] at ends
    rw [← take_const]
    exact (takes_reroll_atom pool spelled ends).mono fun value _ same => (Option.some.inj same).symm

end Atom

theorem Draw.Fits.mono {e whole : Expr} {draw : Draw} (fits : draw.Fits e)
    (part : ∀ pool ∈ e.pools, pool ∈ whole.pools) : draw.Fits whole := by
  obtain ⟨least, most, pool, member, same⟩ := fits
  exact ⟨least, most, pool, part pool member, same⟩

namespace Expr

variable {e : Expr} {multiplier goal limit : Int} {bounds : Bounds}

theorem Exact.exists_bounds (exact : e.Exact) (multiplier : Int) :
    ∃ bounds, e.bounds multiplier = .ok bounds := by
  induction e with
  | atom a => exact ⟨_, by rw [Expr.bounds]⟩
  | group inner ih =>
    rw [Expr.bounds]
    exact ih exact
  | binary operator left right leftIh rightIh =>
    obtain ⟨undivided, leftExact, rightExact⟩ := exact
    obtain ⟨leftBounds, leftBounded⟩ := leftIh leftExact
    obtain ⟨rightBounds, rightBounded⟩ := rightIh rightExact
    rw [bounds_binary, leftBounded, rightBounded]
    simp only [List.mem_cons, List.not_mem_nil, or_false] at undivided
    rcases undivided with rfl | rfl | rfl
    all_goals exact ⟨_, rfl⟩

theorem takes_of_isEnd (exact : e.Exact)
    (real : ∀ pool ∈ e.pools, 1 ≤ pool.count ∧ 1 ≤ pool.sides) (allowed : 1 ≤ limit)
    (bounded : e.bounds multiplier = .ok bounds) (isEnd : bounds.IsEnd goal) :
    ∃ draws, (∀ draw ∈ draws, Draw.Fits e draw) ∧ ∀ (σ : Type) [Supply σ],
      Takes True draws none (· = goal) (e.roll limit : Rolling σ Int) := by
  induction e generalizing bounds goal with
  | atom a =>
    rw [Expr.bounds] at bounded
    cases bounded
    obtain ⟨draws, fits, takes⟩ := Atom.takes_of_isEnd exact
      (fun pool has => real pool (mem_pools_atom has)) allowed isEnd
    exact ⟨draws, fits, fun σ _ => takes_roll_atom (takes σ)⟩
  | group inner ih =>
    rw [Expr.bounds] at bounded
    obtain ⟨draws, fits, takes⟩ := ih exact real bounded isEnd
    exact ⟨draws, fun draw member => (fits draw member).mono fun _ => id,
      fun σ _ => takes_roll_group (takes σ)⟩
  | binary operator left right leftIh rightIh =>
    obtain ⟨undivided, leftExact, rightExact⟩ := exact
    rw [pools_binary, List.forall_mem_append] at real
    rw [bounds_binary] at bounded
    obtain ⟨leftBounds, leftBounded, bounded⟩ := ok_of_bind bounded
    obtain ⟨rightBounds, rightBounded, combined⟩ := ok_of_bind bounded
    obtain ⟨a, b, leftIsEnd, rightIsEnd, applied⟩ := isEnd.of_combine undivided combined
    obtain ⟨first, firstFits, firstTakes⟩ := leftIh leftExact real.1 leftBounded leftIsEnd
    obtain ⟨second, secondFits, secondTakes⟩ := rightIh rightExact real.2 rightBounded rightIsEnd
    refine ⟨first ++ second, List.forall_mem_append.mpr ⟨?_, ?_⟩, fun σ _ =>
      takes_roll_binary (firstTakes σ) (secondTakes σ) applied⟩
    · exact fun draw member => (firstFits draw member).mono fun pool known =>
        pools_binary operator left right ▸ List.mem_append_left _ known
    · exact fun draw member => (secondFits draw member).mono fun pool known =>
        pools_binary operator left right ▸ List.mem_append_right _ known

/-- If the dice fall like this, then the formula comes to this value, and no other die is rolled. -/
structure Attains (e : Expr) (limit : Int) (draws : List Draw) (value : Int) : Prop where
  fits : ∀ draw ∈ draws, draw.Fits e
  evaluated : ∀ (σ : Type) [Supply σ] (trace : Trace σ) (left : σ), trace.recorder = none →
    Supply.Falls trace.supply draws left →
    (e.evaluate limit trace).1 = .ok value ∧
      (e.evaluate limit trace).2.rolls.toList = draws.map Draw.face ∧
      (e.evaluate limit trace).2.supply = left
  laidOut : ∃ faces left : Stream' Int, Supply.Falls faces draws left
  shown : (∀ pool ∈ e.pools, pool.sides ≤ mostSides) →
    ∃ source left : Source, Supply.Falls source draws left

theorem attains_of_isEnd (exact : e.Exact)
    (real : ∀ pool ∈ e.pools, 1 ≤ pool.count ∧ 1 ≤ pool.sides) (allowed : 1 ≤ limit)
    (bounded : e.bounds multiplier = .ok bounds) (isEnd : bounds.IsEnd goal) :
    ∃ draws, e.Attains limit draws goal := by
  obtain ⟨draws, fits, takes⟩ := takes_of_isEnd exact real allowed bounded isEnd
  refine ⟨draws, fits, fun σ _ trace left silent falls => ?_, ?_, fun few => ?_⟩
  · exact (takes σ).run_eq_ok trace.restart (fun _ => silent) falls
  · exact ⟨_, _, Supply.falls_laidOut draws default⟩
  · refine Source.exists_falls fun draw member => ?_
    obtain ⟨least, most, pool, known, same⟩ := fits draw member
    have precise : 2 * (mostSides : Int) ≤ Decimal.twoPow 52 := by decide
    have sides := few pool known
    exact ⟨least, most, by omega⟩

/-- A formula of numbers and dice that are rerolled once at most, without quotients, reaches both of
    its bounds. -/
theorem evaluate_attains_bounds (exact : e.Exact)
    (real : ∀ pool ∈ e.pools, 1 ≤ pool.count ∧ 1 ≤ pool.sides) (allowed : 1 ≤ limit)
    (multiplier : Int) :
    ∃ bounds, e.bounds multiplier = .ok bounds ∧
      (∃ draws, e.Attains limit draws bounds.min) ∧ ∃ draws, e.Attains limit draws bounds.max := by
  obtain ⟨bounds, bounded⟩ := exact.exists_bounds multiplier
  exact ⟨bounds, bounded, attains_of_isEnd exact real allowed bounded (.inl rfl),
    attains_of_isEnd exact real allowed bounded (.inr rfl)⟩

theorem evaluate_attains_bounds_of_product :
    let e : Expr := .binary .multiply
      (.group (.binary .subtract (.atom (.number 2)) (.atom (.dice ⟨1, 4⟩))))
      (.atom (.reroll ⟨2, 3⟩ .once ⟨.greaterOrEqual, 2⟩))
    e.bounds 100 = .ok ⟨-12, 6⟩ ∧
      (∃ draws, e.Attains 1 draws (-12)) ∧ ∃ draws, e.Attains 1 draws 6 := by
  intro e
  have computed : e.bounds 100 = .ok ⟨-12, 6⟩ := by decide +kernel
  obtain ⟨bounds, bounded, attained⟩ := evaluate_attains_bounds (e := e)
    ⟨by decide, ⟨by decide, trivial, trivial⟩, rfl, by decide⟩ (by decide) (Int.le_refl 1) 100
  rw [computed] at bounded
  cases bounded
  exact ⟨computed, attained⟩

end Expr

end DiceFormula
