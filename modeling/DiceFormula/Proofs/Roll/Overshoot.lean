import DiceFormula.Proofs.Expr.Canonical
import DiceFormula.Proofs.Roll.Reroll

namespace DiceFormula

/-- Its bounds let one die come to twice the multiplier, which makes zero of the divisor. -/
def Expr.overshooting (multiplier : Nat) : Expr :=
  .binary .divide (.atom (.number 1))
    (.group (.binary .divide (.atom (.reroll ⟨1, 2⟩ .exploding ⟨.equal, 2⟩))
      (.atom (.number (2 * multiplier + 1)))))

open Rolling Source

theorem sum_take_twosThenOnesFaces {twos used : Nat} (few : used ≤ twos) :
    ((twosThenOnesFaces twos).take used).sum = 2 * used := by
  induction used with
  | zero => rfl
  | succ used ih =>
    have face : (twosThenOnesFaces twos).get used = 2 := if_pos few
    rw [Stream'.take_succ', List.sum_append, ih (Nat.le_of_lt few), face, List.sum_singleton]
    omega

variable {σ : Type} [Supply σ] {multiplier : Nat} {limit : Int}

theorem takes_explosion (quiet : Prop) (allowed : multiplier ≤ limit) :
    Takes quiet (drawsOf 2 ((twosThenOnesFaces multiplier).take (multiplier + 1))) none
      (· = 2 * (multiplier : Int) + 1)
      ((Atom.reroll ⟨1, 2⟩ .exploding ⟨.equal, 2⟩).roll limit : Rolling σ Int) := by
  obtain ⟨limit, rfl⟩ := Int.eq_ofNat_of_zero_le (Int.le_trans (Int.natCast_nonneg _) allowed)
  have first := Check.firstFails_twosThenOnesFaces multiplier
  have die : DieEnds limit ⟨.equal, 2⟩ (twosThenOnesFaces multiplier) .exploding
      (multiplier + 1) _ :=
    .exploding first (Int.ofNat_le.mp allowed)
  have ends : GroupEnds limit ⟨.equal, 2⟩ .exploding (twosThenOnesFaces multiplier) 1
      (multiplier + 1 + 0) _ := .cons die (.nil _)
  have spelled : Comparison.equal ∈ Comparison.spelled := by decide
  have last : (twosThenOnesFaces multiplier).get multiplier = 1 := if_neg (Nat.lt_irrefl _)
  refine Has.mono (takes_reroll_atom ⟨1, 2⟩ spelled ends) fun value _ same => ?_
  rw [← Option.some.inj same, Stream'.take_succ', List.sum_append,
    sum_take_twosThenOnesFaces (Nat.le_refl _), last, List.sum_singleton]
  exact Int.add_zero _

namespace Expr

theorem takes_overshooting (allowed : multiplier ≤ limit) :
    Takes True (drawsOf 2 ((twosThenOnesFaces multiplier).take (multiplier + 1))) none (· = 1)
      ((overshooting multiplier).roll limit : Rolling σ Int) := by
  have number (value : Int) :
      Takes True [] none (· = value) ((atom (.number value)).roll limit : Rolling σ Int) :=
    takes_roll_atom (.pure rfl)
  have die := takes_roll_atom (takes_explosion (σ := σ) True allowed)
  have nonzero : 2 * (multiplier : Int) + 1 ≠ 0 := by omega
  have quotient : Operator.divide.apply (2 * multiplier + 1) (2 * multiplier + 1) = .ok 1 := by
    rw [Operator.apply, if_neg nonzero, Int.fdiv_self nonzero]
  have divisor := takes_roll_binary die (number (2 * multiplier + 1)) quotient
  rw [List.append_nil] at divisor
  exact takes_roll_binary (number 1) (takes_roll_group divisor) rfl

theorem bounds_overshooting {multiplier : Nat} (positive : 0 < multiplier) :
    (overshooting multiplier).bounds multiplier = .error .divisorAlwaysZero := by
  have quotient (n : Int) (least : 0 ≤ n) (most : n ≤ 2 * multiplier) :
      n.fdiv (2 * multiplier + 1) = 0 := by
    rw [Int.fdiv_eq_ediv_of_nonneg n (by omega)]
    exact Int.ediv_eq_zero_of_lt least (by omega)
  have nonzero : 2 * (multiplier : Int) + 1 ≠ 0 := by omega
  have upper : ¬2 * (multiplier : Int) + 1 ≤ -1 := by omega
  have lower : ¬2 * (multiplier : Int) + 1 ≤ 0 := by omega
  have one := quotient 1 (by omega) (by omega)
  have most := quotient (2 * multiplier) (by omega) (Int.le_refl _)
  have combined : Bounds.combine .divide ⟨1, 2 * multiplier⟩
      ⟨2 * multiplier + 1, 2 * multiplier + 1⟩ = .ok ⟨0, 0⟩ := by
    simp [Bounds.combine, Bounds.divisors, Bounds.around, nonzero, upper, lower, one, most]
  have divisor : (binary .divide (atom (.reroll ⟨1, 2⟩ .exploding ⟨.equal, 2⟩))
      (atom (.number (2 * multiplier + 1)))).bounds multiplier = .ok ⟨0, 0⟩ := by
    rw [bounds_binary, bounds, bounds]
    exact combined
  rw [overshooting, bounds_binary, bounds, bounds, divisor]
  rfl

theorem canonical_overshooting {multiplier : Nat}
    (short : (toString (2 * (multiplier : Int) + 1)).length ≤ Text.longestNumeral) :
    (overshooting multiplier).Canonical := by
  have one : (Atom.number 1).Canonical := ⟨by decide, by decide +kernel⟩
  have pool : Pool.Canonical ⟨1, 2⟩ := ⟨⟨by decide, by decide⟩, by decide, by decide⟩
  have die : (Atom.reroll ⟨1, 2⟩ .exploding ⟨.equal, 2⟩).Canonical :=
    ⟨pool, by decide, by decide, by decide⟩
  have divisor : (Atom.number (2 * multiplier + 1)).Canonical := ⟨by omega, short⟩
  have shallow : 1 ≤ deepestNesting := by decide
  exact ⟨⟨.inr ⟨rfl, rfl, rfl⟩, one, .inr ⟨rfl, rfl, rfl⟩, die, divisor⟩, shallow⟩

theorem length_render_overshooting (multiplier : Nat) :
    (overshooting multiplier).render.length =
      (toString (2 * (multiplier : Int) + 1)).length + 14 := by
  have one : (Atom.number 1).render.length = 1 := by decide +kernel
  have die : (Atom.reroll ⟨1, 2⟩ .exploding ⟨.equal, 2⟩).render.length = 5 := by decide +kernel
  have sign : Operator.divide.symbol.length = 1 := by decide
  have blank : " ".length = 1 := by decide
  have opening : "(".length = 1 := by decide
  have closing : ")".length = 1 := by decide
  rw [overshooting, render_binary, render, render, render_binary, render, render]
  simp only [String.length_append, one, die, sign, blank, opening, closing]
  rw [Atom.render]
  omega

end Expr

end DiceFormula
