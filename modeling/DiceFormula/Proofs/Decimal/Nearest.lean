import DiceFormula.Decimal.Binary64
import Mathlib.Data.Nat.Dist

namespace DiceFormula.Decimal

theorem roundQuotient_mul_le (num den : Nat) :
    2 * (roundQuotient num den * den) ≤ 2 * num + den := by
  have whole := Nat.div_add_mod num den
  rw [Nat.mul_comm] at whole
  unfold roundQuotient
  dsimp only
  split
  · omega
  · split
    · rw [Nat.add_mul]
      omega
    · have parity := Nat.mod_lt (num / den) Nat.two_pos
      have up : (num / den + num / den % 2) * den ≤ (num / den + 1) * den :=
        Nat.mul_le_mul_right den (by omega)
      rw [Nat.add_mul _ 1] at up
      omega

theorem roundSignificant_of_le {n : Nat} (small : n ≤ significandLimit) :
    roundSignificant n = n := by
  rcases Nat.lt_or_eq_of_le small with less | rfl
  · exact roundSignificant_of_lt less
  · rfl

theorem le_roundQuotient_mul (num : Nat) {den : Nat} (positive : 0 < den) :
    2 * num ≤ 2 * (roundQuotient num den * den) + den := by
  have whole := Nat.div_add_mod num den
  have rest := Nat.mod_lt num positive
  rw [Nat.mul_comm] at whole
  unfold roundQuotient
  dsimp only
  split
  · omega
  · split
    · rw [Nat.add_mul]
      omega
    · rw [Nat.add_mul]
      omega

theorem unit_le {n : Nat} (large : significandLimit ≤ n) :
    twoPow 52 * twoPow (n.log2 - 52) ≤ n := by
  have nonzero : n ≠ 0 := by
    rintro rfl
    exact absurd large (by decide)
  have magnitude : 53 ≤ n.log2 := (Nat.le_log2 nonzero).mpr large
  have split : twoPow 52 * twoPow (n.log2 - 52) = twoPow n.log2 := by
    simp only [twoPow, Nat.pow_eq, ← Nat.pow_add]
    congr 1
    omega
  rw [split]
  exact Nat.log2_self_le nonzero

theorem roundSignificant_le (n : Nat) :
    significandLimit * roundSignificant n ≤ (significandLimit + 1) * n := by
  rcases Nat.lt_or_ge n significandLimit with small | large
  · rw [roundSignificant_of_lt small]
    exact Nat.mul_le_mul_right n (Nat.le_succ _)
  · have rounded := roundQuotient_mul_le n (twoPow (n.log2 - 52))
    calc significandLimit * roundSignificant n
        = twoPow 52 * (2 * roundSignificant n) := Nat.mul_assoc (twoPow 52) 2 _
      _ ≤ twoPow 52 * (2 * n + twoPow (n.log2 - 52)) := Nat.mul_le_mul_left _ rounded
      _ = significandLimit * n + twoPow 52 * twoPow (n.log2 - 52) := by
          rw [Nat.mul_add, ← Nat.mul_assoc]
          rfl
      _ ≤ (significandLimit + 1) * n := by
          rw [Nat.add_mul, Nat.one_mul]
          exact Nat.add_le_add_left (unit_le large) _

theorem le_roundSignificant (n : Nat) :
    significandLimit * n ≤ significandLimit * roundSignificant n + n := by
  rcases Nat.lt_or_ge n significandLimit with small | large
  · rw [roundSignificant_of_lt small]
    exact Nat.le_add_right _ _
  · have rounded := le_roundQuotient_mul n (Nat.two_pow_pos (n.log2 - 52))
    calc significandLimit * n
        = twoPow 52 * (2 * n) := Nat.mul_assoc (twoPow 52) 2 _
      _ ≤ twoPow 52 * (2 * roundSignificant n + twoPow (n.log2 - 52)) :=
          Nat.mul_le_mul_left _ rounded
      _ = significandLimit * roundSignificant n + twoPow 52 * twoPow (n.log2 - 52) := by
          rw [Nat.mul_add, ← Nat.mul_assoc]
          rfl
      _ ≤ significandLimit * roundSignificant n + n := Nat.add_le_add_left (unit_le large) _

/-- Whole numbers that so many bits and a power of two make up. -/
def Holds (bits n : Nat) : Prop :=
  ∃ significand exponent, significand < twoPow bits ∧ n = significand * twoPow exponent

/-- No number of 53 bits is nearer, and where another one is as near, the last bit is zero. -/
structure Nearest (n rounded : Nat) : Prop where
  held : Holds 53 rounded
  nearest : ∀ other, Holds 53 other → Nat.dist n rounded ≤ Nat.dist n other
  even : ∀ other, Holds 53 other → other ≠ rounded → Nat.dist n other = Nat.dist n rounded →
    Holds 52 rounded

theorem Nearest.le {m n first second : Nat} (less : m < n) (below : Nearest m first)
    (above : Nearest n second) : first ≤ second := by
  have stays := below.nearest second above.held
  have follows := above.nearest first below.held
  unfold Nat.dist at stays follows
  omega

theorem twoPow_add (a b : Nat) : twoPow (a + b) = twoPow a * twoPow b := Nat.pow_add 2 a b

theorem twoPow_pos (exponent : Nat) : 0 < twoPow exponent := Nat.two_pow_pos exponent

theorem twoPow_le {a b : Nat} (le : a ≤ b) : twoPow a ≤ twoPow b :=
  Nat.pow_le_pow_right Nat.two_pos le

theorem holds_of_le {bits significand : Nat} (positive : 0 < bits)
    (most : significand ≤ twoPow bits) (exponent : Nat) :
    Holds bits (significand * twoPow exponent) := by
  rcases Nat.lt_or_eq_of_le most with less | rfl
  · exact ⟨significand, exponent, less, rfl⟩
  · have one : 1 < twoPow bits := Nat.one_lt_two_pow (by omega)
    exact ⟨1, bits + exponent, one, by rw [twoPow_add, Nat.one_mul]⟩

theorem roundQuotient_le (num den : Nat) : roundQuotient num den ≤ num / den + 1 := by
  have parity := Nat.mod_lt (num / den) Nat.two_pos
  unfold roundQuotient
  dsimp only
  split
  · omega
  · split <;> omega

theorem roundQuotient_even {num den : Nat} (positive : 0 < den)
    (tie : 2 * Nat.dist num (roundQuotient num den * den) = den) :
    roundQuotient num den % 2 = 0 := by
  have whole := Nat.div_add_mod num den
  have rest := Nat.mod_lt num positive
  rw [Nat.mul_comm] at whole
  by_cases less : 2 * (num % den) < den
  · have down : roundQuotient num den = num / den := if_pos less
    rw [down] at tie
    unfold Nat.dist at tie
    omega
  · by_cases more : den < 2 * (num % den)
    · have up : roundQuotient num den = num / den + 1 := (if_neg less).trans (if_pos more)
      rw [up, Nat.add_mul] at tie
      unfold Nat.dist at tie
      omega
    · have half : roundQuotient num den = num / den + num / den % 2 :=
        (if_neg less).trans (if_neg more)
      omega

theorem roundQuotient_nearest (num : Nat) {den : Nat} (positive : 0 < den) (times : Nat) :
    Nat.dist num (roundQuotient num den * den) ≤ Nat.dist num (times * den) ∧
      (times * den ≠ roundQuotient num den * den →
        Nat.dist num (times * den) = Nat.dist num (roundQuotient num den * den) →
        2 * Nat.dist num (roundQuotient num den * den) = den) := by
  have above := roundQuotient_mul_le num den
  have below := le_roundQuotient_mul num positive
  generalize roundQuotient num den = quotient at above below ⊢
  unfold Nat.dist
  rcases Nat.lt_trichotomy times quotient with less | rfl | more
  · have apart : (times + 1) * den ≤ quotient * den := Nat.mul_le_mul_right den less
    rw [Nat.add_mul, Nat.one_mul] at apart
    omega
  · exact ⟨Nat.le_refl _, fun other => absurd rfl other⟩
  · have apart : (quotient + 1) * den ≤ times * den := Nat.mul_le_mul_right den more
    rw [Nat.add_mul, Nat.one_mul] at apart
    omega

theorem roundSignificant_eq (n : Nat) :
    roundSignificant n = roundQuotient n (twoPow (n.log2 - 52)) * twoPow (n.log2 - 52) := rfl

theorem lt_unit_mul (n : Nat) : n < twoPow 53 * twoPow (n.log2 - 52) := by
  have below : n < twoPow (n.log2 + 1) := Nat.lt_log2_self
  rw [← twoPow_add]
  exact Nat.lt_of_lt_of_le below (twoPow_le (by omega))

theorem roundQuotient_unit_le (n : Nat) :
    roundQuotient n (twoPow (n.log2 - 52)) ≤ twoPow 53 := by
  have quotient := (Nat.div_lt_iff_lt_mul (twoPow_pos (n.log2 - 52))).mpr (lt_unit_mul n)
  have rounded := roundQuotient_le n (twoPow (n.log2 - 52))
  omega

theorem multiple_or_below (n : Nat) {other : Nat} (held : Holds 53 other) :
    (∃ times, other = times * twoPow (n.log2 - 52)) ∨
      ∃ times, other < times * twoPow (n.log2 - 52) ∧ times * twoPow (n.log2 - 52) ≤ n := by
  obtain ⟨significand, exponent, small, rfl⟩ := held
  rcases Nat.lt_or_ge exponent (n.log2 - 52) with fine | coarse
  · right
    have nonzero : n ≠ 0 := by
      rintro rfl
      simp at fine
    have top : twoPow 52 * twoPow (n.log2 - 52) = twoPow n.log2 := by
      rw [← twoPow_add]
      congr 1
      omega
    refine ⟨twoPow 52, ?_, ?_⟩
    · calc significand * twoPow exponent
          < twoPow 53 * twoPow exponent := Nat.mul_lt_mul_of_pos_right small (twoPow_pos exponent)
        _ = twoPow (53 + exponent) := (twoPow_add 53 exponent).symm
        _ ≤ twoPow n.log2 := twoPow_le (by omega)
        _ = twoPow 52 * twoPow (n.log2 - 52) := top.symm
    · rw [top]
      exact Nat.log2_self_le nonzero
  · left
    refine ⟨significand * twoPow (exponent - (n.log2 - 52)), ?_⟩
    rw [Nat.mul_assoc, ← twoPow_add]
    congr 2
    omega

/-- Rounding to 53 bits gives the nearest number, and of two that are as near the even one. -/
theorem nearest_roundSignificant (n : Nat) : Nearest n (roundSignificant n) := by
  have positive := twoPow_pos (n.log2 - 52)
  have most := roundQuotient_unit_le n
  refine ⟨holds_of_le (by decide) most _, ?_, ?_⟩
  · intro other held
    rcases multiple_or_below n held with ⟨times, rfl⟩ | ⟨times, below, within⟩
    · exact (roundQuotient_nearest n positive times).1
    · have near := (roundQuotient_nearest n positive times).1
      rw [roundSignificant_eq]
      unfold Nat.dist at near ⊢
      omega
  · intro other held differs tie
    rcases multiple_or_below n held with ⟨times, rfl⟩ | ⟨times, below, within⟩
    · have half := (roundQuotient_nearest n positive times).2 differs tie
      have even := roundQuotient_even positive half
      have halved : roundSignificant n =
          roundQuotient n (twoPow (n.log2 - 52)) / 2 * twoPow (1 + (n.log2 - 52)) := by
        rw [roundSignificant_eq, twoPow_add, ← Nat.mul_assoc]
        congr 1
        exact (Nat.div_mul_cancel (Nat.dvd_of_mod_eq_zero even)).symm
      have double : twoPow 53 = 2 * twoPow 52 := rfl
      rw [halved]
      exact holds_of_le (by decide) (by omega) _
    · have near := (roundQuotient_nearest n positive times).1
      rw [roundSignificant_eq] at tie
      unfold Nat.dist at near tie
      omega

theorem roundSignificant_mono {m n : Nat} (le : m ≤ n) :
    roundSignificant m ≤ roundSignificant n := by
  rcases Nat.lt_or_eq_of_le le with less | rfl
  · exact (nearest_roundSignificant m).le less (nearest_roundSignificant n)
  · exact Nat.le_refl _

end DiceFormula.Decimal
