import DiceFormula.Fault
import DiceFormula.Proofs.Decimal.Nearest
import DiceFormula.Proofs.Roll.Fair

namespace DiceFormula

open Decimal

theorem Fraction.roundSignificant_mul_lt (fraction : Fraction) {size : Nat} (positive : 0 < size) :
    roundSignificant (fraction.significand * size) < size * twoPow fraction.scale := by
  have limit : 0 < significandLimit := by decide
  have scaled : significandLimit ≤ twoPow fraction.scale :=
    Nat.pow_le_pow_right Nat.two_pos fraction.scale_ge
  have short :
      (significandLimit + 1) * fraction.significand < significandLimit * significandLimit := by
    calc (significandLimit + 1) * fraction.significand
        ≤ (significandLimit + 1) * (significandLimit - 1) :=
          Nat.mul_le_mul_left _ (Nat.le_sub_one_of_lt fraction.significand_lt)
      _ < significandLimit * significandLimit := by decide
  refine Nat.lt_of_mul_lt_mul_left (a := significandLimit) ?_
  calc significandLimit * roundSignificant (fraction.significand * size)
      ≤ (significandLimit + 1) * (fraction.significand * size) := roundSignificant_le _
    _ = (significandLimit + 1) * fraction.significand * size := (Nat.mul_assoc _ _ _).symm
    _ < significandLimit * significandLimit * size := Nat.mul_lt_mul_of_pos_right short positive
    _ = significandLimit * (size * significandLimit) := by
        rw [Nat.mul_assoc, Nat.mul_comm size]
    _ ≤ significandLimit * (size * twoPow fraction.scale) :=
        Nat.mul_le_mul_left _ (Nat.mul_le_mul_left _ scaled)

theorem Fraction.face?_bounds {fraction : Fraction} {sides face : Int} (least : 1 ≤ sides)
    (most : sides ≤ significandLimit) (shown : fraction.face? sides = some face) :
    1 ≤ face ∧ face ≤ sides := by
  have same : roundSignificant sides.natAbs = sides.natAbs := roundSignificant_of_le (by omega)
  have upright : ¬sides < 0 := by omega
  have positive : 0 < sides.natAbs := by omega
  have short := fraction.roundSignificant_mul_lt positive
  have whole : roundSignificant (fraction.significand * sides.natAbs) / twoPow fraction.scale <
      sides.natAbs := (Nat.div_lt_iff_lt_mul (Nat.two_pow_pos _)).mpr short
  simp only [face?, same, upright, ↓reduceIte] at shown
  generalize roundSignificant (fraction.significand * sides.natAbs) / twoPow fraction.scale = cut
    at shown whole
  split at shown
  · cases shown
    omega
  · cases shown

theorem Fraction.exists_face (fraction : Fraction) {sides : Int} (least : 1 ≤ sides)
    (most : sides ≤ significandLimit) : ∃ face, fraction.face? sides = some face := by
  have same : roundSignificant sides.natAbs = sides.natAbs := roundSignificant_of_le (by omega)
  have small : sides.natAbs ≤ significandLimit := by omega
  have finite : significandLimit < doubleLimit := by decide +kernel
  rw [face?, same, if_pos (Nat.lt_of_le_of_lt small finite)]
  exact ⟨_, rfl⟩

theorem Fraction.face?_of_rollDie {fraction : Fraction} {sides face : Int}
    (shown : fraction.rollDie sides = .ok face) : fraction.face? sides = some face := by
  unfold rollDie at shown
  split at shown
  · rename_i seen
    cases shown
    exact seen
  · cases shown

theorem Fraction.rollDie_of_face? {fraction : Fraction} {sides face : Int}
    (shown : fraction.face? sides = some face) : fraction.rollDie sides = .ok face := by
  unfold rollDie
  rw [shown]

theorem Decimal.roundSignificant_mul_near {significand : Nat}
    (small : significand < significandLimit) (sides : Nat) :
    roundSignificant (significand * sides) ≤ significand * sides + sides ∧
      significand * sides ≤ roundSignificant (significand * sides) + sides := by
  have limit : 0 < significandLimit := by decide
  have most : significand * sides ≤ significandLimit * sides :=
    Nat.mul_le_mul_right sides (Nat.le_of_lt small)
  have above := roundSignificant_le (significand * sides)
  have below := le_roundSignificant (significand * sides)
  constructor
  · refine Nat.le_of_mul_le_mul_left ?_ limit
    rw [Nat.mul_add]
    rw [Nat.add_mul, Nat.one_mul] at above
    exact Nat.le_trans above (Nat.add_le_add_left most _)
  · refine Nat.le_of_mul_le_mul_left ?_ limit
    rw [Nat.mul_add]
    exact Nat.le_trans below (Nat.add_le_add_left most _)

/-- The middle of the share of a face, in parts of 2 ^ 53 and rounded down. -/
def Decimal.middleOfShare (sides index : Nat) : Nat := (2 * index + 1) * twoPow 52 / sides

theorem Decimal.middleOfShare_lt {sides index : Nat} (within : index < sides) :
    middleOfShare sides index < significandLimit := by
  have whole : significandLimit * sides = 2 * sides * twoPow 52 := by
    rw [show significandLimit = 2 * twoPow 52 from rfl, Nat.mul_right_comm]
  rw [middleOfShare, Nat.div_lt_iff_lt_mul (Nat.zero_lt_of_lt within), whole]
  exact Nat.mul_lt_mul_of_pos_right (by omega) (Nat.two_pow_pos 52)

theorem Decimal.roundSignificant_middleOfShare {sides index : Nat} (within : index < sides)
    (few : 2 * sides ≤ twoPow 52) :
    roundSignificant (middleOfShare sides index * sides) / significandLimit = index := by
  have limit : significandLimit = 2 * twoPow 52 := rfl
  have middle : (2 * index + 1) * twoPow 52 = index * significandLimit + twoPow 52 := by
    rw [limit, Nat.add_mul, Nat.one_mul, Nat.mul_comm 2, Nat.mul_assoc]
  have below : middleOfShare sides index * sides ≤ index * significandLimit + twoPow 52 :=
    middle ▸ Nat.div_mul_le_self _ sides
  have above : index * significandLimit + twoPow 52 < middleOfShare sides index * sides + sides :=
    middle ▸ Nat.lt_div_mul_add (Nat.zero_lt_of_lt within)
  have near := roundSignificant_mul_near (middleOfShare_lt within) sides
  apply Nat.div_eq_of_lt_le
  · omega
  · rw [Nat.succ_mul]
    omega

theorem Fraction.face?_ofParts (parts : Fin significandLimit) {sides : Nat}
    (most : sides ≤ significandLimit) :
    (ofParts parts).face? sides =
      some (((roundSignificant (parts * sides) / significandLimit : Nat) : Int) + 1) := by
  have same : roundSignificant sides = sides := roundSignificant_of_le most
  have finite : significandLimit < doubleLimit := by decide +kernel
  have upright : ¬(sides : Int) < 0 := by omega
  rw [face?, Int.natAbs_natCast, same, if_pos (Nat.lt_of_le_of_lt most finite)]
  show some (if (sides : Int) < 0 then _ else
    ((roundSignificant (parts * sides) / significandLimit : Nat) : Int) + 1) = _
  rw [if_neg upright]

theorem Fraction.exists_parts {sides index : Nat} (within : index < sides)
    (few : 2 * sides ≤ twoPow 52) :
    ∃ parts, (ofParts parts).face? sides = some ((index : Int) + 1) := by
  have limit : twoPow 52 ≤ significandLimit := by decide
  refine ⟨⟨middleOfShare sides index, middleOfShare_lt within⟩, ?_⟩
  rw [face?_ofParts _ (by omega), roundSignificant_middleOfShare within few]

theorem Fraction.exists_value {sides index : Nat} (within : index < sides)
    (few : 2 * sides ≤ twoPow 52) :
    ∃ fraction : Fraction, fraction.face? sides = some ((index : Int) + 1) := by
  obtain ⟨parts, shown⟩ := exists_parts within few
  exact ⟨ofParts parts, shown⟩

theorem Fraction.rollDie_one (fraction : Fraction) : fraction.rollDie 1 = .ok 1 := by
  apply rollDie_of_face?
  have single : roundSignificant (Int.natAbs 1) = 1 := by decide
  have same : roundSignificant fraction.significand = fraction.significand :=
    roundSignificant_of_lt fraction.significand_lt
  have scaled : significandLimit ≤ twoPow fraction.scale :=
    Nat.pow_le_pow_right Nat.two_pos fraction.scale_ge
  have small : fraction.significand / twoPow fraction.scale = 0 :=
    Nat.div_eq_of_lt (Nat.lt_of_lt_of_le fraction.significand_lt scaled)
  have finite : 1 < doubleLimit := by decide +kernel
  rw [face?, single, if_pos finite, Nat.mul_one, same, small]
  rfl

theorem Source.rollDie_eq (sides : Int) (source : Source) :
    Supply.rollDie sides source = (source.next.1.rollDie sides, source.next.2) := rfl

theorem Source.fair (source : Source) {sides : Int} (least : 1 ≤ sides)
    (most : sides ≤ significandLimit) : Supply.Fair source sides := by
  intro later _ face shown
  rw [Source.rollDie_eq] at shown
  dsimp only at shown
  exact Fraction.face?_bounds least most (Fraction.face?_of_rollDie shown)

theorem Source.shows {sides : Int} (least : 1 ≤ sides) (most : sides ≤ significandLimit) :
    Supply.Shows Source sides := by
  intro source
  obtain ⟨face, shown⟩ := source.next.1.exists_face least most
  refine ⟨face, ?_⟩
  rw [Source.rollDie_eq]
  dsimp only
  exact Fraction.rollDie_of_face? shown

theorem mostSides_le_significandLimit : (mostSides : Int) ≤ significandLimit := by decide

def Fraction.quarter : Fraction := Twister.joinWords 0x40000000 0

def Fraction.threeQuarters : Fraction := Twister.joinWords 0xc0000000 0

theorem Fraction.rollDie_quarter : quarter.rollDie 2 = .ok 1 :=
  rollDie_of_face? (by decide +kernel)

theorem Fraction.rollDie_threeQuarters : threeQuarters.rollDie 2 = .ok 2 :=
  rollDie_of_face? (by decide +kernel)

def Source.twosThenOnes (twos used : Nat) : Source :=
  .stream (fun n => if n < twos then .threeQuarters else .quarter) used

theorem Source.rollDie_twosThenOnes (twos used : Nat) :
    Supply.rollDie 2 (twosThenOnes twos used) =
      (.ok (if used < twos then 2 else 1), twosThenOnes twos (used + 1)) := by
  simp only [Supply.rollDie, twosThenOnes, next]
  split
  · rw [Fraction.rollDie_threeQuarters]
  · rw [Fraction.rollDie_quarter]

end DiceFormula
