import DiceFormula.Proofs.Random.Face

namespace DiceFormula

open Decimal

theorem Twister.nextFraction_eq_ofParts (twister : Twister) :
    ∃ parts, twister.nextFraction.1 = Fraction.ofParts parts := ⟨_, rfl⟩

namespace Fraction

variable {sides : Nat} (least : 1 ≤ sides) (most : sides ≤ significandLimit)

include most

theorem rollDie_ofParts (parts : Fin significandLimit) :
    ∃ product, Nearest (parts * sides) product ∧
      (ofParts parts).rollDie sides = .ok (((product / significandLimit : Nat) : Int) + 1) :=
  ⟨_, nearest_roundSignificant _, rollDie_of_face? (face?_ofParts parts most)⟩

theorem rollDie_mono {fewer more : Fin significandLimit} (le : fewer ≤ more) {low high : Int}
    (shown : (ofParts fewer).rollDie sides = .ok low)
    (later : (ofParts more).rollDie sides = .ok high) : low ≤ high := by
  have first := face?_of_rollDie shown
  have second := face?_of_rollDie later
  rw [face?_ofParts _ most] at first second
  cases first
  cases second
  have products : (fewer : Nat) * sides ≤ more * sides := Nat.mul_le_mul_right sides le
  have faces := Nat.div_le_div_right (c := significandLimit) (roundSignificant_mono products)
  omega

include least

theorem rollDie_within (parts : Fin significandLimit) :
    ∃ product face, Nearest (parts * sides) product ∧
      face = ((product / significandLimit : Nat) : Int) + 1 ∧
      (ofParts parts).rollDie sides = .ok face ∧ 1 ≤ face ∧ face ≤ sides := by
  obtain ⟨product, nearest, shown⟩ := rollDie_ofParts most parts
  have bounds := face?_bounds (by omega) (by omega) (face?_of_rollDie shown)
  exact ⟨product, _, nearest, rfl, shown, bounds⟩

end Fraction

/-- Every face of a die comes up for some value, in the order of the values, and no value shows any
    other, though a product just below a whole number may be rounded up to it. The values of the
    seeded generator are parts of one such as these. -/
theorem every_face_in_order :
    (∀ twister, ∃ parts, (Source.seeded twister).next.1 = Fraction.ofParts parts) ∧
    ∀ sides : Nat, 1 ≤ sides → sides ≤ significandLimit →
      (∀ parts : Fin significandLimit, ∃ product face, Nearest (parts * sides) product ∧
        face = ((product / significandLimit : Nat) : Int) + 1 ∧
        (Fraction.ofParts parts).rollDie sides = .ok face ∧ 1 ≤ face ∧ face ≤ sides) ∧
      (∀ fewer more : Fin significandLimit, fewer ≤ more → ∀ low high,
        (Fraction.ofParts fewer).rollDie sides = .ok low →
        (Fraction.ofParts more).rollDie sides = .ok high → low ≤ high) ∧
      (sides ≤ mostSides → ∀ face : Int, 1 ≤ face → face ≤ sides →
        ∃ parts, (Fraction.ofParts parts).rollDie sides = .ok face) := by
  refine ⟨Twister.nextFraction_eq_ofParts, fun sides least most => ⟨?_, ?_, ?_⟩⟩
  · exact Fraction.rollDie_within least most
  · intro fewer more le low high
    exact Fraction.rollDie_mono most le
  · intro few face first last
    have small : 2 * mostSides ≤ twoPow 52 := by decide
    obtain ⟨index, rfl⟩ : ∃ index : Nat, face = (index : Int) + 1 := ⟨(face - 1).toNat, by omega⟩
    have within : index < sides := by omega
    obtain ⟨parts, shown⟩ := Fraction.exists_parts within (by omega)
    exact ⟨parts, Fraction.rollDie_of_face? shown⟩

/-- The greatest value with the largest die that may be written down. Nearest to the product, which
    falls short of a whole number by 10000 parts, is one that falls short of it by 16384. -/
theorem every_face_in_order_of_ten_thousand :
    let last : Fin significandLimit := ⟨0x1fffffffffffff, by decide⟩
    let die : Nat := 10000
    1 ≤ die ∧ die ≤ significandLimit ∧ die ≤ mostSides ∧
      (∃ product face, Nearest (last * die) product ∧
        face = ((product / significandLimit : Nat) : Int) + 1 ∧
        (Fraction.ofParts last).rollDie die = .ok face ∧ 1 ≤ face ∧ face ≤ die) ∧
      (∀ fewer ≤ last, ∀ low, (Fraction.ofParts fewer).rollDie die = .ok low → low ≤ 10000) ∧
      ∃ parts, (Fraction.ofParts parts).rollDie die = .ok 7777 := by
  intro last die
  have least : 1 ≤ die := by decide
  have most : die ≤ significandLimit := by decide
  have few : die ≤ mostSides := by decide
  obtain ⟨_, faces⟩ := every_face_in_order
  obtain ⟨within, ordered, reached⟩ := faces die least most
  refine ⟨least, most, few, within last, ?_, reached few 7777 (by decide) (by decide)⟩
  intro fewer le low shown
  exact ordered fewer last le low 10000 shown (by decide +kernel)

end DiceFormula
