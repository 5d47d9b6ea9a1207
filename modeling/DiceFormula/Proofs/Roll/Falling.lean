import DiceFormula.Proofs.Random.Face
import Mathlib.Data.Stream.Init
import Mathlib.Tactic.Choose

namespace DiceFormula

structure Draw where
  sides : Int
  face : Int
  deriving DecidableEq

namespace Supply

variable {σ : Type} [Supply σ] {supply next left : σ} {draws more : List Draw}

/-- Dice from the supply fall like this, one after the other, and leave this of it. -/
inductive Falls : σ → List Draw → σ → Prop
  | nil (supply : σ) : Falls supply [] supply
  | cons {supply next left : σ} {draw : Draw} {draws : List Draw}
      (shown : rollDie draw.sides supply = (.ok draw.face, next))
      (others : Falls next draws left) : Falls supply (draw :: draws) left

theorem Falls.single {sides face : Int} (shown : rollDie sides supply = (.ok face, next)) :
    Falls supply [⟨sides, face⟩] next := .cons shown (.nil next)

theorem Falls.append (first : Falls supply draws next) (second : Falls next more left) :
    Falls supply (draws ++ more) left := by
  induction first with
  | nil _ => exact second
  | cons shown _ ih => exact .cons shown (ih second)

theorem Falls.of_append (falls : Falls supply (draws ++ more) left) :
    ∃ next, Falls supply draws next ∧ Falls next more left := by
  induction draws generalizing supply with
  | nil => exact ⟨supply, .nil supply, falls⟩
  | cons draw draws ih =>
    cases falls with
    | cons shown others =>
      obtain ⟨next, first, second⟩ := ih others
      exact ⟨next, .cons shown first, second⟩

theorem Falls.unique (one : Falls supply draws next) (two : Falls supply draws left) :
    next = left := by
  induction one with
  | nil _ =>
    cases two with
    | nil _ => rfl
  | cons shown _ ih =>
    cases two with
    | cons again others =>
      obtain rfl := (Prod.mk.inj (shown.symm.trans again)).2
      exact ih others

instance : Supply (Stream' Int) where
  rollDie _ faces := (.ok faces.head, faces.tail)

theorem falls_laidOut (draws : List Draw) (rest : Stream' Int) :
    Falls (draws.map Draw.face ++ₛ rest) draws rest := by
  induction draws with
  | nil => exact .nil rest
  | cons draw draws ih => exact .cons rfl ih

end Supply

namespace Source

open Decimal

def skip (source : Source) : Nat → Source
  | 0 => source
  | count + 1 => source.next.2.skip count

theorem skip_of_falls {source left : Source} {draws : List Draw}
    (falls : Supply.Falls source draws left) : left = source.skip draws.length := by
  induction falls with
  | nil _ => rfl
  | cons shown _ ih =>
    rw [rollDie_eq] at shown
    obtain ⟨_, rfl⟩ := Prod.mk.inj shown
    exact ih

theorem falls_stream {values : Nat → Fraction} {used : Nat} {draws : List Draw}
    (shown : ∀ n draw, draws[n]? = some draw →
      (values (used + n)).rollDie draw.sides = .ok draw.face) :
    Supply.Falls (stream values used) draws (stream values (used + draws.length)) := by
  induction draws generalizing used with
  | nil => exact .nil _
  | cons draw draws ih =>
    have first : Supply.rollDie draw.sides (stream values used) =
        (.ok draw.face, stream values (used + 1)) := by
      have face := shown 0 draw rfl
      rw [Nat.add_zero] at face
      rw [rollDie_eq]
      dsimp only [next]
      rw [face]
    rw [List.length_cons, Nat.add_comm draws.length, ← Nat.add_assoc]
    refine .cons first (ih fun n other found => ?_)
    rw [Nat.add_right_comm, Nat.add_assoc]
    exact shown (n + 1) other found

theorem exists_falls {draws : List Draw} (within : ∀ draw ∈ draws,
    1 ≤ draw.face ∧ draw.face ≤ draw.sides ∧ 2 * draw.sides ≤ twoPow 52) :
    ∃ source left : Source, Supply.Falls source draws left := by
  have fitting (n : Nat) : ∃ value : Fraction, ∀ draw, draws[n]? = some draw →
      value.rollDie draw.sides = .ok draw.face := by
    cases found : draws[n]? with
    | none => exact ⟨.quarter, nofun⟩
    | some draw =>
      obtain ⟨least, most, few⟩ := within draw (List.mem_of_getElem? found)
      have inside : draw.face.toNat - 1 < draw.sides.toNat := by omega
      obtain ⟨value, shown⟩ := Fraction.exists_value inside (by omega)
      have face : ((draw.face.toNat - 1 : Nat) : Int) + 1 = draw.face := by omega
      have sides : (draw.sides.toNat : Int) = draw.sides := by omega
      rw [face, sides] at shown
      refine ⟨value, fun other same => ?_⟩
      cases same
      exact Fraction.rollDie_of_face? shown
  choose values shown using fitting
  refine ⟨stream values 0, _, falls_stream fun n draw found => ?_⟩
  rw [Nat.zero_add]
  exact shown n draw found

end Source

end DiceFormula
