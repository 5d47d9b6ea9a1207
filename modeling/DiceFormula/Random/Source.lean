import DiceFormula.Decimal.Binary64
import DiceFormula.Decimal.Writing

namespace DiceFormula

open Decimal

/-- A double from zero up to one: `significand / twoPow scale`. A zero may carry a minus sign. -/
structure Fraction where
  significand : Nat
  scale : Nat
  minus : Bool
  significand_lt : significand < significandLimit
  scale_ge : 53 ≤ scale
  deriving DecidableEq

namespace Fraction

def ofParts (parts : Fin significandLimit) : Fraction where
  significand := parts
  scale := 53
  minus := false
  significand_lt := parts.isLt
  scale_ge := Nat.le_refl 53

def ofFloat? (x : Float) : Option Fraction :=
  match Binary64.ofFloat x with
  | .finite negative significand exponent =>
    if inside : significand < significandLimit ∧ exponent ≤ -53 then
      if negative ∧ significand ≠ 0 then none
      else some ⟨significand, exponent.natAbs, negative, inside.1, by omega⟩
    else none
  | _ => none

def toFloat (fraction : Fraction) : Float :=
  let size := Float.ofBits (bitsOfQuotient fraction.significand fraction.scale).toUInt64
  if fraction.minus then -size else size

/-- The face a die shows: the product with the number of sides, rounded as doubles are and cut
    to its whole part, counted from one. None if the number of sides exceeds every double. -/
def face? (fraction : Fraction) (sides : Int) : Option Int :=
  let size := roundSignificant sides.natAbs
  if size < doubleLimit then
    let whole := roundSignificant (fraction.significand * size) / twoPow fraction.scale
    some (if sides < 0 then 1 - whole else whole + 1)
  else none

end Fraction

structure Twister where
  words : Array UInt32
  position : Nat

namespace Twister

def length : Nat := 624

def word (words : Array UInt32) (index : Nat) : UInt32 := words.getD index 0

def fold (value : UInt32) : UInt32 := value ^^^ (value >>> 30)

def spread (start : UInt32) : Array UInt32 :=
  (List.range (length - 1)).foldl
    (fun words index => words.push (1812433253 * fold (word words index) + (index + 1).toUInt32))
    #[start]

def wrap (words : Array UInt32) (index : Nat) : Array UInt32 × Nat :=
  if length ≤ index then (words.setIfInBounds 0 (word words (length - 1)), 1) else (words, index)

def mixKey (key : Array UInt32) (words : Array UInt32) (index turn : Nat) :
    Nat → Array UInt32 × Nat
  | 0 => (words, index)
  | rounds + 1 =>
    let mixed := (word words index ^^^ (fold (word words (index - 1)) * 1664525)) +
      key.getD turn 0 + turn.toUInt32
    let (words, next) := wrap (words.setIfInBounds index mixed) (index + 1)
    mixKey key words next (if turn + 1 < key.size then turn + 1 else 0) rounds

def mixIndex (words : Array UInt32) (index : Nat) : Nat → Array UInt32
  | 0 => words
  | rounds + 1 =>
    let mixed := (word words index ^^^ (fold (word words (index - 1)) * 1566083941)) -
      index.toUInt32
    let (words, next) := wrap (words.setIfInBounds index mixed) (index + 1)
    mixIndex words next rounds

def ofKey (key : Array UInt32) : Twister :=
  let (words, index) := mixKey key (spread 19650218) 1 0 (max length key.size)
  ⟨(mixIndex words index (length - 1)).setIfInBounds 0 0x80000000, length⟩

def keyWords (n : Nat) : List UInt32 :=
  if small : n < 0x100000000 then [n.toUInt32]
  else n.toUInt32 :: keyWords (n / 0x100000000)
termination_by n
decreasing_by omega

/-- The sign of a seed makes no difference. -/
def ofSeed (seed : Int) : Twister := ofKey (keyWords seed.natAbs).toArray

def twistWord (words : Array UInt32) (index : Nat) : Array UInt32 :=
  let joined := (word words index &&& 0x80000000) |||
    (word words ((index + 1) % length) &&& 0x7fffffff)
  let odd : UInt32 := if joined &&& 1 = 1 then 0x9908b0df else 0
  words.setIfInBounds index (word words ((index + 397) % length) ^^^ (joined >>> 1) ^^^ odd)

def twist (words : Array UInt32) : Array UInt32 := (List.range length).foldl twistWord words

def temper (value : UInt32) : UInt32 :=
  let value := value ^^^ (value >>> 11)
  let value := value ^^^ ((value <<< 7) &&& 0x9d2c5680)
  let value := value ^^^ ((value <<< 15) &&& 0xefc60000)
  value ^^^ (value >>> 18)

def next (twister : Twister) : UInt32 × Twister :=
  if twister.position < length then
    (temper (word twister.words twister.position), ⟨twister.words, twister.position + 1⟩)
  else
    let words := twist twister.words
    (temper (word words 0), ⟨words, 1⟩)

def joinWords (first second : UInt32) : Fraction :=
  .ofParts ⟨first.toNat / 32 * 0x4000000 + second.toNat / 64, by
    have high := first.toNat_lt
    have low := second.toNat_lt
    unfold significandLimit
    omega⟩

def nextFraction (twister : Twister) : Fraction × Twister :=
  let (first, twister) := twister.next
  let (second, twister) := twister.next
  (joinWords first second, twister)

end Twister

/-- Where the values of dice come from: a seeded generator, or any values laid out in advance. -/
inductive Source
  | seeded (twister : Twister)
  | stream (values : Nat → Fraction) (used : Nat)

inductive SourceFault
  | noValues
  | valueOutside (value : Float)
  | zeroSides
  | tooLarge

def SourceFault.message? : SourceFault → Option String
  | noValues => some "sequence_source needs at least one value"
  | valueOutside value =>
    let shown := writeShortest plainLayout (.ofFloat value)
    some ("random values must lie in [0, 1), got " ++ shown)
  | zeroSides => none
  | tooLarge => none

namespace Source

def next : Source → Fraction × Source
  | seeded twister =>
    let (fraction, twister) := twister.nextFraction
    (fraction, seeded twister)
  | stream values used => (values used, stream values (used + 1))

def ofSeed (seed : Int) : Source := seeded (.ofSeed seed)

def cycle (values : Array Fraction) (nonempty : 0 < values.size) : Source :=
  stream (fun n => have inside := Nat.mod_lt n nonempty; values[n % values.size]) 0

def checkValue (value : Float) : Except SourceFault Fraction :=
  match Fraction.ofFloat? value with
  | some fraction => .ok fraction
  | none => .error (.valueOutside value)

def ofValues (values : List Float) : Except SourceFault Source := do
  if values.isEmpty then throw .noValues
  let fractions ← values.mapM checkValue
  if nonempty : 0 < fractions.toArray.size then return cycle fractions.toArray nonempty
  else throw .noValues

def faceValue (sides face : Int) : Except SourceFault Float :=
  match floatOfInt? face, floatOfInt? sides with
  | some face, some size => if sides = 0 then .error .zeroSides else .ok ((face - 0.5) / size)
  | _, _ => .error .tooLarge

def ofFaces (sides : Int) (faces : List Int) : Except SourceFault Source := do
  ofValues (← faces.mapM (faceValue sides))

end Source

end DiceFormula
