namespace DiceFormula.Decimal

def twoPow (exponent : Nat) : Nat := Nat.pow 2 exponent

def tenPow (exponent : Nat) : Nat := Nat.pow 10 exponent

def significandLimit : Nat := 0x20000000000000

/-- The nearest whole number to a quotient; a half goes to the even neighbour. -/
def roundQuotient (num den : Nat) : Nat :=
  let quotient := num / den
  let twice := 2 * (num % den)
  if twice < den then quotient
  else if den < twice then quotient + 1
  else quotient + quotient % 2

def roundSignificant (n : Nat) : Nat :=
  let unit := twoPow (n.log2 - 52)
  roundQuotient n unit * unit

def doubleLimit : Nat := twoPow 1024

theorem roundQuotient_one (n : Nat) : roundQuotient n 1 = n := by
  simp [roundQuotient, Nat.mod_one]

theorem roundSignificant_of_lt {n : Nat} (small : n < significandLimit) :
    roundSignificant n = n := by
  have exponent : n.log2 - 52 = 0 := by
    rcases Nat.eq_zero_or_pos n with rfl | positive
    · rfl
    · have least := Nat.log2_self_le (Nat.ne_of_gt positive)
      rcases Nat.lt_or_ge 52 n.log2 with large | bound
      · have grown := Nat.le_trans (Nat.pow_le_pow_right Nat.two_pos large) least
        exact absurd small (Nat.not_lt.mpr grown)
      · omega
  simp [roundSignificant, exponent, twoPow, roundQuotient_one]

/-- A double taken apart. A finite one is its significand times a power of two. -/
inductive Binary64
  | finite (negative : Bool) (significand : Nat) (exponent : Int)
  | infinite (negative : Bool)
  | undefined
  deriving DecidableEq

namespace Binary64

def ofBits (bits : Nat) : Binary64 :=
  let negative := bits / twoPow 63 % 2 == 1
  let biased : Nat := bits / twoPow 52 % twoPow 11
  let trailing : Nat := bits % twoPow 52
  if biased = 0x7ff then
    if trailing = 0 then infinite negative else undefined
  else if biased = 0 then finite negative trailing (-1074)
  else finite negative (twoPow 52 + trailing) (biased - 1075)

def ofFloat (x : Float) : Binary64 := ofBits x.toBits.toNat

def exceeds (x : Binary64) (limit : Int) : Bool :=
  match x with
  | finite negative significand exponent =>
    let signed : Int := if negative then -significand else significand
    if 0 ≤ exponent then limit < signed * twoPow exponent.toNat
    else limit * twoPow exponent.natAbs < signed
  | infinite negative => !negative
  | undefined => false

end Binary64

def bitsOfQuotient (significand scale : Nat) : Nat :=
  if significand = 0 then 0
  else
    let top := significand.log2
    if scale < top + 1023 then
      (top + 1023 - scale) * twoPow 52 + (significand * twoPow 52 / twoPow top - twoPow 52)
    else significand * twoPow 1074 / twoPow scale

def floatOfInt? (n : Int) : Option Float :=
  let rounded := roundSignificant n.natAbs
  if rounded < doubleLimit then
    let size := Float.ofBits (bitsOfQuotient rounded 0).toUInt64
    some (if n < 0 then -size else size)
  else none

end DiceFormula.Decimal
