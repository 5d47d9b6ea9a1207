import DiceFormula.Decimal.Binary64

namespace DiceFormula

open Decimal (twoPow)

structure Digest where
  a : UInt64
  b : UInt64
  c : UInt64
  d : UInt64
  e : UInt64
  f : UInt64
  g : UInt64
  h : UInt64
  deriving DecidableEq

namespace Digest

def isPrime (n : Nat) : Bool := 1 < n && (List.range n).all fun d => d < 2 || n % d != 0

def extendRoot (degree n root : Nat) : Nat → Nat
  | 0 => root
  | bit + 1 =>
    let next := root + twoPow bit
    extendRoot degree n (if Nat.pow next degree ≤ n then next else root) bit

def rootFraction (degree n : Nat) : UInt64 :=
  (extendRoot degree (n * twoPow (64 * degree)) 0 68).toUInt64

def roundWords : List UInt64 := ((List.range 410).filter isPrime).map (rootFraction 3)

def start : Digest where
  a := rootFraction 2 2
  b := rootFraction 2 3
  c := rootFraction 2 5
  d := rootFraction 2 7
  e := rootFraction 2 11
  f := rootFraction 2 13
  g := rootFraction 2 17
  h := rootFraction 2 19

def turn (word count : UInt64) : UInt64 := (word >>> count) ||| (word <<< (64 - count))

def extendBlock (words : Array UInt64) : Nat → Array UInt64
  | 0 => words
  | count + 1 =>
    let back := fun distance => words.getD (words.size - distance) 0
    let early := turn (back 15) 1 ^^^ turn (back 15) 8 ^^^ (back 15 >>> 7)
    let late := turn (back 2) 19 ^^^ turn (back 2) 61 ^^^ (back 2 >>> 6)
    extendBlock (words.push (back 16 + early + back 7 + late)) count

def round (digest : Digest) (word : UInt64) : Digest :=
  let ⟨a, b, c, d, e, f, g, h⟩ := digest
  let choice := (e &&& f) ^^^ (~~~e &&& g)
  let majority := (a &&& b) ^^^ (a &&& c) ^^^ (b &&& c)
  let first := h + (turn e 14 ^^^ turn e 18 ^^^ turn e 41) + choice + word
  let second := (turn a 28 ^^^ turn a 34 ^^^ turn a 39) + majority
  ⟨first + second, a, b, c, d + first, e, f, g⟩

def add (digest other : Digest) : Digest where
  a := digest.a + other.a
  b := digest.b + other.b
  c := digest.c + other.c
  d := digest.d + other.d
  e := digest.e + other.e
  f := digest.f + other.f
  g := digest.g + other.g
  h := digest.h + other.h

def read (digest : Digest) (block : Array UInt64) : Digest :=
  let words := List.zipWith (· + ·) (extendBlock block 64).toList roundWords
  digest.add (words.foldl round digest)

def wordsOf (n count : Nat) : List UInt64 :=
  (List.range count).map fun index => (n / twoPow (64 * (count - 1 - index))).toUInt64

def readBlocks (digest : Digest) (words : List UInt64) : Nat → Digest
  | 0 => digest
  | count + 1 => readBlocks (digest.read (words.take 16).toArray) (words.drop 16) count

def ofBytes (bytes : List UInt8) : Digest :=
  let size := bytes.length
  let blocks := (size + 16) / 128 + 1
  let message := bytes.foldl (fun n byte => 256 * n + byte.toNat) 0
  let closed := (2 * message + 1) * twoPow (1024 * blocks - 8 * size - 1) + 8 * size
  start.readBlocks (wordsOf closed (16 * blocks)) blocks

def toNat (digest : Digest) : Nat :=
  [digest.a, digest.b, digest.c, digest.d, digest.e, digest.f, digest.g, digest.h].foldl
    (fun n word => twoPow 64 * n + word.toNat) 0

end Digest

end DiceFormula

namespace DiceFormula.Seed

open Decimal

def modulus : Nat := twoPow 61 - 1

def remainder (significand : Nat) (exponent : Int) : Nat :=
  significand * twoPow (exponent.emod 61).toNat % modulus

/-- A negative remainder is taken modulo `twoPow 64`, and minus one counts as minus two. -/
def withSign (negative : Bool) (remainder : Nat) : Nat :=
  if negative && remainder ≠ 0 then twoPow 64 - max remainder 2 else remainder

def ofReal : Binary64 → Nat
  | .finite negative significand exponent => withSign negative (remainder significand exponent)
  | .infinite negative => withSign negative 314159
  | .undefined => 0

/-- The bytes of a text and then those of its digest, as one number. -/
def ofText (text : String) : Nat :=
  let bytes := text.toUTF8.toList
  let message := bytes.foldl (fun n byte => 256 * n + byte.toNat) 0
  message * twoPow 512 + (Digest.ofBytes bytes).toNat

end DiceFormula.Seed
