import DiceFormula.Decimal.Binary64

namespace DiceFormula.Decimal

structure Cell where
  low : Nat
  value : Nat
  high : Nat
  den : Nat
  closed : Bool

namespace Cell

/-- The numbers that round to a significand times a power of two. A power of two has a nearer
    lower neighbour, except the least; the ends belong to an even significand. -/
def ofDouble (significand : Nat) (exponent : Int) : Cell :=
  let below := if significand = twoPow 52 ∧ exponent ≠ -1074 then 1 else 2
  let scale := twoPow exponent.toNat
  ⟨(4 * significand - below) * scale, 4 * significand * scale, (4 * significand + 2) * scale,
    4 * twoPow (-exponent).toNat, significand % 2 == 0⟩

def contains (cell : Cell) (num den : Nat) : Bool :=
  let low := cell.low * den
  let point := num * cell.den
  let high := cell.high * den
  if cell.closed then low ≤ point && point ≤ high else low < point && point < high

def onGrid? (cell : Cell) (power : Int) : Option Nat :=
  let unit := tenPow power.toNat
  let parts := tenPow (-power).toNat
  let lower := cell.value * parts / (cell.den * unit)
  let nearest := roundQuotient (cell.value * parts) (cell.den * unit)
  match cell.contains (lower * unit) parts, cell.contains ((lower + 1) * unit) parts with
  | true, true => some nearest
  | true, false => some lower
  | false, true => some (lower + 1)
  | false, false => none

def magnitude (cell : Cell) : Int :=
  (Nat.toDigits 10 (cell.value * tenPow 400 / cell.den)).length - 400

/-- Tries ever finer grids. Seventeen digits always suffice. -/
def shortestFrom (cell : Cell) (digits : Nat) : Nat → Nat × Int
  | 0 => (0, 0)
  | tries + 1 =>
    let power := cell.magnitude - digits
    match cell.onGrid? power with
    | some multiple => (multiple, power)
    | none => cell.shortestFrom (digits + 1) tries

def shortest (cell : Cell) : Nat × Int := cell.shortestFrom 1 17

end Cell

structure Layout where
  leastPositional : Int
  pastPositional : Int
  exponentWidth : Nat

/-- Positional below ten to the sixteenth and down to four places, always with a point. -/
def plainLayout : Layout := ⟨-4, 16, 2⟩

def padLeft (width : Nat) (digits : List Char) : List Char :=
  List.replicate (width - digits.length) '0' ++ digits

def dropTrailingZeros (digits : List Char) : List Char :=
  (digits.reverse.dropWhile (· == '0')).reverse

def Layout.write (layout : Layout) (digits : List Char) (point : Int) : List Char :=
  let first := point - 1
  if layout.leastPositional ≤ first ∧ first < layout.pastPositional then
    if point ≤ 0 then '0' :: '.' :: List.replicate (-point).toNat '0' ++ digits
    else
      let whole := point.toNat
      let fraction := digits.drop whole
      digits.take whole ++ List.replicate (whole - digits.length) '0' ++
        '.' :: (if fraction.isEmpty then ['0'] else fraction)
  else
    let mantissa := match digits with
      | [] => []
      | [digit] => [digit]
      | digit :: rest => digit :: '.' :: rest
    let sign := if first < 0 then '-' else '+'
    mantissa ++ 'e' :: sign :: padLeft layout.exponentWidth (Nat.toDigits 10 first.natAbs)

def writeShortest (layout : Layout) (x : Binary64) : String :=
  match x with
  | .undefined => "nan"
  | .infinite negative => if negative then "-inf" else "inf"
  | .finite negative significand exponent =>
    let size :=
      if significand = 0 then ['0', '.', '0']
      else
        let (multiple, power) := (Cell.ofDouble significand exponent).shortest
        let digits := Nat.toDigits 10 multiple
        layout.write (dropTrailingZeros digits) (digits.length + power)
    String.ofList (if negative then '-' :: size else size)

/-- So many places after the point, rounded from the exact value. A sign outlives its digits. -/
def writeFixed (places : Nat) (x : Binary64) : String :=
  match x with
  | .undefined => "nan"
  | .infinite negative => if negative then "-inf" else "inf"
  | .finite negative significand exponent =>
    let scaled := roundQuotient (significand * twoPow exponent.toNat * tenPow places)
      (twoPow (-exponent).toNat)
    let digits := padLeft (places + 1) (Nat.toDigits 10 scaled)
    let whole := digits.take (digits.length - places)
    let size := whole ++ '.' :: digits.drop (digits.length - places)
    String.ofList (if negative then '-' :: size else size)

def digitsBefore (n : Nat) (after : List Char) : Nat → List Char
  | 0 => after
  | count + 1 => digitsBefore (n / 10) ((n % 10).digitChar :: after) count

def chunkLength : Nat := 18

def chunkLimit : Nat := tenPow chunkLength

theorem one_lt_chunkLimit : 1 < chunkLimit := by decide

/-- Puts a number before what follows it. A long one is cut into chunks, since a division takes
    longer the longer the number is. -/
def numeralBefore (n : Nat) (after : List Char) : List Char :=
  if n < chunkLimit then Nat.toDigits 10 n ++ after
  else numeralBefore (n / chunkLimit) (digitsBefore (n % chunkLimit) after chunkLength)
termination_by n
decreasing_by
  have limit := one_lt_chunkLimit
  exact Nat.div_lt_self (by omega) limit

def writeWhole (n : Int) : String :=
  if n < 0 then "-" ++ String.ofList (numeralBefore n.natAbs [])
  else String.ofList (numeralBefore n.natAbs [])

theorem toDigits_digitsBefore {m n : Nat} (count : Nat) (positive : 0 < m)
    (bound : n < tenPow count) (after : List Char) :
    Nat.toDigits 10 m ++ digitsBefore n after count =
      Nat.toDigits 10 (m * tenPow count + n) ++ after := by
  induction count generalizing n after with
  | zero =>
    have zero : n = 0 := by simp [tenPow] at bound; exact bound
    simp [digitsBefore, tenPow, zero]
  | succ count step =>
    have power : tenPow (count + 1) = 10 * tenPow count := by
      simp [tenPow, Nat.pow_succ, Nat.mul_comm]
    have least : 0 < tenPow count := Nat.pow_pos (by decide)
    have large : 10 ≤ m * tenPow (count + 1) + n := by
      have product : 0 < m * tenPow count := Nat.mul_pos positive least
      rw [power, Nat.mul_left_comm]
      omega
    have quotient : (m * tenPow (count + 1) + n) / 10 = m * tenPow count + n / 10 := by
      rw [power, Nat.mul_left_comm]
      omega
    have last : (m * tenPow (count + 1) + n) % 10 = n % 10 := by
      rw [power, Nat.mul_left_comm]
      omega
    rw [digitsBefore, step (by omega), Nat.toDigits_of_base_le (by decide) large, quotient, last]
    simp

theorem numeralBefore_eq (n : Nat) (after : List Char) :
    numeralBefore n after = Nat.toDigits 10 n ++ after := by
  fun_induction numeralBefore n after with
  | case1 => rfl
  | case2 n after large step =>
    have limit := one_lt_chunkLimit
    have positive : 0 < n / chunkLimit := Nat.div_pos (by omega) (by omega)
    have bound : n % chunkLimit < tenPow chunkLength := Nat.mod_lt n (by omega)
    rw [step, toDigits_digitsBefore chunkLength positive bound,
      show tenPow chunkLength = chunkLimit from rfl, Nat.mul_comm, Nat.div_add_mod]

theorem writeWhole_eq_toString (n : Int) : writeWhole n = toString n := by
  rw [Int.toString_eq_repr, writeWhole, numeralBefore_eq, List.append_nil]
  cases n with
  | ofNat n => rfl
  | negSucc n =>
    rw [if_pos (Int.negSucc_lt_zero n)]
    rfl

end DiceFormula.Decimal
