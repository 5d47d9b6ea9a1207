import DiceFormula.Decimal.Binary64

namespace DiceFormula.Text

/-- White space of every script; the four information separators count. -/
def isBlank (c : Char) : Bool :=
  let code := c.toNat
  (0x9 ≤ code && code ≤ 0xd) || (0x1c ≤ code && code ≤ 0x20) || code == 0x85 || code == 0xa0 ||
    code == 0x1680 || (0x2000 ≤ code && code ≤ 0x200a) || code == 0x2028 || code == 0x2029 ||
    code == 0x202f || code == 0x205f || code == 0x3000

def condense (cs : List Char) : List Char := cs.filter fun c => !isBlank c

def trim (cs : List Char) : List Char :=
  ((cs.dropWhile isBlank).reverse.dropWhile isBlank).reverse

theorem condense_append (front back : List Char) :
    condense (front ++ back) = condense front ++ condense back := by
  simp [condense]

theorem length_condense_le (cs : List Char) : (condense cs).length ≤ cs.length :=
  List.length_filter_le _ _

def digitZeros : List Nat := [
  0x30, 0x660, 0x6f0, 0x7c0, 0x966, 0x9e6, 0xa66, 0xae6, 0xb66, 0xbe6, 0xc66, 0xce6, 0xd66, 0xde6,
  0xe50, 0xed0, 0xf20, 0x1040, 0x1090, 0x17e0, 0x1810, 0x1946, 0x19d0, 0x1a80, 0x1a90, 0x1b50,
  0x1bb0, 0x1c40, 0x1c50, 0xa620, 0xa8d0, 0xa900, 0xa9d0, 0xa9f0, 0xaa50, 0xabf0, 0xff10, 0x104a0,
  0x10d30, 0x11066, 0x110f0, 0x11136, 0x111d0, 0x112f0, 0x11450, 0x114d0, 0x11650, 0x116c0,
  0x11730, 0x118e0, 0x11950, 0x11c50, 0x11d50, 0x11da0, 0x16a60, 0x16ac0, 0x16b50, 0x1d7ce,
  0x1d7d8, 0x1d7e2, 0x1d7ec, 0x1d7f6, 0x1e140, 0x1e2f0, 0x1e950, 0x1fbf0]

def digitValue? (c : Char) : Option Nat :=
  (digitZeros.find? fun start => start ≤ c.toNat && c.toNat < start + 10).map (c.toNat - ·)

def isDigit (c : Char) : Bool := (digitValue? c).isSome

def digitValue (c : Char) : Nat := (digitValue? c).getD 0

theorem digitValue_lt (c : Char) : digitValue c < 10 := by
  unfold digitValue digitValue?
  cases found : digitZeros.find? fun start => start ≤ c.toNat && c.toNat < start + 10 with
  | none => simp
  | some start =>
    have inside := List.find?_some found
    simp only [Bool.and_eq_true, decide_eq_true_eq] at inside
    simp only [Option.map_some, Option.getD_some]
    omega

theorem isDigit_of_ascii (c : Char) (ascii : c.isDigit = true) : isDigit c = true := by
  simp only [Char.isDigit, Bool.and_eq_true, decide_eq_true_eq, ge_iff_le,
    UInt32.le_iff_toNat_le] at ascii
  have least : 0x30 ≤ c.toNat := ascii.1
  have greatest : c.toNat ≤ 0x39 := ascii.2
  have inside : (0x30 ≤ c.toNat && c.toNat < 0x30 + 10) = true := by
    simp only [Bool.and_eq_true, decide_eq_true_eq]
    omega
  simp [isDigit, digitValue?, digitZeros, inside]

/-- A numeral with more digits than this is not read, leading zeros included. -/
def longestNumeral : Nat := 4300

def numeralValue (digits : List Char) : Nat :=
  digits.foldl (fun value c => 10 * value + digitValue c) 0

theorem numeralValue_concat (digits : List Char) (c : Char) :
    numeralValue (digits ++ [c]) = 10 * numeralValue digits + digitValue c := by
  simp [numeralValue, List.foldl_append]

def readNumeral? (digits : List Char) : Option Nat :=
  if digits.length ≤ longestNumeral then some (numeralValue digits) else none

def groupedDigits? : List Char → Option (List Char)
  | [] => none
  | [c] => if isDigit c then some [c] else none
  | c :: '_' :: rest => if isDigit c then (groupedDigits? rest).map (c :: ·) else none
  | c :: rest => if isDigit c then (groupedDigits? rest).map (c :: ·) else none

/-- Reads a whole number with blanks around it, one sign, and low lines between digits. -/
def readInteger? (cs : List Char) : Option Int :=
  let unsigned := fun rest => (groupedDigits? rest).bind readNumeral?
  match trim cs with
  | '+' :: rest => (unsigned rest).map fun value => (value : Int)
  | '-' :: rest => (unsigned rest).map fun value => -(value : Int)
  | rest => (unsigned rest).map fun value => (value : Int)

def isWritable (n : Int) : Bool := n.natAbs < Decimal.tenPow longestNumeral

end DiceFormula.Text
