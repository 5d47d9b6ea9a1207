import DiceFormula.Atom
import DiceFormula.Operator
import DiceFormula.Text.Numeral

namespace DiceFormula

inductive Lexeme
  | atom (atom : Atom)
  | operator (operator : Operator)
  | paren (isOpen : Bool)
  deriving DecidableEq

structure Token where
  text : String
  position : Int
  lexeme : Lexeme
  deriving DecidableEq

def Token.stop (token : Token) : Int := token.position + token.text.length

inductive Suffix
  | plain
  | conditional (comparison : Comparison) (threshold : List Char)
  | reroll (kind : RerollKind) (comparison : Option Comparison) (threshold : List Char)
  deriving DecidableEq

/-- A token as it was written: the six token forms, dice sharing one constructor. -/
inductive Form
  | dice (count : List Char) (letter : Char) (sides : List Char) (suffix : Suffix)
  | operator (operator : Operator)
  | paren (isOpen : Bool)
  | number (digits : List Char)
  deriving DecidableEq

namespace Suffix

def text : Suffix → List Char
  | plain => []
  | conditional comparison threshold => comparison.symbol.toList ++ threshold
  | reroll kind comparison threshold =>
    'r' :: kind.letter.toList ++ (comparison.elim [] fun c => c.symbol.toList) ++ threshold

end Suffix

namespace Form

def text : Form → List Char
  | dice count letter sides suffix => count ++ letter :: sides ++ suffix.text
  | operator op => op.symbol.toList
  | paren isOpen => if isOpen then ['('] else [')']
  | number digits => digits

end Form

def Comparison.read? : List Char → Option (Comparison × List Char)
  | '>' :: '=' :: rest => some (.greaterOrEqual, rest)
  | '<' :: '=' :: rest => some (.lessOrEqual, rest)
  | '=' :: '=' :: rest => some (.doubledEqual, rest)
  | '>' :: rest => some (.greater, rest)
  | '<' :: rest => some (.less, rest)
  | '=' :: rest => some (.equal, rest)
  | _ => none

def RerollKind.read : List Char → RerollKind × List Char
  | 'o' :: rest => (.once, rest)
  | 'r' :: rest => (.recursive, rest)
  | rest => (.exploding, rest)

def readDigits? (cs : List Char) : Option (List Char × List Char) :=
  let digits := cs.takeWhile Text.isDigit
  if digits.isEmpty then none else some (digits, cs.dropWhile Text.isDigit)

namespace Suffix

def readConditional? (cs : List Char) : Option (Suffix × List Char) := do
  let (comparison, afterComparison) ← Comparison.read? cs
  let (threshold, rest) ← readDigits? afterComparison
  return (conditional comparison threshold, rest)

/-- A reroll may leave its comparison out; the doubled equality sign is not one of its own. -/
def readReroll? : List Char → Option (Suffix × List Char)
  | 'r' :: afterMark =>
    let (kind, afterKind) := RerollKind.read afterMark
    match Comparison.read? afterKind with
    | some (.doubledEqual, _) => none
    | some (comparison, afterComparison) =>
      (readDigits? afterComparison).map fun (threshold, rest) =>
        (reroll kind (some comparison) threshold, rest)
    | none =>
      (readDigits? afterKind).map fun (threshold, rest) => (reroll kind none threshold, rest)
  | _ => none

def read (cs : List Char) : Suffix × List Char :=
  ((readConditional? cs).orElse fun _ => readReroll? cs).getD (plain, cs)

end Suffix

namespace Form

def readDice? (cs : List Char) : Option (Form × List Char) :=
  match cs.dropWhile Text.isDigit with
  | [] => none
  | letter :: afterLetter =>
    if letter = 'd' ∨ letter = 'D' then
      (readDigits? afterLetter).map fun (sides, afterSides) =>
        let (suffix, rest) := Suffix.read afterSides
        (dice (cs.takeWhile Text.isDigit) letter sides suffix, rest)
    else none

def readSign? : List Char → Option (Form × List Char)
  | '+' :: rest => some (operator .add, rest)
  | '-' :: rest => some (operator .subtract, rest)
  | '*' :: rest => some (operator .multiply, rest)
  | '/' :: rest => some (operator .divide, rest)
  | '(' :: rest => some (paren true, rest)
  | ')' :: rest => some (paren false, rest)
  | _ => none

def readNumber? (cs : List Char) : Option (Form × List Char) :=
  (readDigits? cs).map fun (digits, rest) => (number digits, rest)

/-- The longest token at the front, and what comes after it. -/
def read? (cs : List Char) : Option (Form × List Char) :=
  (readDice? cs).orElse fun _ => (readSign? cs).orElse fun _ => readNumber? cs

end Form

theorem readDigits_split {cs digits rest : List Char}
    (found : readDigits? cs = some (digits, rest)) : digits ++ rest = cs ∧ digits ≠ [] := by
  simp only [readDigits?] at found
  split at found
  · cases found
  · rename_i nonempty
    cases found
    exact ⟨List.takeWhile_append_dropWhile, by simpa using nonempty⟩

theorem Comparison.read_split {cs rest : List Char} {comparison : Comparison}
    (found : Comparison.read? cs = some (comparison, rest)) :
    comparison.symbol.toList ++ rest = cs := by
  unfold Comparison.read? at found
  split at found <;> cases found <;> rfl

theorem RerollKind.read_split (cs : List Char) :
    (RerollKind.read cs).1.letter.toList ++ (RerollKind.read cs).2 = cs := by
  unfold RerollKind.read
  split <;> simp [RerollKind.letter]

namespace Suffix

theorem readConditional_split {cs rest : List Char} {suffix : Suffix}
    (found : readConditional? cs = some (suffix, rest)) : suffix.text ++ rest = cs := by
  simp only [readConditional?, bind, Option.bind_eq_some_iff, pure, Option.some.injEq,
    Prod.mk.injEq] at found
  obtain ⟨⟨comparison, afterComparison⟩, compared, ⟨threshold, after⟩, digits, rfl, rfl⟩ := found
  simp only [text, List.append_assoc, (readDigits_split digits).1, Comparison.read_split compared]

theorem readReroll_split {cs rest : List Char} {suffix : Suffix}
    (found : readReroll? cs = some (suffix, rest)) : suffix.text ++ rest = cs := by
  unfold readReroll? at found
  split at found
  · rename_i afterMark
    have marked := RerollKind.read_split afterMark
    revert found
    generalize RerollKind.read afterMark = marker at marked
    obtain ⟨kind, afterKind⟩ := marker
    intro found
    simp only at found marked
    split at found
    · cases found
    · rename_i comparison afterComparison _ compared
      simp only [Option.map_eq_some_iff, Prod.mk.injEq] at found
      obtain ⟨⟨threshold, after⟩, digits, rfl, rfl⟩ := found
      simp only [text, Option.elim_some, List.cons_append, List.append_assoc,
        (readDigits_split digits).1, Comparison.read_split compared, marked]
    · simp only [Option.map_eq_some_iff, Prod.mk.injEq] at found
      obtain ⟨⟨threshold, after⟩, digits, rfl, rfl⟩ := found
      simp only [text, Option.elim_none, List.append_nil, List.cons_append, List.append_assoc,
        (readDigits_split digits).1, marked]
  · cases found

theorem read_split (cs : List Char) : (read cs).1.text ++ (read cs).2 = cs := by
  unfold read
  cases conditional : readConditional? cs with
  | some found => exact readConditional_split conditional
  | none =>
    cases reroll : readReroll? cs with
    | some found => simpa [reroll] using readReroll_split reroll
    | none => simp [text]

end Suffix

namespace Form

theorem readDice_split {cs rest : List Char} {form : Form}
    (found : readDice? cs = some (form, rest)) : form.text ++ rest = cs ∧ form.text ≠ [] := by
  unfold readDice? at found
  split at found
  · cases found
  · rename_i letter afterLetter dropped
    split at found
    · simp only [Option.map_eq_some_iff, Prod.mk.injEq] at found
      obtain ⟨⟨sides, afterSides⟩, digits, rfl, rfl⟩ := found
      refine ⟨?_, by simp [text]⟩
      have whole := List.takeWhile_append_dropWhile (p := Text.isDigit) (l := cs)
      rw [dropped] at whole
      simp only [text, List.append_assoc, List.cons_append, Suffix.read_split,
        (readDigits_split digits).1, whole]
    · cases found

theorem readSign_split {cs rest : List Char} {form : Form}
    (found : readSign? cs = some (form, rest)) : form.text ++ rest = cs ∧ form.text ≠ [] := by
  unfold readSign? at found
  split at found <;> cases found <;> exact ⟨rfl, by decide⟩

theorem readNumber_split {cs rest : List Char} {form : Form}
    (found : readNumber? cs = some (form, rest)) : form.text ++ rest = cs ∧ form.text ≠ [] := by
  simp only [readNumber?, Option.map_eq_some_iff, Prod.mk.injEq] at found
  obtain ⟨⟨digits, after⟩, digitsFound, rfl, rfl⟩ := found
  exact readDigits_split digitsFound

theorem read_split {cs rest : List Char} {form : Form} (found : read? cs = some (form, rest)) :
    form.text ++ rest = cs ∧ form.text ≠ [] := by
  unfold read? at found
  cases dice : readDice? cs with
  | some _ =>
    simp only [dice, Option.orElse_some] at found
    cases found
    exact readDice_split dice
  | none =>
    cases sign : readSign? cs with
    | some _ =>
      simp only [dice, sign, Option.orElse_none, Option.orElse_some] at found
      cases found
      exact readSign_split sign
    | none =>
      simp only [dice, sign, Option.orElse_none] at found
      exact readNumber_split found

theorem length_rest_lt {cs rest : List Char} {form : Form}
    (found : read? cs = some (form, rest)) : rest.length < cs.length := by
  obtain ⟨split, nonempty⟩ := read_split found
  have positive := List.length_pos_iff.mpr nonempty
  rw [← split, List.length_append]
  omega

end Form

end DiceFormula
