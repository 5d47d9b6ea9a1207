import DiceFormula.Roll.Trace

namespace DiceFormula

variable {σ : Type} [Supply σ]

def sumOf (values : List Int) : Int := values.foldl (· + ·) 0

def rollDice (sides : Int) (rolled : Array Int) : Nat → Rolling σ (Array Int)
  | 0 => pure rolled
  | count + 1 => do
    let face ← Rolling.die sides
    rollDice sides (rolled.push face) count

def countPassing (check : Check) (passed : Nat) : List Int → Except RollFault Nat
  | [] => .ok passed
  | face :: rest => do
    let passes ← check.holds face
    countPassing check (if passes then passed + 1 else passed) rest

structure Settled where
  worth : Int
  faces : Array Int

/-- Rerolls a die for as long as its face passes the check. The die that still passes when its
    allowance is used up ends the evaluation. -/
def reroll (limit sides : Int) (kind : RerollKind) (check : Check) (face worth : Int)
    (faces : Array Int) (allowance : Nat) : Rolling σ Settled := do
  if ← Rolling.ofExcept (check.holds face) then
    match allowance with
    | 0 => throw (.rerollsExhausted limit)
    | allowance + 1 =>
      let next ← Rolling.die sides
      modify Trace.countReroll
      let worth := if kind = .exploding then worth + next else next
      if kind = .once then return ⟨worth, faces.push next⟩
      else reroll limit sides kind check next worth (faces.push next) allowance
  else return ⟨worth, faces⟩

def rollSettled (limit sides : Int) (kind : RerollKind) (check : Check) : Rolling σ Settled := do
  let face ← Rolling.die sides
  reroll limit sides kind check face face #[face] limit.toNat

structure SettledGroup where
  worths : Array Int := #[]
  faces : Array Int := #[]
  rerolls : Nat := 0

def SettledGroup.add (group : SettledGroup) (die : Settled) : SettledGroup :=
  ⟨group.worths.push die.worth, group.faces ++ die.faces, group.rerolls + (die.faces.size - 1)⟩

def rollGroup (limit sides : Int) (kind : RerollKind) (check : Check) (group : SettledGroup) :
    Nat → Rolling σ SettledGroup
  | 0 => pure group
  | count + 1 => do
    let die ← rollSettled limit sides kind check
    rollGroup limit sides kind check (group.add die) count

/-- The limit is the number of rerolls that a single die may take. -/
def Atom.roll (limit : Int) : Atom → Rolling σ Int
  | .number value => pure value
  | .dice pool => do
    let rolled ← rollDice pool.sides #[] pool.count.toNat
    let total := sumOf rolled.toList
    Rolling.note fun recorder => recorder.noteDice (.atom (.dice pool)) rolled.toList total
    return total
  | .conditional pool check => do
    let rolled ← rollDice pool.sides #[] pool.count.toNat
    let successes ← Rolling.ofExcept (countPassing check 0 rolled.toList)
    Rolling.note fun recorder => recorder.noteConditional pool check rolled.toList successes
    return successes
  | .reroll pool kind check => do
    let group ← rollGroup limit pool.sides kind check {} pool.count.toNat
    let total := sumOf group.worths.toList
    Rolling.note fun recorder => recorder.noteReroll pool kind check group.faces.toList
      group.worths.toList total group.rerolls
    return total

namespace Expr

mutual

/-- Counts a node, gives it a value, and describes it. The operations along a chain are all
    counted before the first of them is carried out. -/
def roll (limit : Int) : Expr → Rolling σ Int
  | atom a => do
    modify (Trace.countNodes 1)
    let value ← a.roll limit
    Rolling.noteNode (atom a) value
    return value
  | group inner => do
    modify (Trace.countNodes 1)
    let value ← inner.roll limit
    Rolling.note fun recorder => recorder.noteGroup value
    Rolling.noteNode (group inner) value
    return value
  | binary operator left right => do
    modify (Trace.countNodes 1)
    modify (Trace.countNodes ((binary operator left right).spine.2.length - 1))
    let first ← (binary operator left right).spine.1.roll limit
    let value ← rollChain limit first (binary operator left right).spine.2
    Rolling.noteNode (binary operator left right) value
    return value
termination_by e => e.size
decreasing_by
  · simp [size]
  · exact size_first_lt operator left right
  · exact chainSize_lt operator left right

/-- Carries out a chain of operations; the last of them is left to be described by its caller. -/
def rollChain (limit : Int) (left : Int) : List Link → Rolling σ Int
  | [] => pure left
  | link :: rest => do
    let right ← link.right.roll limit
    let value ← Rolling.ofExcept (link.operator.apply left right)
    Rolling.noteOperation link.operator left right value
    if rest.isEmpty then return value
    Rolling.noteNode link.expr value
    rollChain limit value rest
termination_by links => chainSize links
decreasing_by
  all_goals rw [chainSize_cons]
  all_goals omega

end

def evaluate (limit : Int) (e : Expr) (trace : Trace σ) : Except RollFault Int × Trace σ :=
  (e.roll limit).run trace.restart

end Expr

end DiceFormula
