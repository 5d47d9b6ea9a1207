import DiceFormula.Proofs.Expr.Parsing
import DiceFormula.Proofs.Expr.Recursion
import DiceFormula.Proofs.Token.Scan

namespace DiceFormula

open DiceFormula.Expr (Derives)

namespace Expr

def isSum : Expr → Bool
  | binary operator _ _ => operator.isAdditive
  | _ => false

def isBinary : Expr → Bool
  | binary .. => true
  | _ => false

/-- No node binds its operands otherwise than a text without further parentheses would. -/
def CanonicalNodes : Expr → Prop
  | atom a => a.Canonical
  | group inner => inner.CanonicalNodes
  | binary operator left right =>
    (operator.isAdditive = true ∧ right.isSum = false ∨
      operator.isMultiplicative = true ∧ left.isSum = false ∧ right.isBinary = false) ∧
    left.CanonicalNodes ∧ right.CanonicalNodes

/-- A tree that a text can give. -/
structure Canonical (e : Expr) : Prop where
  nodes : e.CanonicalNodes
  shallow : e.nesting ≤ deepestNesting

theorem Derives.isBinary_eq_false {e : Expr} (derivation : Derives .operand e) :
    e.isBinary = false := by
  cases derivation <;> rfl

theorem Operator.not_isAdditive {operator : Operator}
    (multiplicative : operator.isMultiplicative = true) : operator.isAdditive = false := by
  cases operator <;> first | rfl | cases multiplicative

theorem Derives.isSum_eq_false {e : Expr} (derivation : Derives .product e) :
    e.isSum = false := by
  cases derivation with
  | operand operand => cases operand <;> rfl
  | multiplied sign _ _ => exact Operator.not_isAdditive sign

theorem Derives.narrow {e : Expr} (derivation : Derives .sum e) :
    (e.isSum = false → Derives .product e) ∧ (e.isBinary = false → Derives .operand e) := by
  cases derivation with
  | added sign _ _ =>
    refine ⟨fun head => ?_, fun head => nomatch head⟩
    rw [isSum, sign] at head
    cases head
  | product product =>
    refine ⟨fun _ => product, fun head => ?_⟩
    cases product with
    | operand operand => exact operand
    | multiplied => cases head

theorem derives_of_canonicalNodes {e : Expr} (canonical : e.CanonicalNodes) : Derives .sum e := by
  induction e with
  | atom a => exact .product (.operand (.atom a))
  | group inner ih => exact .product (.operand (.group (ih canonical)))
  | binary operator left right leftIh rightIh =>
    obtain ⟨shape, leftCanonical, rightCanonical⟩ := canonical
    have leftSum := leftIh leftCanonical
    have rightSum := rightIh rightCanonical
    rcases shape with ⟨sign, narrow⟩ | ⟨sign, leftNarrow, rightNarrow⟩
    · exact .added sign leftSum (rightSum.narrow.1 narrow)
    · exact .product (.multiplied sign (leftSum.narrow.1 leftNarrow)
        (rightSum.narrow.2 rightNarrow))

theorem canonicalNodes_of_derives {phrase : Phrase} {e : Expr} (derivation : Derives phrase e)
    (atoms : ∀ a ∈ e.atoms, a.Canonical) : e.CanonicalNodes := by
  induction derivation with
  | atom a => exact atoms a (List.mem_singleton_self a)
  | group _ ih => exact ih atoms
  | operand _ ih => exact ih atoms
  | product _ ih => exact ih atoms
  | multiplied sign product operand leftIh rightIh =>
    rw [Expr.atoms, List.forall_mem_append] at atoms
    exact ⟨.inr ⟨sign, product.isSum_eq_false, operand.isBinary_eq_false⟩, leftIh atoms.1,
      rightIh atoms.2⟩
  | added sign sum product leftIh rightIh =>
    rw [Expr.atoms, List.forall_mem_append] at atoms
    exact ⟨.inl ⟨sign, product.isSum_eq_false⟩, leftIh atoms.1, rightIh atoms.2⟩

theorem CanonicalNodes.atoms {e : Expr} (canonical : e.CanonicalNodes) :
    ∀ a ∈ e.atoms, a.Canonical := by
  induction e with
  | atom a =>
    intro b member
    rw [List.mem_singleton.mp member]
    exact canonical
  | group inner ih => exact ih canonical
  | binary operator left right leftIh rightIh =>
    rw [Expr.atoms, List.forall_mem_append]
    exact ⟨leftIh canonical.2.1, rightIh canonical.2.2⟩

theorem CanonicalNodes.pools {e : Expr} (canonical : e.CanonicalNodes) :
    ∀ pool ∈ e.pools, pool.Canonical := by
  intro pool member
  obtain ⟨a, among, has⟩ := List.mem_filterMap.mp member
  have written := canonical.atoms a among
  cases a with
  | number value => cases has
  | dice dice =>
    cases has
    exact written
  | conditional dice check =>
    cases has
    exact written.1
  | reroll dice kind check =>
    cases has
    exact written.1

theorem CanonicalNodes.bounds_fault {e : Expr} {multiplier : Int} {fault : RollFault}
    (canonical : e.CanonicalNodes) (failed : e.bounds multiplier = .error fault) :
    fault = .divisorAlwaysZero := by
  induction e with
  | atom a =>
    rw [Expr.bounds] at failed
    cases failed
  | group inner ih =>
    rw [Expr.bounds] at failed
    exact ih canonical failed
  | binary operator left right leftIh rightIh =>
    obtain ⟨shape, leftCanonical, rightCanonical⟩ := canonical
    rw [Expr.bounds_binary] at failed
    cases leftRange : left.bounds multiplier with
    | error leftFault =>
      rw [leftRange] at failed
      cases failed
      exact leftIh leftCanonical leftRange
    | ok leftBounds =>
      cases rightRange : right.bounds multiplier with
      | error rightFault =>
        rw [leftRange, rightRange] at failed
        cases failed
        exact rightIh rightCanonical rightRange
      | ok rightBounds =>
        rw [leftRange, rightRange] at failed
        change Bounds.combine operator leftBounds rightBounds = .error fault at failed
        cases operator with
        | add => cases failed
        | subtract => cases failed
        | multiply => cases failed
        | divide =>
          simp only [Bounds.combine] at failed
          split at failed
          · cases failed
            rfl
          · cases failed
        | other symbol => rcases shape with ⟨sign, _⟩ | ⟨sign, _⟩ <;> cases sign

end Expr

theorem canonical_of_ofText {limit : Int} {text : String} {e : Expr}
    (parsed : Expr.ofText limit text = .ok e) : e.Canonical := by
  obtain ⟨tokens, scanned, parsed⟩ := ok_of_bind parsed
  have explained := sound_of_parseTokens parsed
  refine ⟨Expr.canonicalNodes_of_derives explained.shape fun a member => ?_, explained.shallow⟩
  have among := Expr.mem_lexemes_of_mem_atoms member
  rw [explained.reading] at among
  obtain ⟨token, inTokens, same⟩ := List.mem_map.mp among
  cases done : tokenize limit text with
  | error fault =>
    simp only [scanText, done] at scanned
    cases scanned
  | ok found =>
    simp only [scanText, done] at scanned
    cases scanned
    obtain ⟨_, _, scanned⟩ := ok_of_bind done
    exact canonical_of_scanFrom scanned token inTokens a same

end DiceFormula
