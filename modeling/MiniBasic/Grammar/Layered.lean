import MiniBasic.Grammar.Expression

/-!
# Expressions, layer by layer

The same expressions as by climbing (`climb`), by a grammar with a rule for each level and no
bound on the nesting: a sum of products of terms with signs.  Runs lean left.  The layers know
nothing of the table of levels.  At the bottom is the same term, so reading fails where a term is
missing and nowhere else.
-/

namespace MiniBasic.Grammar.Layered

/-- A term with any number of minus signs in front. -/
def signed : Rule Expr
  | .minus :: after =>
    let read := signed after
    (read.1.map .neg, read.2)
  | ahead => term ahead

/-- What follows the first operand of a run of some operators, for a number of operands at most. -/
def more (operators : List Operator) (operand : Rule Expr) (turns : Nat) (left : Expr) :
    Rule Expr := do
  match (← Rule.head).bind Operator.ofToken? with
  | none => return left
  | some op =>
    if op ∈ operators then
      match turns with
      | 0 => return left
      | turns + 1 =>
        Rule.advance
        let right ← operand
        more operators operand turns (.binary left op right)
    else return left

/-- A run of some operators.  It has no more operands than there are tokens. -/
def layer (operators : List Operator) (operand : Rule Expr) : Rule Expr := fun ahead =>
  (operand >>= more operators operand ahead.length) ahead

/-- Signed terms, multiplied and divided. -/
def product : Rule Expr := layer [.mul, .div] signed

/-- Products, added and subtracted. -/
def sum : Rule Expr := layer [.add, .sub] product

example : (sum [.number 1, .minus, .number 2, .star, .minus, .name "x"]).1.toOption =
    some (.binary (.num 1) .sub (.binary (.num 2) .mul (.neg (.var "x")))) := by decide +kernel

end MiniBasic.Grammar.Layered
