import MiniBasic.Grammar.Rule
import MiniBasic.Precedence

/-!
# The grammar of expressions

A run of operators is read by climbing: an expression of at least some level is one operand,
followed by the operators of that level or tighter, each with a right operand of its own.  So the
levels of the operators alone decide the tree, and the grammar has one rule for all of them.

Every rule gets the *room* that is left, the number of levels that may still be nested.  An
expression needs one level.  Inside it, each operator of its run and each minus in front of an
operand also takes a turn of the room, since the tree grows by a level; the two are counted apart.
The grammar recurses on the room, so it is total.
-/

namespace MiniBasic.Grammar

/-- A number or a name. -/
def term : Rule Expr := fun ahead =>
  match ahead with
  | .number value :: left => (.ok (.num value), left)
  | .name name :: left => (.ok (.var name), left)
  | .str _ :: _ => Rule.unexpectedBut .expression .onlyAssignTexts ahead
  | _ => Rule.unexpected .expression ahead

/-- A run of minus signs and the operand behind it. -/
def negations (operand : Rule Expr) (turns : Nat) : Rule Expr := do
  if (← Rule.head) = some .minus then
    match turns with
    | 0 => Rule.tooDeep
    | turns + 1 =>
      Rule.advance
      return .neg (← negations operand turns)
  else operand

/-- An operand: a term, or minus signs before an operand that binds as tightly as they do. -/
def unary (operand : Nat → Rule Expr) (turns : Nat) : Rule Expr := do
  if (← Rule.head) = some .minus then
    negations (operand negationBinding.rightLevel) turns
  else term

/-- The operators of at least level `least` after an expression, each with its right operand.  The
expression so far becomes the left operand of the next operator. -/
def links (operand : Nat → Rule Expr) (least turns : Nat) (left : Expr) : Rule Expr := do
  match (← Rule.head).bind Operator.ofToken? with
  | none => return left
  | some op =>
    if op.binding.level < least then return left
    else
      match turns with
      | 0 => Rule.tooDeep
      | turns + 1 =>
        Rule.advance
        let right ← operand op.binding.rightLevel
        links operand least turns (.binary left op right)

/-- An expression whose operators have at least level `least`. -/
def climb : (room least : Nat) → Rule Expr
  | 0, _ => Rule.tooDeep
  | room + 1, least => do
    let left ← unary (climb room) room
    links (climb room) least room left

/-- An expression. -/
def expression (room : Nat) : Rule Expr := climb room 1

/-- Reads one of the three comparisons. -/
def comparison : Rule Relation := fun ahead =>
  match ahead with
  | .eqEq :: left => (.ok .equal, left)
  | .greater :: left => (.ok .greater, left)
  | .less :: left => (.ok .less, left)
  | .assign :: _ => Rule.unexpectedBut .comparison .compareWithTwoSigns ahead
  | _ => Rule.unexpected .comparison ahead

/-- Two expressions with a comparison between them. -/
def condition (room : Nat) : Rule Condition := do
  let left ← expression room
  let relation ← comparison
  let right ← expression room
  return { relation, left, right }

example : (expression 9 [.number 1, .minus, .number 2, .star, .minus, .name "x"]).1.toOption =
    some (.binary (.num 1) .sub (.binary (.num 2) .mul (.neg (.var "x")))) := by decide +kernel
example : (expression 2 [.number 1, .plus, .number 2, .plus, .number 3]).2 =
    [.plus, .number 3] := by decide +kernel

end MiniBasic.Grammar
