import MiniBasic.Precedence

/-!
# The shape of trees

Three measures of a tree, none of which looks at how trees are read.

*Shape.*  An expression is shaped when its operators nest as their levels say: a left operand is
no weaker than its operator, a right operand is tighter, and only terms and changed signs stand
behind a minus.

*Height.*  The number of statements and expressions on the longest way down.

*Need.*  The room that the grammar takes for a tree.  A run of operators, read as one expression,
needs a level, and inside it the length of the run, the number of minus signs at its head, or the
need of a right operand, whichever is largest.  These are not added to each other, so a tree may
be higher than its need.
-/

namespace MiniBasic

/-! ## Shape -/

/-- The level of an expression: that of its operator, or the tightest if it has none. -/
def Expr.level : Expr → Nat
  | binary _ op _ => op.binding.level
  | _ => negationBinding.level

theorem Expr.one_le_level (expr : Expr) : 1 ≤ expr.level := by
  cases expr with
  | binary _ op _ =>
    show 1 ≤ op.binding.level
    cases op <;> decide
  | num | var | neg =>
    show 1 ≤ negationBinding.level
    decide

theorem Expr.level_le (expr : Expr) : expr.level ≤ negationBinding.level := by
  cases expr with
  | binary _ op _ => exact Nat.le_of_lt op.level_lt_negation
  | num | var | neg => exact Nat.le_refl _

/-- An expression at the tightest level is not joined by an operator. -/
theorem Expr.not_tight_binary {left right : Expr} {op : Operator} :
    ¬ negationBinding.level ≤ (binary left op right).level :=
  Nat.not_le_of_lt op.level_lt_negation

/-- The operators of an expression nest as their levels say. -/
def Expr.Shaped : Expr → Prop
  | num _ | var _ => True
  | neg operand => operand.Shaped ∧ operand.level = negationBinding.level
  | binary left op right =>
    left.Shaped ∧ right.Shaped ∧ op.binding.level ≤ left.level ∧ op.binding.level < right.level

/-- The expression in a value, if there is one, is shaped. -/
def Value.Shaped : Value → Prop
  | expr body => body.Shaped
  | str _ => True

/-- Both sides of a condition are shaped. -/
def Condition.Shaped (condition : Condition) : Prop :=
  condition.left.Shaped ∧ condition.right.Shaped

/-- All expressions in a statement are shaped. -/
def Statement.Shaped : Statement → Prop
  | empty | funCall _ => True
  | expr body => body.Shaped
  | assign setup => setup.value.Shaped
  | ifElse condition thenBranch elseBranch =>
    condition.Shaped ∧ thenBranch.Shaped ∧ elseBranch.Shaped
  | forLoop setup bound body => setup.value.Shaped ∧ bound.Shaped ∧ body.Shaped
  | funDef _ body => body.Shaped

/-! ## Height -/

/-- The number of expressions on the longest way down. -/
def Expr.height : Expr → Nat
  | num _ | var _ => 1
  | neg operand => operand.height + 1
  | binary left _ right => max left.height right.height + 1

/-- The height of a value, which is no level of its own. -/
def Value.height : Value → Nat
  | expr body => body.height
  | str _ => 0

/-- The height of a condition, which is no level of its own. -/
def Condition.height (condition : Condition) : Nat :=
  max condition.left.height condition.right.height

/-- The number of statements and expressions on the longest way down. -/
def Statement.height : Statement → Nat
  | empty | funCall _ => 1
  | expr body => body.height + 1
  | assign setup => setup.value.height + 1
  | ifElse condition thenBranch elseBranch =>
    max condition.height (max thenBranch.height elseBranch.height) + 1
  | forLoop setup bound body => max setup.value.height (max bound.height body.height) + 1
  | funDef _ body => body.height + 1

/-! ## Need -/

/-- The length of the run of operators whose left operands lead down from an expression. -/
def Expr.runLength : Expr → Nat
  | binary left _ _ => left.runLength + 1
  | _ => 0

/-- The number of minus signs directly in front of an expression. -/
def Expr.signs : Expr → Nat
  | neg operand => operand.signs + 1
  | _ => 0

/-- The room that the operands of a run take, without the run itself. -/
def Expr.innerNeed : Expr → Nat
  | binary left _ right => max left.innerNeed (max right.runLength right.innerNeed + 1)
  | operand => operand.signs

/-- The room that an expression takes. -/
def Expr.need (expr : Expr) : Nat := max expr.runLength expr.innerNeed + 1

theorem Expr.innerNeed_binary (left : Expr) (op : Operator) (right : Expr) :
    (binary left op right).innerNeed = max left.innerNeed right.need := rfl

theorem Expr.need_le_succ_iff {expr : Expr} {room : Nat} :
    expr.need ≤ room + 1 ↔ expr.runLength ≤ room ∧ expr.innerNeed ≤ room := by
  rw [need, Nat.add_le_add_iff_right, Nat.max_le]

/-- The room that a value takes. -/
def Value.need : Value → Nat
  | expr body => body.need
  | str _ => 0

/-- The room that a condition takes. -/
def Condition.need (condition : Condition) : Nat := max condition.left.need condition.right.need

/-- The room that a statement takes. -/
def Statement.need : Statement → Nat
  | empty | funCall _ => 1
  | expr body => body.need + 1
  | assign setup => setup.value.need + 1
  | ifElse condition thenBranch elseBranch =>
    max condition.need (max thenBranch.need elseBranch.need) + 1
  | forLoop setup bound body => max setup.value.need (max bound.need body.need) + 1
  | funDef _ body => body.need + 1

example : Expr.need (.binary (.binary (.neg (.num 1)) .add (.num 2)) .add (.num 3)) = 3 := by
  decide
example : Expr.height (.binary (.binary (.neg (.num 1)) .add (.num 2)) .add (.num 3)) = 4 := by
  decide

end MiniBasic
