import MiniBasic.Tree.Shape

/-!
# Which operands an operator has

The shape of a tree is defined by levels.  Here it is said of sums and products: the right operand
of a sum is no sum, the left operand of a product is no sum, and the right operand of a product and
what stands behind a minus is not joined by any operator.  A tree is shaped exactly if this holds
of every expression in it (`Expr.shaped_iff`, `Statement.shaped_iff`).
-/

namespace MiniBasic

/-! ## Operands -/

/-- An expression is a sum or a difference. -/
def Expr.IsSum : Expr → Prop
  | binary _ .add _ | binary _ .sub _ => True
  | _ => False

/-- An expression is joined by an operator. -/
def Expr.IsBinary : Expr → Prop
  | binary .. => True
  | _ => False

/-- What an expression is made of directly is neither weaker than its operator, nor as weak on the
right. -/
def Expr.OperandsFit : Expr → Prop
  | num _ | var _ => True
  | neg operand => ¬ operand.IsBinary
  | binary _ .add right | binary _ .sub right => ¬ right.IsSum
  | binary left .mul right | binary left .div right => ¬ left.IsSum ∧ ¬ right.IsBinary

/-! ## The expressions in a tree -/

/-- An expression and all expressions in it. -/
def Expr.nodes : Expr → List Expr
  | num value => [num value]
  | var name => [var name]
  | neg operand => neg operand :: operand.nodes
  | binary left op right => binary left op right :: (left.nodes ++ right.nodes)

/-- All expressions in a value. -/
def Value.nodes : Value → List Expr
  | expr body => body.nodes
  | str _ => []

/-- All expressions in a condition. -/
def Condition.nodes (condition : Condition) : List Expr :=
  condition.left.nodes ++ condition.right.nodes

/-- All expressions in a statement. -/
def Statement.nodes : Statement → List Expr
  | empty | funCall _ => []
  | expr body => body.nodes
  | assign setup => setup.value.nodes
  | ifElse condition thenBranch elseBranch =>
    condition.nodes ++ (thenBranch.nodes ++ elseBranch.nodes)
  | forLoop setup bound body => setup.value.nodes ++ (bound.nodes ++ body.nodes)
  | funDef _ body => body.nodes

/-! ## Shape -/

theorem Expr.isSum_iff {expr : Expr} : expr.IsSum ↔ expr.level ≤ 1 := by
  cases expr with
  | binary _ op _ => cases op <;> simp [IsSum, level, Operator.binding_eq]
  | num | var | neg => simp [IsSum, level, negationBinding_eq]

theorem Expr.isBinary_iff {expr : Expr} : expr.IsBinary ↔ expr.level ≤ 2 := by
  cases expr with
  | binary _ op _ => cases op <;> simp [IsBinary, level, Operator.binding_eq]
  | num | var | neg => simp [IsBinary, level, negationBinding_eq]

theorem Expr.shaped_neg_iff {operand : Expr} :
    (neg operand).Shaped ↔ operand.Shaped ∧ (neg operand).OperandsFit := by
  have atMost := operand.level_le
  rw [Shaped, OperandsFit, isBinary_iff]
  refine and_congr_right fun _ => ?_
  simp only [negationBinding_eq] at atMost ⊢
  omega

theorem Expr.shaped_binary_iff {left right : Expr} {op : Operator} :
    (binary left op right).Shaped ↔
      left.Shaped ∧ right.Shaped ∧ (binary left op right).OperandsFit := by
  have atLeast := left.one_le_level
  rw [Shaped]
  refine and_congr_right fun _ => and_congr_right fun _ => ?_
  cases op <;> simp only [OperandsFit, Operator.binding_eq, isSum_iff, isBinary_iff] <;> omega

/-- An expression is shaped if the operands of all expressions in it fit. -/
theorem Expr.shaped_iff {expr : Expr} : expr.Shaped ↔ ∀ node ∈ expr.nodes, node.OperandsFit := by
  induction expr with
  | num | var => simp [Shaped, nodes, OperandsFit]
  | neg operand ih =>
    rw [shaped_neg_iff, ih, nodes, List.forall_mem_cons, and_comm]
  | binary left op right ihLeft ihRight =>
    rw [shaped_binary_iff, ihLeft, ihRight, nodes, List.forall_mem_cons, List.forall_mem_append,
      ← and_assoc, and_comm]

theorem Value.shaped_iff {value : Value} :
    value.Shaped ↔ ∀ node ∈ value.nodes, node.OperandsFit := by
  cases value with
  | expr body => exact Expr.shaped_iff
  | str text => simp [Shaped, nodes]

theorem Condition.shaped_iff {condition : Condition} :
    condition.Shaped ↔ ∀ node ∈ condition.nodes, node.OperandsFit := by
  rw [Shaped, nodes, List.forall_mem_append, Expr.shaped_iff, Expr.shaped_iff]

/-- A statement is shaped if the operands of all expressions in it fit. -/
theorem Statement.shaped_iff {whole : Statement} :
    whole.Shaped ↔ ∀ node ∈ whole.nodes, node.OperandsFit := by
  induction whole with
  | empty | funCall => simp [Shaped, nodes]
  | expr body => exact Expr.shaped_iff
  | assign setup => exact Value.shaped_iff
  | ifElse condition first second ihFirst ihSecond =>
    rw [Shaped, nodes, List.forall_mem_append, List.forall_mem_append, Condition.shaped_iff,
      ihFirst, ihSecond]
  | forLoop setup bound body ih =>
    rw [Shaped, nodes, List.forall_mem_append, List.forall_mem_append, Value.shaped_iff,
      Expr.shaped_iff, ih]
  | funDef name body ih => exact ih

end MiniBasic
