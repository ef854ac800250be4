/-!
# Syntax trees

What one line means: an expression, an assignment, a conditional, a loop, a function and its call,
or nothing at all.  A text can only be assigned; it is no expression.  Trees say nothing about how
they were written, so blanks and leading zeros leave no trace.
-/

namespace MiniBasic

/-- The operators between two expressions. -/
inductive Operator where
  | add
  | sub
  | mul
  | div
deriving DecidableEq

/-- How a condition compares its two sides. -/
inductive Relation where
  | equal
  | greater
  | less
deriving DecidableEq

/-- An expression. -/
inductive Expr where
  | num (value : Int64)
  | var (name : String)
  | neg (operand : Expr)
  | binary (left : Expr) (op : Operator) (right : Expr)
deriving DecidableEq

/-- What may be assigned to a name. -/
inductive Value where
  | expr (expr : Expr)
  | str (text : String)
deriving DecidableEq

/-- A name and the value it gets. -/
structure Assignment where
  name : String
  value : Value
deriving DecidableEq

/-- A comparison of two expressions. -/
structure Condition where
  relation : Relation
  left : Expr
  right : Expr
deriving DecidableEq

/-- A statement. -/
inductive Statement where
  | empty
  | expr (expr : Expr)
  | assign (assignment : Assignment)
  | ifElse (condition : Condition) (thenBranch elseBranch : Statement)
  /-- A statement repeated while a name runs from a value to a bound. -/
  | forLoop (setup : Assignment) (bound : Expr) (body : Statement)
  | funDef (name : String) (body : Statement)
  | funCall (name : String)
deriving DecidableEq

end MiniBasic
