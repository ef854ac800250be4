import MiniBasic.Token
import MiniBasic.Tree

/-!
# Trees as tuples

A tree is written as nested tuples, each with a tag in front.  Names and texts stand between
single quotes just as they are, a text with its double quotes inside; nothing is escaped.  The
form is therefore faithful only for names without single quotes and texts without double quotes,
which is all that can be read from a source.
-/

namespace MiniBasic

/-- A text between single quotes. -/
def ticked (text : String) : String := "'" ++ text ++ "'"

/-- A tuple of parts that are already written, under a tag. -/
def tupleOf (tag : String) (parts : List String) : String :=
  "(" ++ ", ".intercalate (ticked tag :: parts) ++ ")"

/-- The tag of an operator. -/
def Operator.tag : Operator → String
  | add => "add"
  | sub => "sub"
  | mul => "mul"
  | div => "div"

/-- The tag of a comparison. -/
def Relation.tag : Relation → String
  | equal => "condition_eqeq"
  | greater => "condition_GRTH"
  | less => "condition_LSTH"

/-- An expression as tuples. -/
def Expr.tuple : Expr → String
  | num value => tupleOf "num" [Token.decimal value]
  | var name => tupleOf "var" [ticked name]
  | neg operand => tupleOf "neg" [operand.tuple]
  | binary left op right => tupleOf op.tag [left.tuple, right.tuple]

/-- A value as it stands in the tuple of its assignment. -/
def Value.tuple : Value → String
  | expr body => body.tuple
  | str text => ticked ("\"" ++ text ++ "\"")

/-- An assignment as tuples. -/
def Assignment.tuple (assignment : Assignment) : String :=
  tupleOf "var_assign" [ticked assignment.name, assignment.value.tuple]

/-- A condition as tuples. -/
def Condition.tuple (condition : Condition) : String :=
  tupleOf condition.relation.tag [condition.left.tuple, condition.right.tuple]

/-- A statement as tuples. -/
def Statement.tuple : Statement → String
  | empty => "None"
  | expr body => body.tuple
  | assign setup => setup.tuple
  | ifElse condition thenBranch elseBranch =>
    tupleOf "if_stmt" [condition.tuple, tupleOf "branch" [thenBranch.tuple, elseBranch.tuple]]
  | forLoop setup bound body =>
    tupleOf "for_loop" [tupleOf "for_loop_setup" [setup.tuple, bound.tuple], body.tuple]
  | funDef name body => tupleOf "fun_def" [ticked name, body.tuple]
  | funCall name => tupleOf "fun_call" [ticked name]

example : Expr.tuple (.binary (.num 1) .add (.neg (.var "x"))) =
    "('add', ('num', 1), ('neg', ('var', 'x')))" := by decide +kernel
example : Statement.tuple (.assign ⟨"x", .str "hi"⟩) = "('var_assign', 'x', '\"hi\"')" := by
  decide +kernel

end MiniBasic
