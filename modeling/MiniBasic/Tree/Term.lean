import MiniBasic.Text.Quoted
import MiniBasic.Token
import MiniBasic.Tree

/-!
# Trees as constructor terms

A tree is written with the names of its constructors and fields, texts quoted and escaped.  One
definition serves two layouts: all on one line, or every argument and field on a line of its own,
four blanks deeper than its constructor and followed by a comma.  A constructor without arguments
and the leaf inside an argument stay as they are.
-/

namespace MiniBasic

/-! ## Layouts -/

/-- How a term is laid out. -/
inductive Layout where
  | line
  /-- Over many lines, the present one indented by a number of steps. -/
  | block (depth : Nat)

namespace Layout

/-- The blanks in front of a line. -/
def indent (depth : Nat) : String := "".pushn ' ' (4 * depth)

/-- A constructor with one argument. -/
def applied (layout : Layout) (head : String) (argument : Layout → String) : String :=
  match layout with
  | line => head ++ "(" ++ argument line ++ ")"
  | block depth =>
    head ++ "(\n" ++ indent (depth + 1) ++ argument (block (depth + 1)) ++ ",\n" ++
      indent depth ++ ")"

/-- A constructor with named fields. -/
def record (layout : Layout) (head : String) (fields : List (String × (Layout → String))) :
    String :=
  match layout with
  | line =>
    head ++ " \x7b " ++
      ", ".intercalate (fields.map fun field => field.1 ++ ": " ++ field.2 line) ++ " \x7d"
  | block depth =>
    head ++ " \x7b\n" ++
      String.join (fields.map fun field =>
        indent (depth + 1) ++ field.1 ++ ": " ++ field.2 (block (depth + 1)) ++ ",\n") ++
      indent depth ++ "\x7d"

end Layout

/-! ## Terms -/

/-- The constructor of an operator. -/
def Operator.term : Operator → String
  | add => "Plus"
  | sub => "Minus"
  | mul => "Multiply"
  | div => "Divide"

/-- The constructor of a comparison. -/
def Relation.term : Relation → String
  | equal => "Equal"
  | greater => "Greater"
  | less => "Less"

/-- A quoted text, the same in every layout. -/
def quotedTerm (text : String) (_ : Layout) : String := Text.quote text

/-- An expression as a term. -/
def Expr.term (expr : Expr) (layout : Layout) : String :=
  match expr with
  | num value => layout.applied "Num" fun _ => Token.decimal value
  | var name => layout.applied "Var" (quotedTerm name)
  | neg operand => layout.applied "Neg" fun inner => operand.term inner
  | binary left op right =>
    layout.record "BinaryOp"
      [("left", fun inner => left.term inner), ("op", fun _ => op.term),
       ("right", fun inner => right.term inner)]

/-- A value as a term. -/
def Value.term (value : Value) (layout : Layout) : String :=
  match value with
  | expr body => layout.applied "Expr" body.term
  | str text => layout.applied "Str" (quotedTerm text)

/-- An assignment as a term. -/
def Assignment.term (assignment : Assignment) (layout : Layout) : String :=
  layout.record "VarAssign"
    [("name", quotedTerm assignment.name), ("value", assignment.value.term)]

/-- A condition as a term. -/
def Condition.term (condition : Condition) (layout : Layout) : String :=
  layout.record "Condition"
    [("logic", fun _ => condition.relation.term), ("left", condition.left.term),
     ("right", condition.right.term)]

/-- A statement as a term. -/
def Statement.term (statement : Statement) (layout : Layout) : String :=
  match statement with
  | empty => "Empty"
  | expr body => layout.applied "Expr" body.term
  | assign setup => layout.applied "Assignment" setup.term
  | ifElse condition thenBranch elseBranch =>
    layout.record "If"
      [("condition", condition.term), ("then_branch", fun inner => thenBranch.term inner),
       ("else_branch", fun inner => elseBranch.term inner)]
  | forLoop setup bound body =>
    layout.record "ForLoop"
      [("setup", setup.term), ("bound", bound.term), ("body", fun inner => body.term inner)]
  | funDef name body =>
    layout.record "FunctionDef"
      [("name", quotedTerm name), ("body", fun inner => body.term inner)]
  | funCall name => layout.record "FunctionCall" [("name", quotedTerm name)]

/-- A statement as a term on one line. -/
def Statement.compact (statement : Statement) : String := statement.term .line

/-- A statement as a term over many lines. -/
def Statement.indented (statement : Statement) : String := statement.term (.block 0)

example : Statement.compact (.assign ⟨"x", .str "s"⟩) =
    "Assignment(VarAssign \x7b name: \"x\", value: Str(\"s\") \x7d)" := by decide +kernel
example : Statement.indented (.expr (.neg (.num 2))) =
    "Expr(\n    Neg(\n        Num(\n            2,\n        ),\n    ),\n)" := by decide +kernel

end MiniBasic
