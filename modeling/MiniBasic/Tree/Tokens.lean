import MiniBasic.Precedence

/-!
# Trees as tokens

A tree written back as the tokens it stands for, in the order of the grammar.  There are no
brackets in expressions, so not every tree comes back when its tokens are read: only those whose
operators nest as their levels say (`Expr.Shaped`).
-/

namespace MiniBasic

/-- The tokens of an expression. -/
def Expr.tokens : Expr → List Token
  | num value => [.number value]
  | var name => [.name name]
  | neg operand => .minus :: operand.tokens
  | binary left op right => left.tokens ++ op.token :: right.tokens

/-- The token of a comparison. -/
def Relation.token : Relation → Token
  | equal => .eqEq
  | greater => .greater
  | less => .less

/-- The tokens of a value. -/
def Value.tokens : Value → List Token
  | expr body => body.tokens
  | str text => [.str text]

/-- The tokens of an assignment. -/
def Assignment.tokens (assignment : Assignment) : List Token :=
  .name assignment.name :: .assign :: assignment.value.tokens

/-- The tokens of a condition. -/
def Condition.tokens (condition : Condition) : List Token :=
  condition.left.tokens ++ condition.relation.token :: condition.right.tokens

/-- The tokens of a statement. -/
def Statement.tokens : Statement → List Token
  | empty => []
  | expr body => body.tokens
  | assign setup => setup.tokens
  | ifElse condition thenBranch elseBranch =>
    .kwIf :: condition.tokens ++ .kwThen :: thenBranch.tokens ++ .kwElse :: elseBranch.tokens
  | forLoop setup bound body =>
    .kwFor :: setup.tokens ++ .kwTo :: bound.tokens ++ .kwThen :: body.tokens
  | funDef name body => [.kwFun, .name name, .lparen, .rparen, .arrow] ++ body.tokens
  | funCall name => [.name name, .lparen, .rparen]

example : Statement.tokens (.forLoop ⟨"i", .expr (.num 0)⟩ (.var "n") (.funCall "f")) =
    [.kwFor, .name "i", .assign, .number 0, .kwTo, .name "n", .kwThen, .name "f", .lparen,
      .rparen] := by decide

end MiniBasic
