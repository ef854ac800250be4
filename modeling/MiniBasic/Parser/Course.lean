import MiniBasic.Parser

/-!
# How a parser comes to its answer

A rule of the grammar says what a parser answers.  A *procedure* also says how: it moves a parser
from token to token and from level to level, and whether a level may be opened is asked of the
parser as it then is.  Its *course* is the answer together with the parsers that it went through.

There are three moves.  The token under the cursor is read, a level is opened while any is free,
and a level that is open is closed (`Move`).  Only `Procedure.nested` opens a level, and it closes
it again however the procedure inside ends.

Where the grammar recurses on the levels that are left, procedures count the levels they have
gone down.  Their recursion is cut at the limit itself, where `Procedure.nested` refuses the next
level anyway.
-/

namespace MiniBasic.Parser

open Grammar (Expectation Failure Hint)

/-! ## Moves -/

/-- The parser with one more level open. -/
def enter (parser : Parser) : Parser := { parser with depth := parser.depth + 1 }

/-- The parser with one level less open. -/
def leave (parser : Parser) : Parser := { parser with depth := parser.depth - 1 }

/-- One move of a parser. -/
inductive Move (parser : Parser) : Parser → Prop where
  | advance {token : Token} (atCursor : parser.current? = some token) : Move parser parser.advance
  | enter (isFree : parser.depth < nestingLimit) : Move parser parser.enter
  | leave (isOpen : 0 < parser.depth) : Move parser parser.leave

/-- Moves in a row: where they start, the parser after each of them, and where they end. -/
inductive Path : Parser → List Parser → Parser → Prop where
  | nil {parser : Parser} : Path parser [] parser
  | cons {first next last : Parser} {stages : List Parser} (move : Move first next)
      (path : Path next stages last) : Path first (next :: stages) last

/-! ## Procedures -/

/-- An answer and how it came about. -/
structure Course (α : Type) where
  answer : Answer α
  /-- The parser after each move. -/
  stages : List Parser

/-- What a parser does for an answer. -/
def Procedure (α : Type) : Type := Parser → Course α

namespace Procedure

variable {α β : Type}

protected def pure (a : α) : Procedure α := fun parser => ⟨(.ok a, parser), []⟩

/-- One procedure after another.  An error of the first is the error of both. -/
protected def bind (first : Procedure α) (next : α → Procedure β) : Procedure β := fun parser =>
  match first parser with
  | ⟨(.ok a, middle), stages⟩ => ⟨(next a middle).answer, stages ++ (next a middle).stages⟩
  | ⟨(.error error, middle), stages⟩ => ⟨(.error error, middle), stages⟩

instance : Monad Procedure where
  pure := Procedure.pure
  bind := Procedure.bind

/-- The token under the cursor. -/
def current : Procedure (Option Token) := fun parser => ⟨(.ok parser.current?, parser), []⟩

/-- The token some places after the cursor. -/
def peek (offset : Nat) : Procedure (Option Token) := fun parser =>
  ⟨(.ok (parser.peek? offset), parser), []⟩

/-- The number of levels that are open. -/
def levels : Procedure Nat := fun parser => ⟨(.ok parser.depth, parser), []⟩

/-- Moves the cursor one token on. -/
def advance : Procedure Unit := fun parser => ⟨(.ok (), parser.advance), [parser.advance]⟩

/-- The procedure that fails at the cursor. -/
def fail (failure : Failure) : Procedure α := fun parser =>
  ⟨(.error (parser.error failure), parser), []⟩

/-- Something else was wanted than what is under the cursor. -/
def unexpected (expected : Expectation) (hint : Option Hint) : Procedure α :=
  fail (.unexpected expected hint)

/-- A procedure with one more level open, unless all are. -/
def nested (inner : Procedure α) : Procedure α := fun parser =>
  if nestingLimit ≤ parser.depth then fail .tooDeep parser
  else
    let course := inner parser.enter
    ⟨(course.answer.1, course.answer.2.leave),
      parser.enter :: (course.stages ++ [course.answer.2.leave])⟩

/-! ### Single tokens -/

/-- Reads the given token if it is under the cursor, and tells whether it was. -/
def accept (token : Token) : Procedure Bool := do
  if (← current) = some token then
    advance
    return true
  else return false

def expect (token : Token) : Procedure Unit := do
  if ← accept token then return ()
  else unexpected (.token token) none

def expectName : Procedure String := do
  match ← current with
  | some (.name name) =>
    advance
    return name
  | _ => unexpected .name none

/-! ### Expressions -/

def term : Procedure Expr := do
  match ← current with
  | some (.number value) =>
    advance
    return .num value
  | some (.name name) =>
    advance
    return .var name
  | some (.str _) => unexpected .expression (some .onlyAssignTexts)
  | _ => unexpected .expression none

/-- Minus signs, of which some are read already, and the operand behind them. -/
def negations (operand : Procedure Expr) (count : Nat) : Procedure Expr := do
  if (← current) = some .minus then
    let depth ← levels
    if full : nestingLimit ≤ depth + count then fail .tooDeep
    else
      advance
      return .neg (← negations operand (count + 1))
  else operand
termination_by nestingLimit - count

def unary (operand : Nat → Procedure Expr) : Procedure Expr := do
  if (← current) = some .minus then negations (operand negationBinding.rightLevel) 0
  else term

/-- The operators of at least level `least` after an expression, of which some are read already. -/
def links (operand : Nat → Procedure Expr) (least count : Nat) (left : Expr) :
    Procedure Expr := do
  match (← current).bind Operator.ofToken? with
  | none => return left
  | some op =>
    if op.binding.level < least then return left
    else
      let depth ← levels
      if full : nestingLimit ≤ depth + count then fail .tooDeep
      else
        advance
        let right ← operand op.binding.rightLevel
        links operand least (count + 1) (.binary left op right)
termination_by nestingLimit - count

/-- An expression whose operators have at least level `least`. -/
def climb : (below least : Nat) → Procedure Expr
  | 0, _ => fail .tooDeep
  | below + 1, least => nested do
    let left ← unary (climb below)
    links (climb below) least 0 left

def expression : Procedure Expr := climb nestingLimit 1

def comparison : Procedure Relation := do
  match ← current with
  | some .eqEq =>
    advance
    return .equal
  | some .greater =>
    advance
    return .greater
  | some .less =>
    advance
    return .less
  | some .assign => unexpected .comparison (some .compareWithTwoSigns)
  | _ => unexpected .comparison none

def condition : Procedure Condition := do
  let left ← expression
  let relation ← comparison
  let right ← expression
  return { relation, left, right }

/-! ### Statements -/

def assignment : Procedure Assignment := do
  let name ← expectName
  expect .assign
  match ← current with
  | some (.str text) =>
    advance
    return { name, value := .str text }
  | _ => return { name, value := .expr (← expression) }

/-- A loop, whose body is read by the given procedure. -/
def forLoop (body : Procedure Statement) : Procedure Statement := do
  expect .kwFor
  let setup ← assignment
  expect .kwTo
  let bound ← expression
  expect .kwThen
  return .forLoop setup bound (← body)

def elseWord : Procedure Unit := do
  if (← current) = none then unexpected (.token .kwElse) (some .writeElse)
  else expect .kwElse

/-- A conditional, whose branches are read by the given procedure. -/
def ifElse (branch : Procedure Statement) : Procedure Statement := do
  expect .kwIf
  let cond ← condition
  expect .kwThen
  let thenBranch ← branch
  elseWord
  return .ifElse cond thenBranch (← branch)

def noParameters : Procedure Unit := do
  expect .lparen
  let next ← current
  if next ≠ none ∧ next ≠ some .rparen then unexpected (.token .rparen) (some .noParameters)
  else expect .rparen

/-- A definition, whose body is read by the given procedure. -/
def funDef (body : Procedure Statement) : Procedure Statement := do
  expect .kwFun
  let name ← expectName
  noParameters
  expect .arrow
  return .funDef name (← body)

def funCall : Procedure Statement := do
  let name ← expectName
  expect .lparen
  expect .rparen
  return .funCall name

/-- A statement, with another inside as often as given. -/
def statementWithin : (below : Nat) → Procedure Statement
  | 0 => fail .tooDeep
  | below + 1 => nested do
    match ← current with
    | none | some .kwElse => return .empty
    | some .kwFor => forLoop (statementWithin below)
    | some .kwIf => ifElse (statementWithin below)
    | some .kwFun => funDef (statementWithin below)
    | some (.name _) =>
      match ← peek 1 with
      | some .lparen => funCall
      | some .assign => return .assign (← assignment)
      | _ => return .expr (← expression)
    | _ => return .expr (← expression)

def statement : Procedure Statement := statementWithin nestingLimit

def program : Procedure Statement := do
  let whole ← statement
  match ← current with
  | none => return whole
  | some .kwElse => unexpected .endOfInput (some .elseWithoutThen)
  | some _ => unexpected .endOfInput (some .oneStatement)

end Procedure

end MiniBasic.Parser
