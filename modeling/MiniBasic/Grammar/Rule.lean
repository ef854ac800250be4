import MiniBasic.Token

/-!
# Rules of the grammar

A rule reads from the front of a list of tokens.  It answers with what it read or with a failure,
and in both cases with the tokens that are left, so a failure is always about the first token
left, or about the end.  A rule sees only the tokens ahead: neither what was read before nor where
the tokens stand in a source.
-/

namespace MiniBasic.Grammar

/-! ## Failures -/

/-- What a rule wanted to read. -/
inductive Expectation where
  | token (token : Token)
  | name
  /-- The start of an expression. -/
  | expression
  | comparison
  | endOfInput
deriving DecidableEq

def Expectation.text : Expectation → String
  | token wanted => wanted.lexeme
  | name => "a name"
  | expression => "an expression"
  | comparison => "'==', '>' or '<'"
  | endOfInput => "end of input"

/-- Advice for mistakes that are easy to make. -/
inductive Hint where
  /-- A text stands where an expression is wanted. -/
  | onlyAssignTexts
  /-- A condition holds the sign of an assignment. -/
  | compareWithTwoSigns
  /-- A conditional ends after its first branch. -/
  | writeElse
  /-- A function is defined with something between its brackets. -/
  | noParameters
  /-- A second branch follows something that has none. -/
  | elseWithoutThen
  /-- A second statement follows on the same line. -/
  | oneStatement
  | splitStatement
deriving DecidableEq

def Hint.text : Hint → String
  | onlyAssignTexts => "Strings can only be assigned, as in x = \"text\""
  | compareWithTwoSigns => "Use '==' to compare"
  | writeElse => "Every IF needs an ELSE branch"
  | noParameters => "Functions take no parameters"
  | elseWithoutThen => "ELSE only follows the THEN branch of an IF"
  | oneStatement => "Only one statement is parsed per line"
  | splitStatement => "Split the statement into smaller ones"

/-- Why a rule failed at the first token left. -/
inductive Failure where
  /-- The token, or the end, is not what was wanted. -/
  | unexpected (expected : Expectation) (hint : Option Hint)
  | tooDeep
deriving DecidableEq

/-! ## Rules -/

/-- A rule of the grammar. -/
def Rule (α : Type) : Type := List Token → Except Failure α × List Token

namespace Rule

variable {α β : Type}

protected def pure (a : α) : Rule α := fun ahead => (.ok a, ahead)

/-- One rule after another; the second is chosen by what the first has read. -/
protected def bind (rule : Rule α) (next : α → Rule β) : Rule β := fun ahead =>
  match rule ahead with
  | (.ok a, left) => next a left
  | (.error failure, left) => (.error failure, left)

instance : Monad Rule where
  pure := Rule.pure
  bind := Rule.bind

/-- The rule that fails where it stands. -/
def fail (failure : Failure) : Rule α := fun ahead => (.error failure, ahead)

/-- Something else was wanted where the rule stands. -/
def unexpected (expected : Expectation) : Rule α := fail (.unexpected expected none)

/-- Something else was wanted, and there is advice. -/
def unexpectedBut (expected : Expectation) (hint : Hint) : Rule α :=
  fail (.unexpected expected (some hint))

/-- The nesting is too deep where the rule stands. -/
def tooDeep : Rule α := fail .tooDeep

/-- The next token, which is not read. -/
def head : Rule (Option Token) := fun ahead => (.ok ahead.head?, ahead)

/-- The token after the next, which is not read. -/
def second : Rule (Option Token) := fun ahead => (.ok ahead[1]?, ahead)

/-- Reads a token, whatever it is. -/
def advance : Rule Unit := fun ahead => (.ok (), ahead.tail)

/-- Reads the given token if it comes next, and tells whether it did. -/
def accept (token : Token) : Rule Bool := fun ahead =>
  if ahead.head? = some token then (.ok true, ahead.tail) else (.ok false, ahead)

/-- Reads the given token, its value included. -/
def expect (token : Token) : Rule Unit := fun ahead =>
  if ahead.head? = some token then (.ok (), ahead.tail) else unexpected (.token token) ahead

def expectName : Rule String := fun ahead =>
  match ahead with
  | .name name :: left => (.ok name, left)
  | _ => unexpected .name ahead

@[simp] theorem pure_apply (a : α) (ahead : List Token) :
    (pure a : Rule α) ahead = (.ok a, ahead) := rfl

theorem bind_apply (rule : Rule α) (next : α → Rule β) (ahead : List Token) :
    (rule >>= next) ahead =
      match rule ahead with
      | (.ok a, left) => next a left
      | (.error failure, left) => (.error failure, left) := rfl

@[simp] theorem fail_apply (failure : Failure) (ahead : List Token) :
    (fail failure : Rule α) ahead = (.error failure, ahead) := rfl

@[simp] theorem head_apply (ahead : List Token) : head ahead = (.ok ahead.head?, ahead) := rfl

@[simp] theorem second_apply (ahead : List Token) : second ahead = (.ok ahead[1]?, ahead) := rfl

@[simp] theorem advance_apply (ahead : List Token) : advance ahead = (.ok (), ahead.tail) := rfl

@[simp] theorem head_bind_apply (next : Option Token → Rule β) (ahead : List Token) :
    (head >>= next) ahead = next ahead.head? ahead := rfl

end Rule

end MiniBasic.Grammar
