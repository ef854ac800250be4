import MiniBasic.Grammar.Statement
import MiniBasic.SyntaxError

/-!
# Parsers

A parser is a cursor in the tokens of a source, with the number of levels that are open around it.
`Parser.run` lets a rule of the grammar read from the cursor on.  The cursor moves over what the
rule has read, also when the rule fails, and a failure becomes an error about the token under the
cursor.  Past the last token, the error stands at the end of that token.

At most `nestingLimit` levels may be open.  The room of a parser is what is left of them, and none
is left in a parser that has more open.
-/

namespace MiniBasic

open Grammar (Rule Failure)

/-- The number of levels that may be open at once. -/
def nestingLimit : Nat := 256

/-- A cursor in a list of tokens. -/
structure Parser where
  tokens : List Token.Located
  /-- How many of them are read; it may be more than there are. -/
  pos : Nat
  depth : Nat
deriving DecidableEq

namespace Parser

/-- A parser at the first of some tokens. -/
def ofTokens (tokens : List Token.Located) : Parser := ⟨tokens, 0, 0⟩

/-- The number of levels that may still be opened. -/
def room (parser : Parser) : Nat := nestingLimit - parser.depth

/-- The tokens from the cursor on. -/
def ahead (parser : Parser) : List Token := (parser.tokens.drop parser.pos).map (·.token)

/-! ## Looking and moving -/

/-- The token some places after the cursor. -/
def peek? (parser : Parser) (offset : Nat) : Option Token :=
  parser.tokens[parser.pos + offset]?.map (·.token)

def current? (parser : Parser) : Option Token := parser.peek? 0

/-- The parser one token on, also past the last token. -/
def advance (parser : Parser) : Parser := { parser with pos := parser.pos + 1 }

/-! ## Errors at the cursor -/

/-- Something else was wanted than what is under the cursor. -/
def unexpected (parser : Parser) (expected : String) (suggestion : Option String) : SyntaxError :=
  match parser.tokens[parser.pos]? with
  | some found =>
    ⟨.unexpectedToken found.token.text expected, found.span, found.line, suggestion⟩
  | none =>
    match parser.tokens.getLast? with
    | some last =>
      ⟨.unexpectedEnd expected, ⟨last.span.stop, last.span.stop⟩, last.line, suggestion⟩
    | none => ⟨.unexpectedEnd expected, ⟨0, 0⟩, 1, suggestion⟩

/-- The nesting is too deep at the cursor, or at the last token when the cursor is past it. -/
def tooDeep (parser : Parser) : SyntaxError :=
  let suggestion := some Grammar.Hint.splitStatement.text
  match parser.tokens[parser.pos]?.or parser.tokens.getLast? with
  | some found => ⟨.nestingTooDeep nestingLimit, found.span, found.line, suggestion⟩
  | none => ⟨.nestingTooDeep nestingLimit, ⟨0, 0⟩, 1, suggestion⟩

/-- A failure at the cursor, as an error of the source. -/
def error (parser : Parser) : Failure → SyntaxError
  | .unexpected expected hint => parser.unexpected expected.text (hint.map (·.text))
  | .tooDeep => parser.tooDeep

/-! ## Reading -/

/-- The answer of a parser and the parser afterwards. -/
abbrev Answer (α : Type) : Type := Except SyntaxError α × Parser

/-- Lets a rule read from the cursor on. -/
def run {α : Type} (parser : Parser) (rule : Rule α) : Answer α :=
  let read := rule parser.ahead
  let after := { parser with pos := parser.pos + (parser.ahead.length - read.2.length) }
  (read.1.mapError after.error, after)

/-- Reads with one more level open, unless all are. -/
def nested {α : Type} (parser : Parser) (inner : Parser → Answer α) : Answer α :=
  if nestingLimit ≤ parser.depth then (.error parser.tooDeep, parser)
  else
    let answer := inner { parser with depth := parser.depth + 1 }
    (answer.1, { answer.2 with depth := answer.2.depth - 1 })

/-- Reads the given token if it is under the cursor, and tells whether it was. -/
def accept (parser : Parser) (token : Token) : Answer Bool := parser.run (Rule.accept token)

/-- Reads the given token, its value included. -/
def expect (parser : Parser) (token : Token) : Answer Unit := parser.run (Rule.expect token)

def expectName (parser : Parser) : Answer String := parser.run Rule.expectName

def term (parser : Parser) : Answer Expr := parser.run Grammar.term

def expression (parser : Parser) : Answer Expr := parser.run (Grammar.expression parser.room)

def condition (parser : Parser) : Answer Condition := parser.run (Grammar.condition parser.room)

def assignment (parser : Parser) : Answer Assignment := parser.run (Grammar.assignment parser.room)

def statement (parser : Parser) : Answer Statement := parser.run (Grammar.statement parser.room)

/-- Reads a statement that takes all tokens. -/
def parse (parser : Parser) : Answer Statement := parser.run (Grammar.program parser.room)

/-- What a rule reads is over when the rule is. -/
@[simp] theorem depth_run {α : Type} (parser : Parser) (rule : Rule α) :
    (parser.run rule).2.depth = parser.depth := rfl

@[simp] theorem tokens_run {α : Type} (parser : Parser) (rule : Rule α) :
    (parser.run rule).2.tokens = parser.tokens := rfl

end Parser

end MiniBasic
