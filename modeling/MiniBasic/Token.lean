import MiniBasic.Text.Span

/-!
# Tokens

The words of the language: six keywords, thirteen signs, and three sorts of word that carry a
value.  Comments and ends of line have a token each, so that listings can name them, but the
reader of words leaves both out (`Lexical.lex`).

A token has three spellings.  Its *kind* heads it in listings.  Its *lexeme* is how it is asked
for: the fixed text of a keyword or sign, the kind of a word with a value.  Its *text* is how this
one token is written, value included.
-/

namespace MiniBasic

/-- A word of the language. -/
inductive Token where
  | kwIf
  | kwThen
  | kwElse
  | kwFor
  | kwTo
  | kwFun
  | arrow
  | eqEq
  | greater
  | less
  | assign
  | plus
  | minus
  | star
  | slash
  | lparen
  | rparen
  | comma
  | semicolon
  | comment
  | newline
  | name (ident : String)
  | number (value : Int64)
  | str (text : String)
deriving DecidableEq

namespace Token

/-- How a token of this sort is asked for. -/
def lexeme : Token → String
  | kwIf => "IF"
  | kwThen => "THEN"
  | kwElse => "ELSE"
  | kwFor => "FOR"
  | kwTo => "TO"
  | kwFun => "FUN"
  | arrow => "->"
  | eqEq => "=="
  | greater => ">"
  | less => "<"
  | assign => "="
  | plus => "+"
  | minus => "-"
  | star => "*"
  | slash => "/"
  | lparen => "("
  | rparen => ")"
  | comma => ","
  | semicolon => ";"
  | comment => "#"
  | newline => "\\n"
  | name _ => "NAME"
  | number _ => "NUMBER"
  | str _ => "STRING"

/-- The heading of a token in listings.  A single sign is its own kind. -/
def kind : Token → String
  | arrow => "ARROW"
  | eqEq => "EQEQ"
  | greater => "GRTH"
  | less => "LSTH"
  | comment => "COMMENT"
  | newline => "NEWLINE"
  | token => token.lexeme

/-- A 64-bit number in decimal, with a minus sign below zero. -/
def decimal (value : Int64) : String := toString value.toInt

/-- How this token is written, its value included. -/
def text : Token → String
  | name ident => ident
  | number value => decimal value
  | str text => "\"" ++ text ++ "\""
  | token => token.lexeme

/-- Tokens as they are written, with one blank between each two. -/
def spaced (tokens : List Token) : String := " ".intercalate (tokens.map text)

/-- A token where it stands in a source. -/
structure Located where
  token : Token
  /-- The bytes it was read from. -/
  span : Text.Span
  /-- The line it starts on, counted from 1. -/
  line : Nat
deriving DecidableEq

/-- A token with its kind, text and line, as listings show it. -/
def Located.listed (located : Located) : String :=
  "(" ++ located.token.kind ++ ", " ++ located.token.text ++ ", " ++ toString located.line ++ ")"

example : Located.listed ⟨str "hi", ⟨4, 8⟩, 1⟩ = "(STRING, \"hi\", 1)" := rfl
example : Located.listed ⟨greater, ⟨0, 1⟩, 2⟩ = "(GRTH, >, 2)" := rfl
example : text (number (-5)) = "-5" := rfl

end Token

end MiniBasic
