import MiniBasic.Text.Span

/-!
# Lexical errors

Two things can be wrong with a source before it is read as a statement.  Neither stops the
reading.
-/

namespace MiniBasic.Lexical

/-- What is wrong at a place of a source. -/
inductive LexicalError where
  /-- A character that no rule takes, at a byte offset. -/
  | illegalCharacter (ch : Char) (index line : Nat)
  /-- A run of digits whose value does not fit in 64 bits. -/
  | numberTooLarge (text : String) (span : Text.Span) (line : Nat)
deriving DecidableEq

namespace LexicalError

/-- The code of an error in diagnostics. -/
def code : LexicalError → String
  | illegalCharacter .. => "ERR-LEX-001"
  | numberTooLarge .. => "ERR-LEX-002"

/-- The line of the error, counted from 1. -/
def line : LexicalError → Nat
  | illegalCharacter _ _ line => line
  | numberTooLarge _ _ line => line

/-- The bytes that are at fault. -/
def span : LexicalError → Text.Span
  | illegalCharacter ch index _ => ⟨index, index + ch.utf8Size⟩
  | numberTooLarge _ span _ => span

/-- The text that is at fault. -/
def text : LexicalError → List Char
  | illegalCharacter ch .. => [ch]
  | numberTooLarge text .. => text.toList

/-- The error in words.  The character or the digits stand as they are in the source. -/
def message : LexicalError → String
  | illegalCharacter ch index line =>
    "Illegal character '" ++ String.singleton ch ++ "' at line " ++ toString line ++ ", index " ++
      toString index
  | numberTooLarge text _ line =>
    "Integer literal '" ++ text ++ "' does not fit in 64 bits (line " ++ toString line ++ ")"

example : (illegalCharacter '@' 4 2).message = "Illegal character '@' at line 2, index 4" := rfl

end LexicalError

end MiniBasic.Lexical
