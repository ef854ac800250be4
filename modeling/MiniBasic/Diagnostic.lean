import MiniBasic.Reading
import MiniBasic.Text.Styled

/-!
# Diagnostics

A diagnostic shows what is wrong with a source: a code and a message, the line of the source with
carets under the place, and advice.

The place is a span, and a span made by hand may be anything.  The line is shown exactly when the
span ends within the source and starts on a boundary of characters (`Excerpt.of?`).  It is the
line where the span starts; the carets start there and are as many as the span has characters,
also beyond the end of that line.  A span that is empty, reversed, or ends inside a character has
one caret.
-/

namespace MiniBasic

open Text (Span Styled)

/-! ## Excerpts -/

/-- The line of a source that a span starts on. -/
structure Excerpt where
  /-- The number of the line, counted from 1. -/
  line : Nat
  /-- The line, without its line feed. -/
  text : List Char
  /-- The characters of the line before the span. -/
  column : Nat
  width : Nat
deriving DecidableEq

/-- Is this any character but a line feed? -/
def inLine (c : Char) : Bool := c != '\n'

/-- The number of carets for a span of some bytes at the start of a text. -/
def caretWidth (text : List Char) (bytes : Nat) : Nat :=
  match Text.cut? text bytes with
  | some (marked, _) => max 1 marked.length
  | none => 1

/-- The excerpt for a span, unless the span ends outside the text or starts off a boundary. -/
def Excerpt.of? (text : List Char) (span : Span) : Option Excerpt :=
  if Text.byteLength text < span.stop then none
  else
    (Text.cut? text span.start).map fun (before, after) =>
      let head := (before.reverse.takeWhile inLine).reverse
      { line := 1 + before.count '\n'
        text := head ++ after.takeWhile inLine
        column := head.length
        width := caretWidth after (span.stop - span.start) }

/-- A number set to the right in a field of some width. -/
def rightAligned (width n : Nat) : String :=
  let digits := toString n
  "".pushn ' ' (width - digits.length) ++ digits

/-- The excerpt on two rows, the line and the carets, each behind a gutter. -/
def Excerpt.render (excerpt : Excerpt) : Styled :=
  Styled.plain ("\n" ++ rightAligned 4 excerpt.line ++ " | ") ++
    Styled.weighted (String.ofList excerpt.text) .dim ++
    Styled.plain ("\n     | " ++ "".pushn ' ' excerpt.column) ++
    Styled.bold ("".pushn '^' excerpt.width) .red

/-! ## Diagnostics -/

/-- Something to show about a source. -/
structure Diagnostic where
  code : String
  message : String
  span : Span
  suggestion : Option String
deriving DecidableEq

/-- A lexical error as a diagnostic. -/
def Lexical.LexicalError.diagnostic (error : Lexical.LexicalError) : Diagnostic :=
  ⟨error.code, error.message, error.span, none⟩

/-- A syntax error as a diagnostic. -/
def SyntaxError.diagnostic (error : SyntaxError) : Diagnostic :=
  ⟨error.code, error.message, error.span, error.suggestion⟩

namespace Diagnostic

/-- The code and the message. -/
def headline (diagnostic : Diagnostic) : Styled :=
  Styled.bold ("[" ++ diagnostic.code ++ "]") .red ++ Styled.plain (" " ++ diagnostic.message)

/-- Advice on a row of its own. -/
def advice (suggestion : String) : Styled :=
  Styled.plain "\n" ++ Styled.bold "Hint:" .cyan ++ Styled.plain " " ++
    Styled.tinted suggestion .cyan

/-- The diagnostic as it is shown for a source. -/
def render (diagnostic : Diagnostic) (source : String) : Styled :=
  diagnostic.headline ++
    ((Excerpt.of? source.toList diagnostic.span).map Excerpt.render).getD [] ++
    (diagnostic.suggestion.map advice).getD []

end Diagnostic

/-- The diagnostics of a reading: the lexical errors in order, then the syntax error. -/
def Reading.diagnostics (reading : Reading) : List Diagnostic :=
  reading.lexErrors.map (·.diagnostic) ++ (reading.error?.map (·.diagnostic)).toList

example : Excerpt.of? ['a', '\n', 'é', 'b'] ⟨2, 4⟩ = some ⟨2, ['é', 'b'], 0, 1⟩ := by decide
example : Excerpt.of? ['a', '\n', 'é', 'b'] ⟨3, 4⟩ = none := by decide
example : Excerpt.of? ['a', '\n', 'é', 'b'] ⟨0, 3⟩ = some ⟨1, ['a'], 0, 1⟩ := by decide

end MiniBasic
