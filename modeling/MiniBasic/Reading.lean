import MiniBasic.Lexical.Scan
import MiniBasic.Parser

/-!
# Reading a source

The tokens of a source are read as one statement.  What is wrong with single characters or numbers
does not stop the reading: they are left out, and the errors are kept beside the result.
-/

namespace MiniBasic

/-- What a source was read as. -/
structure Reading where
  result : Except SyntaxError Statement
  /-- What was left out on the way. -/
  lexErrors : List Lexical.LexicalError

/-- Reads a source as one statement. -/
def Reading.ofSource (source : String) : Reading :=
  let scan := Lexical.lex source
  ⟨(Parser.ofTokens scan.tokens).parse.1, scan.errors⟩

/-- The syntax error of a reading, if it has one. -/
def Reading.error? (reading : Reading) : Option SyntaxError :=
  match reading.result with
  | .ok _ => none
  | .error error => some error

/-- A reading without any error. -/
def Reading.isClean (reading : Reading) : Bool :=
  reading.lexErrors.isEmpty && reading.error?.isNone

/-- The result of a reading is what its tokens are read as. -/
theorem Reading.result_ofSource (source : String) :
    (ofSource source).result = (Parser.ofTokens (Lexical.lex source).tokens).parse.1 := rfl

theorem Reading.isClean_iff {reading : Reading} : reading.isClean = true ↔
    reading.lexErrors = [] ∧ ∃ tree, reading.result = .ok tree := by
  rw [isClean, Bool.and_eq_true, List.isEmpty_iff, error?]
  cases reading.result <;> simp

end MiniBasic
