import MiniBasic.Proofs.Lexical.Scan
import MiniBasic.Proofs.Parser.Program
import MiniBasic.Reading

/-!
# Where errors stand

Every error of a reading has a span and the number of a line, and the two agree: the span lies
within that one line of the source (`Text.OnLine`).  For the tokens and the lexical errors this
holds since only gaps go over the end of a line, and the counter that moves on over those is exact
(`Lexical.Place.afterAll_eq_past`).  A syntax error borrows its place from a token: it stands at one
of them, or behind the last, or at the start of a source without tokens
(`Reading.onLine_of_result`).

So the number of a line is always that of the start of the span, counted in the source itself
(`lines_of_reading`).
-/

namespace MiniBasic

namespace Text

variable {text : List Char} {span : Span} {line : Nat}

/-- Does a span lie within the line with a number?  It parts the text, holds no end of line, and as
many lines end before it as there are lines with a smaller number. -/
def OnLine (text : List Char) (span : Span) (line : Nat) : Prop :=
  ∃ before inside after, Parts text span before inside after ∧ '\n' ∉ inside ∧
    line = 1 + before.count '\n'

/-- The first line starts with the text. -/
theorem onLine_start (text : List Char) : OnLine text ⟨0, 0⟩ 1 :=
  ⟨[], [], text, ⟨rfl, rfl, rfl⟩, List.not_mem_nil, rfl⟩

/-- The empty span behind a span is on the same line. -/
theorem OnLine.behind (onLine : OnLine text span line) :
    OnLine text ⟨span.stop, span.stop⟩ line := by
  obtain ⟨before, inside, after, parts, oneLine, rfl⟩ := onLine
  refine ⟨before ++ inside, [], after, ⟨?_, ?_, ?_⟩, List.not_mem_nil, ?_⟩
  · rw [List.append_assoc]
    exact parts.joined
  · rw [byteLength_append]
    exact parts.stop
  · rw [byteLength_append]
    exact parts.stop
  · rw [List.count_append, List.count_eq_zero_of_not_mem oneLine, Nat.add_zero]

/-- The number of the line at a byte offset, if the offset is on a boundary of characters: one more
than there are ends of line before it. -/
def lineAt? (text : List Char) (offset : Nat) : Option Nat :=
  (cut? text offset).map fun (before, _) => 1 + before.count '\n'

theorem OnLine.lineAt? (onLine : OnLine text span line) :
    Text.lineAt? text span.start = some line := by
  obtain ⟨before, inside, after, parts, -, rfl⟩ := onLine
  rw [Text.lineAt?, cut?_eq_some_iff.mpr ⟨parts.joined, parts.start⟩]
  rfl

end Text

open Text (OnLine)

/-! ## Tokens and lexical errors -/

namespace Lexical

variable {source : String}

theorem onLine_of_mem_tokens {located : Token.Located} (isToken : located ∈ (lex source).tokens) :
    OnLine source.toList located.span located.line := by
  obtain ⟨before, text, after, parts, lexeme, -⟩ := exists_parts_of_mem_tokens isToken
  exact ⟨before, text, after, parts, lexeme.feed_notMem, line_of_mem_tokens isToken parts⟩

theorem onLine_of_mem_errors {error : LexicalError} (isError : error ∈ (lex source).errors) :
    OnLine source.toList error.span error.line := by
  obtain ⟨before, after, parts, isFirst⟩ := exists_parts_of_mem_errors isError
  have wrong : error.piece.isWrong = true := by cases error <;> rfl
  have oneLine := Piece.feed_notMem_of_isWrong isFirst wrong
  rw [error.text_piece] at oneLine
  exact ⟨before, error.text, after, parts, oneLine, line_of_mem_errors isError parts⟩

end Lexical

/-! ## Syntax errors -/

/-- An error of a parser is on a line if all its tokens are. -/
theorem Parser.onLine_error {parser : Parser} {text : List Char}
    (tokens : ∀ located ∈ parser.tokens, OnLine text located.span located.line)
    (failure : Grammar.Failure) :
    OnLine text (parser.error failure).span (parser.error failure).line := by
  cases failure with
  | unexpected expected hint =>
    show OnLine text (parser.unexpected _ _).span (parser.unexpected _ _).line
    unfold unexpected
    split
    next found atCursor => exact tokens found (List.mem_of_getElem? atCursor)
    next =>
      split
      next last isLast => exact (tokens last (List.mem_of_getLast? isLast)).behind
      next => exact Text.onLine_start text
  | tooDeep =>
    show OnLine text parser.tooDeep.span parser.tooDeep.line
    unfold tooDeep
    split
    next found isFound =>
      rcases Option.or_eq_some_iff.mp isFound with atCursor | ⟨-, isLast⟩
      · exact tokens found (List.mem_of_getElem? atCursor)
      · exact tokens found (List.mem_of_getLast? isLast)
    next => exact Text.onLine_start text

theorem Reading.onLine_of_result {source : String} {error : SyntaxError}
    (failed : (Reading.ofSource source).result = .error error) :
    OnLine source.toList error.span error.line := by
  have answer : (Parser.ofTokens (Lexical.lex source).tokens).parse = (.error error, _) :=
    Prod.ext failed rfl
  obtain ⟨failure, rest, -, rfl, isAfter⟩ := Parser.run_eq_error_iff.mp answer
  refine Parser.onLine_error (fun located isToken => ?_) failure
  rw [isAfter] at isToken
  exact Lexical.onLine_of_mem_tokens isToken

/-- Every token, every lexical error and the syntax error of a source has the number of the line on
which its span starts. -/
theorem lines_of_reading (source : String) :
    (∀ located ∈ (Lexical.lex source).tokens,
      Text.lineAt? source.toList located.span.start = some located.line) ∧
    (∀ error ∈ (Lexical.lex source).errors,
      Text.lineAt? source.toList error.span.start = some error.line) ∧
    ∀ error, (Reading.ofSource source).result = .error error →
      Text.lineAt? source.toList error.span.start = some error.line := by
  refine ⟨fun located isToken => ?_, fun error isError => ?_, fun error failed => ?_⟩
  · exact (Lexical.onLine_of_mem_tokens isToken).lineAt?
  · exact (Lexical.onLine_of_mem_errors isError).lineAt?
  · exact (Reading.onLine_of_result failed).lineAt?

/-- In an empty line and a second line `x = é`, which ends, the missing expression is on the second
line too. -/
theorem lines_of_reading_second :
    (⟨.assign, ⟨3, 4⟩, 2⟩ ∈ (Lexical.lex "\nx = é\n").tokens ∧
      Text.lineAt? "\nx = é\n".toList 3 = some 2) ∧
    (.illegalCharacter 'é' 5 2 ∈ (Lexical.lex "\nx = é\n").errors ∧
      Text.lineAt? "\nx = é\n".toList 5 = some 2) ∧
    (Reading.ofSource "\nx = é\n").result =
        .error ⟨.unexpectedEnd "an expression", ⟨4, 4⟩, 2, none⟩ ∧
      Text.lineAt? "\nx = é\n".toList 4 = some 2 := by
  have scanned : Lexical.lex "\nx = é\n" =
      ⟨[⟨.name "x", ⟨1, 2⟩, 2⟩, ⟨.assign, ⟨3, 4⟩, 2⟩], [.illegalCharacter 'é' 5 2]⟩ := by
    decide +kernel
  have isToken : ⟨.assign, ⟨3, 4⟩, 2⟩ ∈ (Lexical.lex "\nx = é\n").tokens := by simp [scanned]
  have isError : .illegalCharacter 'é' 5 2 ∈ (Lexical.lex "\nx = é\n").errors := by
    simp [scanned]
  have failed : (Reading.ofSource "\nx = é\n").result =
      .error ⟨.unexpectedEnd "an expression", ⟨4, 4⟩, 2, none⟩ := by
    rw [Reading.result_ofSource, scanned]
    rfl
  obtain ⟨ofToken, ofError, ofResult⟩ := lines_of_reading "\nx = é\n"
  exact ⟨⟨isToken, ofToken _ isToken⟩, ⟨isError, ofError _ isError⟩, failed, ofResult _ failed⟩

end MiniBasic
