import MiniBasic.Proofs.Diagnostic.Excerpt
import MiniBasic.Proofs.Reading.Places

/-!
# Carets under real errors

A span made by hand may point anywhere, but the span of an error that a source has does not: it lies
within the line that the error names (`Text.OnLine`).  So the diagnostic of such an error always
shows a line, the number in front of it is that of the error, and the carets stand under the
characters of the span and no others (`render_of_reading`).  Where the span is empty, as it is for
the end of the input, one caret marks the place.
-/

namespace MiniBasic

open Text (Span OnLine LineParts)

namespace Diagnostic

/-- Does a diagnostic mark a place on the line of a source with a number?  Written without styles,
it shows the code and the message, the number and the line, under the line a blank for each
character before the span and a caret for each character of the span, and the advice. -/
def Marks (diagnostic : Diagnostic) (source : String) (line : Nat) : Prop :=
  ∃ above before inside behind below,
    LineParts source.toList diagnostic.span above before inside behind below ∧
    line = 1 + above.count '\n' ∧
    (diagnostic.span.start < diagnostic.span.stop → max 1 inside.length = inside.length) ∧
    (diagnostic.render source).write false =
      "[" ++ diagnostic.code ++ "] " ++ diagnostic.message ++
      "\n" ++ rightAligned 4 line ++ " | " ++ String.ofList (before ++ (inside ++ behind)) ++
      "\n     | " ++ String.ofList (List.replicate before.length ' ') ++
        String.ofList (List.replicate (max 1 inside.length) '^') ++
      match diagnostic.suggestion with
      | some suggestion => "\nHint: " ++ suggestion
      | none => ""

variable {diagnostic : Diagnostic} {source : String} {line : Nat}

theorem write_headline (diagnostic : Diagnostic) :
    diagnostic.headline.write false = "[" ++ diagnostic.code ++ "] " ++ diagnostic.message := by
  rw [← String.toList_inj]
  simp [headline, Text.Styled.write_false, Text.Styled.bold, Text.Styled.plain]

theorem write_advice (suggestion : String) :
    (advice suggestion).write false = "\nHint: " ++ suggestion := by
  rw [← String.toList_inj]
  simp [advice, Text.Styled.write_false, Text.Styled.bold, Text.Styled.plain, Text.Styled.tinted]

theorem toList_pushn (text : String) (c : Char) (n : Nat) :
    (text.pushn c n).toList = text.toList ++ List.replicate n c := by
  induction n with
  | zero => exact (List.append_nil _).symm
  | succ n ih =>
    show ((text.pushn c n).push c).toList = _
    rw [String.toList_push, ih, List.replicate_succ', List.append_assoc]

/-- A diagnostic marks its place if its span lies on a line. -/
theorem marks_of_onLine (onLine : OnLine source.toList diagnostic.span line) :
    diagnostic.Marks source line := by
  obtain ⟨front, inside, back, parts, oneLine, rfl⟩ := onLine
  obtain ⟨above, before, behind, below, rfl, lineParts⟩ := Text.exists_lineParts parts oneLine
  have sameLine : (above ++ before).count '\n' = above.count '\n' := by
    rw [List.count_append, List.count_eq_zero_of_not_mem lineParts.notMem_before, Nat.add_zero]
  rw [sameLine]
  refine ⟨above, before, inside, behind, below, lineParts, rfl, ?_, ?_⟩
  · intro holds
    exact Nat.max_eq_right (List.length_pos_iff.mpr (parts.inside_ne_nil holds))
  · rw [render, Excerpt.of?_of_lineParts lineParts, Option.map_some, Option.getD_some,
      Text.Styled.write_append, Text.Styled.write_append, write_headline, Excerpt.write_render,
      ← String.toList_inj]
    cases diagnostic.suggestion with
    | none => simp [toList_pushn]
    | some suggestion => simp [toList_pushn, write_advice]

end Diagnostic

/-- The diagnostic of an error that a source has marks the place of the error, on the line that the
error names. -/
theorem render_of_reading (source : String) :
    (∀ error ∈ (Reading.ofSource source).lexErrors, error.diagnostic.Marks source error.line) ∧
    ∀ error, (Reading.ofSource source).result = .error error →
      error.diagnostic.Marks source error.line := by
  constructor
  · intro error isError
    exact Diagnostic.marks_of_onLine (Lexical.onLine_of_mem_errors isError)
  · intro error failed
    exact Diagnostic.marks_of_onLine (Reading.onLine_of_result failed)

/-- In `f(` and a second line with `é`, the letter is marked on the second line, and the missing
bracket behind the first. -/
theorem render_of_reading_call :
    (.illegalCharacter 'é' 4 2 ∈ (Reading.ofSource "f(\n é").lexErrors ∧
      (Lexical.LexicalError.illegalCharacter 'é' 4 2).diagnostic.Marks "f(\n é" 2) ∧
    (Reading.ofSource "f(\n é").result = .error ⟨.unexpectedEnd ")", ⟨2, 2⟩, 1, none⟩ ∧
      (SyntaxError.mk (.unexpectedEnd ")") ⟨2, 2⟩ 1 none).diagnostic.Marks "f(\n é" 1 := by
  have isError : .illegalCharacter 'é' 4 2 ∈ (Reading.ofSource "f(\n é").lexErrors := by
    decide +kernel
  have failed : (Reading.ofSource "f(\n é").result =
      .error ⟨.unexpectedEnd ")", ⟨2, 2⟩, 1, none⟩ := by
    have scanned : (Lexical.lex "f(\n é").tokens =
        [⟨.name "f", ⟨0, 1⟩, 1⟩, ⟨.lparen, ⟨1, 2⟩, 1⟩] := by decide +kernel
    show (Parser.ofTokens (Lexical.lex "f(\n é").tokens).parse.1 = _
    rw [scanned]
    rfl
  obtain ⟨lexical, syntactic⟩ := render_of_reading "f(\n é"
  exact ⟨⟨isError, lexical _ isError⟩, failed, syntactic _ failed⟩

end MiniBasic
