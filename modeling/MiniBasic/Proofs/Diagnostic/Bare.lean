import MiniBasic.Diagnostic
import MiniBasic.Proofs.Reading.Bare

/-!
# Diagnostics of a bare source

What is shown of a diagnostic is its texts, numbers, and a line of the source
(`Excerpt.subset_of_of?`).  If the diagnostic and the source are bare, so is all of it
(`Diagnostic.bare_render`).  The diagnostics of a bare source's reading are bare themselves
(`Reading.bare_of_mem_diagnostics`).
-/

namespace MiniBasic

open Text (Bare Styled bare_append bare_literal bare_ofList bare_pushn bare_toString)

/-! ## Excerpts -/

/-- An excerpt shows characters of its text. -/
theorem Excerpt.subset_of_of? {text : List Char} {span : Text.Span} {excerpt : Excerpt}
    (isExcerpt : Excerpt.of? text span = some excerpt) : excerpt.text ⊆ text := by
  unfold Excerpt.of? at isExcerpt
  split at isExcerpt
  next => cases isExcerpt
  next =>
    obtain ⟨⟨before, after⟩, isCut, rfl⟩ := Option.map_eq_some_iff.mp isExcerpt
    rw [← (Text.cut?_eq_some_iff.mp isCut).1]
    intro c isIn
    refine List.mem_append.mpr ((List.mem_append.mp isIn).imp (fun inHead => ?_) fun inRest => ?_)
    · rw [List.mem_reverse] at inHead
      exact List.mem_reverse.mp ((List.takeWhile_prefix inLine).mem inHead)
    · exact (List.takeWhile_prefix inLine).mem inRest

theorem bare_rightAligned (width n : Nat) : Bare (rightAligned width n) :=
  bare_append.mpr ⟨bare_pushn (bare_literal rfl) (by decide) _, bare_toString n⟩

theorem Excerpt.bare_render {excerpt : Excerpt} (bare : '\x1b' ∉ excerpt.text) :
    excerpt.render.Bare := by
  unfold Excerpt.render
  simp only [Styled.bare_append, Styled.bare_plain, Styled.bare_weighted, Styled.bare_bold,
    bare_append, bare_ofList, and_assoc]
  exact ⟨bare_literal rfl, bare_rightAligned _ _, bare_literal rfl, bare, bare_literal rfl,
    bare_pushn (bare_literal rfl) (by decide) _, bare_pushn (bare_literal rfl) (by decide) _⟩

/-! ## Diagnostics -/

/-- The texts of a diagnostic hold no escape character. -/
structure Diagnostic.Bare (diagnostic : Diagnostic) : Prop where
  code : Text.Bare diagnostic.code
  message : Text.Bare diagnostic.message
  suggestion : ∀ suggestion ∈ diagnostic.suggestion, Text.Bare suggestion

namespace Diagnostic

variable {diagnostic : Diagnostic} {source : String}

theorem bare_headline (bare : diagnostic.Bare) : diagnostic.headline.Bare := by
  unfold headline
  simp only [Styled.bare_append, Styled.bare_plain, Styled.bare_bold, bare_append, and_assoc]
  exact ⟨bare_literal rfl, bare.code, bare_literal rfl, bare_literal rfl, bare.message⟩

theorem bare_advice {suggestion : String} (bare : Text.Bare suggestion) :
    (advice suggestion).Bare := by
  unfold advice
  simp only [Styled.bare_append, Styled.bare_plain, Styled.bare_bold, Styled.bare_tinted, and_assoc]
  exact ⟨bare_literal rfl, bare_literal rfl, bare_literal rfl, bare⟩

/-- What is shown of a bare diagnostic and a bare source is bare. -/
theorem bare_render (bare : diagnostic.Bare) (bareSource : Text.Bare source) :
    (diagnostic.render source).Bare := by
  unfold render
  rw [Styled.bare_append, Styled.bare_append]
  refine ⟨⟨bare_headline bare, ?_⟩, ?_⟩
  · cases isExcerpt : Excerpt.of? source.toList diagnostic.span with
    | none => exact Styled.bare_nil
    | some excerpt =>
      exact Excerpt.bare_render fun isIn => bareSource (Excerpt.subset_of_of? isExcerpt isIn)
  · cases isAdvice : diagnostic.suggestion with
    | none => exact Styled.bare_nil
    | some suggestion => exact bare_advice (bare.suggestion suggestion isAdvice)

end Diagnostic

theorem Lexical.LexicalError.bare_diagnostic {error : Lexical.LexicalError}
    (bare : Bare error.message) : error.diagnostic.Bare where
  code := by cases error <;> exact bare_literal rfl
  message := bare
  suggestion := fun _ none => nomatch none

theorem SyntaxError.bare_diagnostic {error : SyntaxError} (bare : Bare error.message)
    (advice : ∀ suggestion ∈ error.suggestion, Bare suggestion) : error.diagnostic.Bare where
  code := by
    show Bare error.code
    unfold code
    split <;> exact bare_literal rfl
  message := bare
  suggestion := advice

/-- What a bare source is reported for is bare. -/
theorem Reading.bare_of_mem_diagnostics {source : String} {diagnostic : Diagnostic}
    (bare : Bare source) (shown : diagnostic ∈ (ofSource source).diagnostics) :
    diagnostic.Bare := by
  rcases List.mem_append.mp shown with isLexical | isSyntactic
  · obtain ⟨error, isError, rfl⟩ := List.mem_map.mp isLexical
    exact Lexical.LexicalError.bare_diagnostic (Lexical.bare_of_mem_errors bare isError)
  · obtain ⟨error, isError, rfl⟩ :=
      Option.map_eq_some_iff.mp (Option.mem_toList.mp isSyntactic)
    obtain ⟨inWords, advice⟩ := bare_of_error bare (result_of_error? isError)
    exact SyntaxError.bare_diagnostic inWords advice

end MiniBasic
