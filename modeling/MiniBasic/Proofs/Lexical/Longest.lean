import MiniBasic.Proofs.Lexical.Scan
import MiniBasic.Proofs.Lexical.Token

/-!
# The longest match

A scan against the rules, each on its own (`lex_longest`).  A token stands for the longest text that
any rule takes where it starts.  With an illegal character no text begins that a rule takes, and an
oversized number is a whole run of digits.

A quote is illegal exactly when no second quote follows on its line.  This is said of every quote
that starts a span.  All other quotes are inside of strings or comments, or end a string.
-/

namespace MiniBasic.Lexical

open Text (Span Parts)

variable {before rest : List Char} {span : Span}

/-! ## Quotes -/

/-- A quote is closed if there is another one on its line. -/
theorem closed_iff_mem_line :
    (∃ inside after, rest = inside ++ '"' :: after ∧ ∀ d ∈ inside, isQuotable d = true) ↔
      '"' ∈ rest.takeWhile (· ≠ '\n') := by
  constructor
  · rintro ⟨inside, after, rfl, quotable⟩
    have onLine : ∀ d ∈ inside, decide (d ≠ '\n') = true := by
      intro d isIn
      rw [decide_eq_true_eq]
      rintro rfl
      exact (forall_isQuotable_iff.mp quotable).2 isIn
    rw [List.takeWhile_append_of_pos onLine]
    simp
  · intro onLine
    induction rest with
    | nil => cases onLine
    | cons c rest ih =>
      by_cases quote : c = '"'
      · subst quote
        exact ⟨[], rest, rfl, by simp⟩
      by_cases feed : c = '\n'
      · subst feed
        cases onLine
      have others : '"' ∈ rest.takeWhile (· ≠ '\n') := by
        simpa [feed, Ne.symm quote] using onLine
      obtain ⟨inside, after, rfl, quotable⟩ := ih others
      refine ⟨c :: inside, after, rfl, List.forall_mem_cons.mpr ⟨?_, quotable⟩⟩
      simp [isQuotable, quote, feed]

theorem illegal_quote_iff {source : String} {inside after : List Char}
    (isSpan : span ∈ (lex source).spans)
    (parts : Parts source.toList span before ('"' :: inside) after) :
    (∃ line, .illegalCharacter '"' span.start line ∈ (lex source).errors) ↔
      '"' ∉ (inside ++ after).takeWhile (· ≠ '\n') := by
  rw [← closed_iff_mem_line]
  constructor
  · rintro ⟨line, isError⟩
    obtain ⟨before', after', parts', isFirst⟩ := exists_parts_of_mem_errors isError
    have isAhead : inside ++ after = after' := (List.cons.inj (parts.ahead_unique parts' rfl)).2
    rw [isAhead]
    exact Piece.isFirst_illegal_quote_iff.mp isFirst
  · intro opened
    rcases List.mem_merge.mp isSpan with ofToken | ofError
    · obtain ⟨located, isToken, rfl⟩ := List.mem_map.mp ofToken
      obtain ⟨before', text, after', parts', isFirst⟩ := exists_parts_of_mem_tokens isToken
      obtain ⟨rfl, rfl⟩ := parts.unique parts'
      -- a token that starts with a quote is a string, and is closed
      obtain ⟨string, rfl, quotable⟩ : ∃ string, inside = string ++ ['"'] ∧
          ∀ d ∈ string, isQuotable d = true := isTaken_cons_iff.mp (Or.inl ⟨_, isFirst.1⟩)
      exact absurd ⟨string, after, by simp, quotable⟩ opened
    · obtain ⟨error, isError, rfl⟩ := List.mem_map.mp ofError
      obtain ⟨before', after', parts', isFirst⟩ := exists_parts_of_mem_errors isError
      obtain ⟨isText, rfl⟩ := parts.unique parts'
      cases error with
      | illegalCharacter ch index line =>
        cases isText
        exact ⟨line, isError⟩
      | numberTooLarge text span line =>
        have isText : '"' :: inside = text.toList := isText
        have digits : IsDigits ('"' :: inside) := isText ▸ isFirst.1
        exact absurd (digits.2 '"' (List.mem_cons_self ..)) (by decide)

/-! ## The rules and a scan -/

/-- A token is read from the longest text that any rule takes, and by the rule for this token, and
it says what that text says.  With an illegal character no text begins that a rule takes, and a
quote that starts a span is illegal exactly if no other quote follows on its line.  A number that is
too large is a run of digits that goes on no further and whose value is not below the bound. -/
theorem lex_longest (source : String) :
    (∀ located ∈ (lex source).tokens, ∃ before text after,
      Parts source.toList located.span before text after ∧
        Lexeme text located.token ∧ IsLongest text after ∧ located.token.ReadFrom text) ∧
    (∀ ch index line, .illegalCharacter ch index line ∈ (lex source).errors → ∃ before after,
      Parts source.toList ⟨index, index + ch.utf8Size⟩ before [ch] after ∧
        ∀ text, text ≠ [] → text <+: ch :: after → ¬ IsTaken text) ∧
    (∀ span ∈ (lex source).spans, ∀ before inside after,
      Parts source.toList span before ('"' :: inside) after →
        ((∃ line, .illegalCharacter '"' span.start line ∈ (lex source).errors) ↔
          '"' ∉ (inside ++ after).takeWhile (· ≠ '\n'))) ∧
    ∀ text span line, .numberTooLarge text span line ∈ (lex source).errors → ∃ before after,
      Parts source.toList span before text.toList after ∧ IsDigits text.toList ∧
        (∀ d ∈ after.head?, d.isDigit = false) ∧ numberBound ≤ decimalValue text.toList := by
  refine ⟨?_, ?_, ?_, ?_⟩
  · intro located isToken
    obtain ⟨before, text, after, parts, lexeme, longest⟩ := exists_parts_of_mem_tokens isToken
    exact ⟨before, text, after, parts, lexeme, longest, lexeme.readFrom⟩
  · intro ch index line isError
    obtain ⟨before, after, parts, isFirst⟩ := exists_parts_of_mem_errors isError
    exact ⟨before, after, parts, isFirst⟩
  · intro span isSpan before inside after parts
    exact illegal_quote_iff isSpan parts
  · intro text span line isError
    obtain ⟨before, after, parts, isFirst⟩ := exists_parts_of_mem_errors isError
    obtain ⟨digits, large, longest⟩ := isFirst
    exact ⟨before, after, parts, digits, digits.stop longest, large⟩

/-- In `IFX"a` the word is a name although it starts as a keyword does, and the quote is illegal. -/
theorem lex_longest_prefix :
    (⟨.name "IFX", ⟨0, 3⟩, 1⟩ ∈ (lex "IFX\"a").tokens ∧ ∃ before text after,
      Parts "IFX\"a".toList ⟨0, 3⟩ before text after ∧ Lexeme text (.name "IFX") ∧
        IsLongest text after ∧ (Token.name "IFX").ReadFrom text) ∧
    .illegalCharacter '"' 3 1 ∈ (lex "IFX\"a").errors ∧ ∃ before after,
      Parts "IFX\"a".toList ⟨3, 4⟩ before ['"'] after ∧
        ∀ text, text ≠ [] → text <+: '"' :: after → ¬ IsTaken text := by
  have isScan : lex "IFX\"a" = ⟨[⟨.name "IFX", ⟨0, 3⟩, 1⟩, ⟨.name "a", ⟨4, 5⟩, 1⟩],
      [.illegalCharacter '"' 3 1]⟩ := by
    decide +kernel
  have isToken : ⟨.name "IFX", ⟨0, 3⟩, 1⟩ ∈ (lex "IFX\"a").tokens := by
    rw [isScan]
    exact List.mem_cons_self ..
  have isError : .illegalCharacter '"' 3 1 ∈ (lex "IFX\"a").errors := by
    rw [isScan]
    exact List.mem_cons_self ..
  obtain ⟨tokens, illegal, -, -⟩ := lex_longest "IFX\"a"
  exact ⟨⟨isToken, tokens _ isToken⟩, isError, illegal _ _ _ isError⟩

end MiniBasic.Lexical
