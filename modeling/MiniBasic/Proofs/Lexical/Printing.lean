import MiniBasic.Proofs.Lexical.Scan
import MiniBasic.Proofs.Lexical.Token

/-!
# Reading what was written

Tokens that are written with one blank between each two are read back, all on the first line and
without an error, as long as each of them can be read from some text (`lex_spaced`).  What a scan
yields can always be read from some text, so a source may be written anew from its tokens.

The pieces of the written text are known beforehand: a token and a gap in turn (`spacedPieces`).
Each token comes first in front of the blank after it, because no word, number or sign goes on with
a blank.
-/

namespace MiniBasic.Lexical

variable {tokens : List Token} {token : Token}

/-- The pieces of written tokens. -/
def spacedPieces : List Token → List Piece
  | [] => []
  | [token] => [.token token.text.toList token]
  | token :: next :: rest =>
    .token token.text.toList token :: .gap [' '] :: spacedPieces (next :: rest)

theorem flatMap_text_spacedPieces (tokens : List Token) :
    (spacedPieces tokens).flatMap Piece.text = (Token.spaced tokens).toList := by
  rw [Token.spaced, String.toList_intercalate]
  fun_induction spacedPieces tokens with
  | case1 => rfl
  | case2 token => simp [Piece.text]
  | case3 token next rest ih =>
    rw [List.flatMap_cons, List.flatMap_cons, ih]
    rfl

theorem allFirst_spacedPieces (readable : ∀ token ∈ tokens, token.IsReadable) :
    AllFirst (spacedPieces tokens) := by
  fun_induction spacedPieces tokens with
  | case1 => trivial
  | case2 token =>
    have lexeme := lexeme_text_of_isReadable (readable token (List.mem_singleton_self token))
    refine ⟨⟨lexeme, lexeme.isLongest_of_gap ?_⟩, trivial⟩
    intro d isNext
    cases isNext
  | case3 token next rest ih =>
    obtain ⟨isReadable, others⟩ := List.forall_mem_cons.mp readable
    have lexeme := lexeme_text_of_isReadable isReadable
    refine ⟨⟨lexeme, lexeme.isLongest_of_gap ?_⟩, .blank rfl, ih others⟩
    intro d isNext
    cases isNext
    rfl

/-- The pieces of written tokens hold these tokens, on the line where they start, and no error. -/
theorem scanFrom_spacedPieces (place : Place) (readable : ∀ token ∈ tokens, token.IsReadable) :
    (scanFrom place (spacedPieces tokens)).tokens.map (·.token) = tokens ∧
    (∀ located ∈ (scanFrom place (spacedPieces tokens)).tokens, located.line = place.line) ∧
    (scanFrom place (spacedPieces tokens)).errors = [] := by
  fun_induction spacedPieces tokens generalizing place with
  | case1 =>
    refine ⟨rfl, ?_, rfl⟩
    intro located isToken
    cases isToken
  | case2 token =>
    refine ⟨rfl, ?_, rfl⟩
    intro located isToken
    rw [List.mem_singleton.mp isToken]
    rfl
  | case3 token next rest ih =>
    obtain ⟨isReadable, others⟩ := List.forall_mem_cons.mp readable
    obtain ⟨sameTokens, sameLine, noErrors⟩ :=
      ih ((place.after (.token token.text.toList token)).after (.gap [' '])) others
    refine ⟨congrArg (token :: ·) sameTokens, List.forall_mem_cons.mpr ⟨rfl, ?_⟩, noErrors⟩
    intro located isToken
    -- neither a token nor a blank moves the line on
    rw [sameLine located isToken]
    rfl

theorem lex_spaced_of_isReadable (readable : ∀ token ∈ tokens, token.IsReadable) :
    (lex (Token.spaced tokens)).tokens.map (·.token) = tokens ∧
    (∀ located ∈ (lex (Token.spaced tokens)).tokens, located.line = 1) ∧
    (lex (Token.spaced tokens)).errors = [] := by
  have isPieces : pieces (Token.spaced tokens).toList = spacedPieces tokens :=
    pieces_eq_iff.mpr ⟨flatMap_text_spacedPieces tokens, allFirst_spacedPieces readable⟩
  have isScan : lex (Token.spaced tokens) = scanFrom .start (spacedPieces tokens) := by
    rw [← isPieces]
    rfl
  rw [isScan]
  exact scanFrom_spacedPieces .start readable

/-- Every token of a scan can be read. -/
theorem isReadable_of_mem_tokens {source : String} (isToken : token ∈ Lexical.tokens source) :
    token.IsReadable := by
  obtain ⟨located, isLocated, rfl⟩ := List.mem_map.mp isToken
  obtain ⟨_, _, _, -, lexeme, -⟩ := exists_parts_of_mem_tokens isLocated
  exact lexeme.isReadable

/-- Tokens that can be read are read back from what is written for them, all on the first line and
without an error.  The tokens of a source can be read, so they are read back too. -/
theorem lex_spaced :
    (∀ tokens : List Token, (∀ token ∈ tokens, token.IsReadable) →
      (lex (Token.spaced tokens)).tokens.map (·.token) = tokens ∧
      (∀ located ∈ (lex (Token.spaced tokens)).tokens, located.line = 1) ∧
      (lex (Token.spaced tokens)).errors = []) ∧
    ∀ source, (∀ token ∈ Lexical.tokens source, token.IsReadable) ∧
      Lexical.tokens (Token.spaced (Lexical.tokens source)) = Lexical.tokens source := by
  refine ⟨fun tokens => lex_spaced_of_isReadable, fun source => ?_⟩
  have readable : ∀ token ∈ Lexical.tokens source, token.IsReadable :=
    fun _ => isReadable_of_mem_tokens
  exact ⟨readable, (lex_spaced_of_isReadable readable).1⟩

/-- A string that looks like a comment, the two characters of an arrow apart, and the largest number
are read back. -/
theorem lex_spaced_apart :
    (∀ token ∈ [Token.str "# \r IF", .minus, .greater, .number 9223372036854775807],
      token.IsReadable) ∧
    (lex (Token.spaced [.str "# \r IF", .minus, .greater, .number 9223372036854775807])).tokens.map
      (·.token) = [.str "# \r IF", .minus, .greater, .number 9223372036854775807] := by
  have readable : ∀ token ∈ [Token.str "# \r IF", .minus, .greater, .number 9223372036854775807],
      token.IsReadable := by
    simp only [List.forall_mem_cons, List.not_mem_nil, false_implies, implies_true,
      Token.IsReadable]
    decide
  exact ⟨readable, (lex_spaced.1 _ readable).1⟩

end MiniBasic.Lexical
