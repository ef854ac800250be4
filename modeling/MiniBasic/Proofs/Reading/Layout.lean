import MiniBasic.Proofs.Lexical.Printing
import MiniBasic.Proofs.Parser.Program
import MiniBasic.Reading

/-!
# Layout does not matter

Two sources with the same tokens are read alike, whatever blanks, comments, ends of line and wrong
characters stand between these tokens, and however their numbers are written
(`agree_of_same_tokens`).  They have the same tree, or they fail for the same cause and with the
same advice at the same token.  Only the places of an error depend on the layout.

Two parsers are alike if they stand at the same token of lists with the same tokens.  What a rule
answers to alike parsers agrees up to the places, and leaves them alike (`Parser.Alike.run`).  It
reads the same tokens ahead; and an error, which does look at the places, takes nothing else from
them.

So every source has a standard layout: all its tokens on one line, each apart from the next
(`agree_spaced`).
-/

namespace MiniBasic

open Grammar (Rule Failure Expectation Hint)

variable {α : Type}

/-- Two results that differ at most in where an error stands. -/
inductive AgreeUpToPlaces : Except SyntaxError α → Except SyntaxError α → Prop where
  | ok (a : α) : AgreeUpToPlaces (.ok a) (.ok a)
  | error {first second : SyntaxError} (cause : first.cause = second.cause)
      (suggestion : first.suggestion = second.suggestion) :
      AgreeUpToPlaces (.error first) (.error second)

namespace Parser

variable {first second : Parser}

/-- Two parsers at the same token, in lists that differ at most in where the tokens stand. -/
structure Alike (first second : Parser) : Prop where
  tokens : first.tokens.map (·.token) = second.tokens.map (·.token)
  pos : first.pos = second.pos
  depth : first.depth = second.depth

/-! ## Errors -/

theorem suggestion_unexpected (parser : Parser) (expected : String) (suggestion : Option String) :
    (parser.unexpected expected suggestion).suggestion = suggestion := by
  unfold unexpected
  split
  next => rfl
  next => split <;> rfl

theorem suggestion_tooDeep (parser : Parser) :
    parser.tooDeep.suggestion = some Hint.splitStatement.text := by
  unfold tooDeep
  split <;> rfl

theorem Alike.atCursor (alike : Alike first second) :
    first.tokens[first.pos]?.map (·.token) = second.tokens[second.pos]?.map (·.token) := by
  rw [← List.getElem?_map, ← List.getElem?_map, alike.tokens, alike.pos]

/-- What is unexpected is the same token, or the end for both. -/
theorem Alike.cause_unexpected (alike : Alike first second) (expected : Expectation)
    (hint : Option Hint) : (first.error (.unexpected expected hint)).cause =
      (second.error (.unexpected expected hint)).cause := by
  have sameToken := alike.atCursor
  cases atCursor : first.tokens[first.pos]? with
  | none =>
    rw [atCursor] at sameToken
    have atEnd := Option.map_eq_none_iff.mp sameToken.symm
    rw [cause_unexpected_end atCursor, cause_unexpected_end atEnd]
  | some found =>
    rw [atCursor] at sameToken
    obtain ⟨found', atCursor', sameToken⟩ := Option.map_eq_some_iff.mp sameToken.symm
    rw [cause_unexpected_token atCursor, cause_unexpected_token atCursor', sameToken]

/-- A failure at alike cursors has the same cause and the same advice. -/
theorem Alike.error (alike : Alike first second) (failure : Failure) :
    (first.error failure).cause = (second.error failure).cause ∧
      (first.error failure).suggestion = (second.error failure).suggestion := by
  cases failure with
  | unexpected expected hint =>
    refine ⟨alike.cause_unexpected expected hint, ?_⟩
    exact (first.suggestion_unexpected _ _).trans (second.suggestion_unexpected _ _).symm
  | tooDeep =>
    refine ⟨(cause_tooDeep first).trans (cause_tooDeep second).symm, ?_⟩
    exact first.suggestion_tooDeep.trans second.suggestion_tooDeep.symm

/-! ## Rules -/

theorem Alike.ahead (alike : Alike first second) : first.ahead = second.ahead := by
  rw [Parser.ahead, Parser.ahead, List.map_drop, List.map_drop, alike.tokens, alike.pos]

/-- A rule answers alike parsers with the same value or the same failure, and moves both cursors to
the same token. -/
theorem Alike.run (alike : Alike first second) (rule : Rule α) :
    AgreeUpToPlaces (first.run rule).1 (second.run rule).1 ∧
      Alike (first.run rule).2 (second.run rule).2 := by
  have after : Alike (first.run rule).2 (second.run rule).2 :=
    ⟨alike.tokens, by rw [Parser.run, Parser.run, alike.ahead, alike.pos], alike.depth⟩
  refine ⟨?_, after⟩
  have isFirst : (first.run rule).1 = (rule first.ahead).1.mapError (first.run rule).2.error := rfl
  have isSecond : (second.run rule).1 = (rule first.ahead).1.mapError (second.run rule).2.error :=
    by rw [alike.ahead]; rfl
  rw [isFirst, isSecond]
  cases (rule first.ahead).1 with
  | ok a => exact .ok a
  | error failure => exact .error (after.error failure).1 (after.error failure).2

theorem Alike.room (alike : Alike first second) : first.room = second.room := by
  rw [Parser.room, Parser.room, alike.depth]

theorem Alike.parse (alike : Alike first second) :
    AgreeUpToPlaces first.parse.1 second.parse.1 ∧ Alike first.parse.2 second.parse.2 := by
  rw [Parser.parse, Parser.parse, alike.room]
  exact alike.run _

end Parser

/-! ## Sources -/

variable {source other : String}

theorem alike_of_same_tokens (same : Lexical.tokens source = Lexical.tokens other) :
    Parser.Alike (.ofTokens (Lexical.lex source).tokens) (.ofTokens (Lexical.lex other).tokens) :=
  ⟨same, rfl, rfl⟩

/-- A source reads like the one line on which its tokens are written apart. -/
theorem agree_spaced (source : String) :
    AgreeUpToPlaces (Reading.ofSource source).result
      (Reading.ofSource (Token.spaced (Lexical.tokens source))).result := by
  have readable : ∀ token ∈ Lexical.tokens source, token.IsReadable :=
    fun _ isToken => Lexical.isReadable_of_mem_tokens isToken
  have readBack := (Lexical.lex_spaced_of_isReadable readable).1
  exact (alike_of_same_tokens readBack.symm).parse.1

/-- Sources with the same tokens have the same tree, or fail for the same cause and with the same
advice; and the cursor stops at the same token. -/
theorem agree_of_same_tokens (same : Lexical.tokens source = Lexical.tokens other) :
    AgreeUpToPlaces (Reading.ofSource source).result (Reading.ofSource other).result ∧
    (Parser.ofTokens (Lexical.lex source).tokens).parse.2.pos =
      (Parser.ofTokens (Lexical.lex other).tokens).parse.2.pos :=
  ⟨(alike_of_same_tokens same).parse.1, (alike_of_same_tokens same).parse.2.pos⟩

/-- A comment, other lines, wrong characters and zeros in front of a number make no difference,
neither to a tree nor to the error that a text stands where an expression is wanted. -/
theorem agree_of_same_tokens_lines :
    (Lexical.tokens "x=7" = Lexical.tokens "x # é\n\t= é 007\r\n" ∧
      AgreeUpToPlaces (Reading.ofSource "x=7").result
        (Reading.ofSource "x # é\n\t= é 007\r\n").result) ∧
    Lexical.tokens "1+\"a\"" = Lexical.tokens "\n01 @ +\n\"a\"" ∧
      AgreeUpToPlaces (Reading.ofSource "1+\"a\"").result
        (Reading.ofSource "\n01 @ +\n\"a\"").result ∧
      (Parser.ofTokens (Lexical.lex "1+\"a\"").tokens).parse.2.pos =
        (Parser.ofTokens (Lexical.lex "\n01 @ +\n\"a\"").tokens).parse.2.pos := by
  have sameTree : Lexical.tokens "x=7" = Lexical.tokens "x # é\n\t= é 007\r\n" := by decide +kernel
  have sameError : Lexical.tokens "1+\"a\"" = Lexical.tokens "\n01 @ +\n\"a\"" := by
    decide +kernel
  exact ⟨⟨sameTree, (agree_of_same_tokens sameTree).1⟩,
    sameError, agree_of_same_tokens sameError⟩

end MiniBasic
