import MiniBasic.Proofs.Parser.Anchors

/-!
# What an error says was expected

The expected text of an error can be believed (`parse_expects`).  Where it is the end of the input,
the tokens in front of the cursor are a whole statement.  Otherwise it names tokens, and each of
them would have done: some statement begins with the tokens in front of the cursor and that one.

A text names tokens by their lexeme or by their sort (`NamedBy`), and it names just those that the
expectation behind it does (`namedBy_text_iff`).  So the result for texts is the one for the
failures of the grammar (`Grammar.goesOn_of_unexpected`).
-/

namespace MiniBasic

open Grammar (Expectation Failure Viable)

/-! ## The tokens that a text names -/

/-- Does a text of what was expected name a token? -/
def NamedBy (expected : String) (token : Token) : Prop :=
  token.lexeme = expected ∨
  (expected = "a name" ∧ ∃ ident, token = .name ident) ∨
  (expected = "an expression" ∧
    (token = .minus ∨ (∃ value, token = .number value) ∨ ∃ ident, token = .name ident)) ∨
  (expected = "'==', '>' or '<'" ∧ (token = .eqEq ∨ token = .greater ∨ token = .less))

/-- No lexeme is one of the texts that are no lexemes. -/
theorem lexeme_ne (token : Token) : token.lexeme ≠ "a name" ∧ token.lexeme ≠ "an expression" ∧
    token.lexeme ≠ "'==', '>' or '<'" ∧ token.lexeme ≠ "end of input" := by
  cases token <;> simp [Token.lexeme]

/-- A text names the tokens that the expectation behind it names. -/
theorem namedBy_text_iff {expected : Expectation} {token : Token} :
    NamedBy expected.text token ↔ expected.Names token := by
  obtain ⟨notName, notExpression, notComparison, notEnd⟩ := lexeme_ne token
  cases expected with
  | token wanted =>
    obtain ⟨isNoName, isNoExpression, isNoComparison, -⟩ := lexeme_ne wanted
    simp [NamedBy, Expectation.text, Expectation.Names, isNoName, isNoExpression, isNoComparison]
  | name => simp [NamedBy, Expectation.text, Expectation.Names, notName]
  | expression => simp [NamedBy, Expectation.text, Expectation.Names, notExpression]
  | comparison => simp [NamedBy, Expectation.text, Expectation.Names, notComparison]
  | endOfInput => simp [NamedBy, Expectation.text, Expectation.Names, notEnd]

theorem text_eq_endOfInput_iff {expected : Expectation} :
    expected.text = "end of input" ↔ expected = .endOfInput := by
  cases expected with
  | token wanted => simp [Expectation.text, (lexeme_ne wanted).2.2.2]
  | _ => simp [Expectation.text]

/-! ## The text of an error -/

/-- What would have been read instead, unless the nesting was too deep. -/
def SyntaxError.Cause.expected? : SyntaxError.Cause → Option String
  | unexpectedToken _ expected | unexpectedEnd expected => some expected
  | nestingTooDeep _ => none

namespace Parser

/-- An error has an expected text exactly where the grammar had an expectation, and it is its. -/
theorem expected?_error (parser : Parser) (failure : Failure) :
    (parser.error failure).cause.expected? =
      match failure with
      | .unexpected expected _ => some expected.text
      | .tooDeep => none := by
  cases failure with
  | tooDeep => rw [cause_tooDeep]; rfl
  | unexpected expected hint =>
    cases atCursor : parser.tokens[parser.pos]? with
    | none => rw [cause_unexpected_end atCursor]; rfl
    | some found => rw [cause_unexpected_token atCursor]; rfl

/-- In front of the cursor stands what was read. -/
theorem take_behind {tokens : List Token.Located} {word left : List Token}
    (isAhead : (ofTokens tokens).ahead = word ++ left) :
    (tokens.take ((ofTokens tokens).behind left).pos).map (·.token) = word := by
  have isPos : ((ofTokens tokens).behind left).pos = word.length :=
    (pos_behind isAhead).trans (Nat.zero_add _)
  rw [isPos, List.map_take, ← ahead_ofTokens, isAhead, List.take_left]

/-- Where the end of the input was expected, the tokens in front of the cursor are a whole shaped
statement.  Where anything else was expected, its text names some token, and a shaped statement
begins with the tokens in front of the cursor and any token that is named. -/
theorem parse_expects {tokens : List Token.Located} {error : SyntaxError} {after : Parser}
    {expected : String} (failed : (ofTokens tokens).parse = (.error error, after))
    (wants : error.cause.expected? = some expected) :
    (expected = "end of input" →
      ∃ whole : Statement, whole.Shaped ∧ (tokens.take after.pos).map (·.token) = whole.tokens) ∧
    (expected ≠ "end of input" →
      (∃ token, NamedBy expected token) ∧
      ∀ token, NamedBy expected token →
        Viable ((tokens.take after.pos).map (·.token) ++ [token])) := by
  obtain ⟨failure, left, read, rfl, isAfter⟩ := run_eq_error_iff.mp failed
  rw [expected?_error] at wants
  cases failure with
  | tooDeep => cases wants
  | unexpected wanted hint =>
    cases wants
    obtain ⟨word, isAhead, isWhole, goesOn⟩ := Grammar.goesOn_of_unexpected read
    have isRead : (tokens.take after.pos).map (·.token) = word := isAfter ▸ take_behind isAhead
    rw [isRead]
    constructor
    · intro isEnd
      exact isWhole (text_eq_endOfInput_iff.mp isEnd)
    · intro more
      obtain ⟨token, named⟩ :=
        Expectation.exists_names fun isEnd => more (text_eq_endOfInput_iff.mpr isEnd)
      exact ⟨⟨token, namedBy_text_iff.mpr named⟩,
        fun token named => goesOn token (namedBy_text_iff.mp named)⟩

/-- In `f() ELSE` the end is expected behind the brackets, where a statement is whole.  In `IF THEN`
an expression is expected, and `IF -` begins a statement. -/
theorem parse_expects_condition :
    (∃ whole : Statement, whole.Shaped ∧ [.name "f", .lparen, .rparen] = whole.tokens) ∧
      NamedBy "an expression" .minus ∧ Viable [.kwIf, .minus] := by
  have second : (ofTokens (unplaced [.name "f", .lparen, .rparen, .kwElse])).parse =
      (.error ⟨.unexpectedToken "ELSE" "end of input", ⟨0, 0⟩, 1,
        some "ELSE only follows the THEN branch of an IF"⟩,
        ⟨unplaced [.name "f", .lparen, .rparen, .kwElse], 3, 0⟩) := rfl
  have missing : (ofTokens (unplaced [.kwIf, .kwThen])).parse =
      (.error ⟨.unexpectedToken "THEN" "an expression", ⟨0, 0⟩, 1, none⟩,
        ⟨unplaced [.kwIf, .kwThen], 1, 0⟩) := rfl
  have named : NamedBy "an expression" .minus := .inr (.inr (.inl ⟨rfl, .inl rfl⟩))
  have goesOn := ((parse_expects missing rfl).2 (by decide)).2
  exact ⟨(parse_expects second rfl).1 rfl, named, goesOn _ named⟩

end Parser

end MiniBasic
