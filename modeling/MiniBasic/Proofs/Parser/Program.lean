import MiniBasic.Parser
import MiniBasic.Proofs.Grammar.Program
import MiniBasic.Proofs.Tree.Height
import MiniBasic.Proofs.Tree.Operands

/-!
# Parsing a list of tokens

What a parser answers to a list of tokens that it reads from the start, by what the grammar says of
programs.

*Acceptance.*  A statement comes back only for its own tokens, each of them once and in order, and
its operators nest as they should (`tokens_of_parse`).

*Reach.*  Every shaped statement comes back from its tokens as long as its need is at most the
limit, and beyond the limit the nesting is too deep (`parse_tokens`).

*Height.*  The need of a statement and not its height decides, so a statement may come back that is
higher than the limit.  It is at most three times as high (`height_of_parse`), and that high it can
be (`parse_tower`).

*Failures.*  A token is reported exactly where the input stops being the beginning of a shaped
statement, and the end of the input where it is one but not a whole one (`parse_stops`).
-/

namespace MiniBasic.Parser

open Grammar (Rule Failure Viable)

variable {α : Type}

/-! ## Answers of rules -/

theorem ahead_ofTokens (tokens : List Token.Located) :
    (ofTokens tokens).ahead = tokens.map (·.token) := rfl

theorem fst_run_eq_ok_iff {parser : Parser} {rule : Rule α} {a : α} :
    (parser.run rule).1 = .ok a ↔ (rule parser.ahead).1 = .ok a := by
  show (rule parser.ahead).1.mapError _ = .ok a ↔ _
  cases (rule parser.ahead).1 with
  | ok b =>
    constructor <;>
      · intro read
        cases read
        rfl
  | error failure =>
    constructor <;>
      · intro read
        cases read

theorem run_eq_error_iff {parser after : Parser} {rule : Rule α} {error : SyntaxError} :
    parser.run rule = (.error error, after) ↔
      ∃ failure rest, rule parser.ahead = (.error failure, rest) ∧ error = after.error failure ∧
        after = { parser with pos := parser.pos + (parser.ahead.length - rest.length) } := by
  unfold run
  cases rule parser.ahead with
  | mk result rest =>
    cases result with
    | ok a =>
      constructor
      · intro failed
        cases failed
      · rintro ⟨failure, left, failed, -⟩
        cases failed
    | error failure =>
      constructor
      · intro failed
        cases failed
        exact ⟨failure, rest, rfl, rfl, rfl⟩
      · rintro ⟨failure, left, failed, rfl, rfl⟩
        cases failed
        rfl

/-- A nesting that is too deep is reported as such. -/
theorem cause_tooDeep (parser : Parser) :
    (parser.error .tooDeep).cause = .nestingTooDeep nestingLimit := by
  show parser.tooDeep.cause = _
  unfold tooDeep
  cases parser.tokens[parser.pos]?.or parser.tokens.getLast? <;> rfl

/-- What is unexpected is the token under the cursor. -/
theorem cause_unexpected_token {parser : Parser} {found : Token.Located}
    (atCursor : parser.tokens[parser.pos]? = some found) (expected : Grammar.Expectation)
    (hint : Option Grammar.Hint) : (parser.error (.unexpected expected hint)).cause =
      .unexpectedToken found.token.text expected.text := by
  show (parser.unexpected _ _).cause = _
  rw [unexpected, atCursor]

/-- Behind the last token, the end is unexpected. -/
theorem cause_unexpected_end {parser : Parser} (atEnd : parser.tokens[parser.pos]? = none)
    (expected : Grammar.Expectation) (hint : Option Grammar.Hint) :
    (parser.error (.unexpected expected hint)).cause = .unexpectedEnd expected.text := by
  show (parser.unexpected _ _).cause = _
  rw [unexpected, atEnd]
  cases parser.tokens.getLast? <;> rfl

/-! ## Acceptance -/

theorem parse_eq_ok_iff {tokens : List Token.Located} {whole : Statement} :
    (ofTokens tokens).parse.1 = .ok whole ↔
      whole.Shaped ∧ tokens.map (·.token) = whole.tokens ∧ whole.need ≤ nestingLimit :=
  fst_run_eq_ok_iff.trans Grammar.program_ok_iff

/-- Tokens without a source, all at one place. -/
def unplaced (tokens : List Token) : List Token.Located := tokens.map (⟨·, ⟨0, 0⟩, 1⟩)

theorem map_token_unplaced (tokens : List Token) : (unplaced tokens).map (·.token) = tokens := by
  rw [unplaced, List.map_map]
  exact List.map_id tokens

/-- A statement that comes back has the tokens that were read, all of them and in this order, and
every operator in it has operands that fit. -/
theorem tokens_of_parse {tokens : List Token.Located} {whole : Statement}
    (read : (ofTokens tokens).parse.1 = .ok whole) :
    tokens.map (·.token) = whole.tokens ∧ ∀ node ∈ whole.nodes, node.OperandsFit := by
  obtain ⟨shaped, same, -⟩ := parse_eq_ok_iff.mp read
  exact ⟨same, Statement.shaped_iff.mp shaped⟩

/-- The conditional `IF - x > 1 + 2 * y THEN ELSE f()`, with an empty branch and all three levels
of operators. -/
def conditional : Statement :=
  .ifElse ⟨.greater, .neg (.var "x"),
    .binary (.num 1) .add (.binary (.num 2) .mul (.var "y"))⟩ .empty (.funCall "f")

theorem shaped_conditional : conditional.Shaped :=
  ⟨⟨⟨trivial, rfl⟩, trivial, ⟨trivial, trivial, by decide, by decide⟩, by decide, by decide⟩,
    trivial, trivial⟩

theorem tokens_of_parse_conditional :
    (ofTokens (unplaced conditional.tokens)).parse.1 = .ok conditional ∧
      (unplaced conditional.tokens).map (·.token) = conditional.tokens ∧
      ∀ node ∈ conditional.nodes, node.OperandsFit := by
  have read : (ofTokens (unplaced conditional.tokens)).parse.1 = .ok conditional :=
    parse_eq_ok_iff.mpr ⟨shaped_conditional, map_token_unplaced _, by decide⟩
  exact ⟨read, tokens_of_parse read⟩

/-! ## Reach -/

/-- The tokens of a shaped statement are read as this statement if its need is at most the limit,
and otherwise the nesting is too deep. -/
theorem parse_tokens {tokens : List Token.Located} {whole : Statement} (shaped : whole.Shaped)
    (same : tokens.map (·.token) = whole.tokens) :
    (whole.need ≤ 256 → (ofTokens tokens).parse.1 = .ok whole) ∧
    (256 < whole.need → ∃ error, (ofTokens tokens).parse.1 = .error error ∧
      error.cause = .nestingTooDeep 256) := by
  constructor
  · intro enough
    exact parse_eq_ok_iff.mpr ⟨shaped, same, enough⟩
  · intro lacks
    obtain ⟨rest, deep⟩ := Grammar.program_tooDeep shaped lacks
    rw [← same] at deep
    have answer : (ofTokens tokens).parse = _ := run_eq_error_iff.mpr ⟨_, rest, deep, rfl, rfl⟩
    exact ⟨_, congrArg Prod.fst answer, cause_tooDeep _⟩

/-- A row of 254 minus signs is read, and one more sign is too much. -/
theorem parse_tokens_signs :
    (ofTokens (unplaced (Statement.signs 254).tokens)).parse.1 = .ok (.signs 254) ∧
      ∃ error, (ofTokens (unplaced (Statement.signs 255).tokens)).parse.1 = .error error ∧
        error.cause = .nestingTooDeep 256 := by
  constructor
  · refine (parse_tokens Statement.shaped_signs (map_token_unplaced _)).1 ?_
    exact Nat.le_of_eq Statement.need_signs
  · refine (parse_tokens Statement.shaped_signs (map_token_unplaced _)).2 ?_
    rw [Statement.need_signs]
    exact Nat.lt_succ_self _

/-! ## Height -/

/-- No statement that comes back is higher than the limit, unless the tokens are those of one that
is higher than it needs room.  And none is higher than 762. -/
theorem height_of_parse (tokens : List Token.Located) :
    ((∀ whole, (ofTokens tokens).parse.1 = .ok whole → whole.height ≤ 256) ↔
      ¬ ∃ whole : Statement, whole.Shaped ∧ tokens.map (·.token) = whole.tokens ∧
        whole.need ≤ 256 ∧ 256 < whole.height) ∧
    ∀ whole, (ofTokens tokens).parse.1 = .ok whole → whole.height ≤ 762 := by
  refine ⟨⟨?_, ?_⟩, ?_⟩
  · rintro within ⟨whole, shaped, same, enough, higher⟩
    exact Nat.not_le.mpr higher (within whole (parse_eq_ok_iff.mpr ⟨shaped, same, enough⟩))
  · intro none whole read
    obtain ⟨shaped, same, enough⟩ := parse_eq_ok_iff.mp read
    exact Nat.not_lt.mp fun higher => none ⟨whole, shaped, same, enough, higher⟩
  · intro whole read
    obtain ⟨shaped, -, enough⟩ := parse_eq_ok_iff.mp read
    exact Nat.le_trans (Statement.height_le_heightBound shaped) (heightBound_mono enough)

/-- A tower that takes all the room is read, although it is nearly three times as high. -/
theorem parse_tower :
    (ofTokens (unplaced (Statement.tower 253).tokens)).parse.1 = .ok (.tower 253) ∧
      (Statement.tower 253).height = 762 ∧
      ¬ ∀ whole, (ofTokens (unplaced (Statement.tower 253).tokens)).parse.1 = .ok whole →
        whole.height ≤ 256 := by
  have isNeed : (Statement.tower 253).need = 256 := Statement.need_tower (by decide)
  have isHeight : (Statement.tower 253).height = 762 := by
    rw [Statement.height_tower (by decide), isNeed]
    rfl
  have read : (ofTokens (unplaced (Statement.tower 253).tokens)).parse.1 = .ok (.tower 253) :=
    parse_eq_ok_iff.mpr ⟨Statement.shaped_tower, map_token_unplaced _, Nat.le_of_eq isNeed⟩
  refine ⟨read, isHeight, fun within => ?_⟩
  have atMost := within _ read
  rw [isHeight] at atMost
  exact absurd atMost (by decide)

/-! ## Failures -/

/-- Where the cursor stops, what is reported is the token under it or the end, and nothing else. -/
theorem parse_stops {tokens : List Token.Located} {error : SyntaxError} {after : Parser}
    (failed : (ofTokens tokens).parse = (.error error, after)) :
    (∀ found expected, error.cause = .unexpectedToken found expected →
      Viable ((tokens.take after.pos).map (·.token)) ∧
      ¬ Viable ((tokens.take (after.pos + 1)).map (·.token))) ∧
    (∀ expected, error.cause = .unexpectedEnd expected →
      Viable (tokens.map (·.token)) ∧
      ∀ whole : Statement, whole.Shaped → tokens.map (·.token) ≠ whole.tokens) := by
  obtain ⟨failure, rest, read, rfl, isAfter⟩ := run_eq_error_iff.mp failed
  cases failure with
  | tooDeep =>
    rw [cause_tooDeep]
    constructor <;>
      · intros
        contradiction
  | unexpected wanted hint =>
    obtain ⟨word, isAhead, viable⟩ := Grammar.viable_of_unexpected read
    rw [isAhead] at read
    have isTokens : after.tokens = tokens := by rw [isAfter]; rfl
    have isPos : after.pos = word.length := by
      rw [isAfter, isAhead, List.length_append]
      show 0 + (word.length + rest.length - rest.length) = word.length
      omega
    rw [ahead_ofTokens] at isAhead
    -- the cursor stands at the first token that the rule left
    have atCursor : after.tokens[after.pos]?.map (·.token) = rest.head? := by
      rw [isTokens, isPos, ← List.getElem?_map, isAhead,
        List.getElem?_append_right (Nat.le_refl _), Nat.sub_self, List.head?_eq_getElem?]
    cases rest with
    | nil =>
      rw [cause_unexpected_end (Option.map_eq_none_iff.mp atCursor)]
      refine ⟨by intros; contradiction, fun expected _ => ?_⟩
      rw [isAhead, List.append_nil]
      refine ⟨viable, fun whole shaped isWhole => ?_⟩
      exact Grammar.ne_tokens_of_unexpected read rfl shaped ((List.append_nil word).trans isWhole)
    | cons token rest =>
      obtain ⟨located, found, -⟩ := Option.map_eq_some_iff.mp atCursor
      rw [cause_unexpected_token found]
      refine ⟨fun _ _ _ => ?_, by intros; contradiction⟩
      rw [List.map_take, List.map_take, isAhead, isPos, List.take_left, List.take_add_one,
        List.take_left, List.getElem?_append_right (Nat.le_refl _), Nat.sub_self]
      exact ⟨viable, Grammar.not_viable_of_unexpected read⟩

/-- `FUN f (` begins a statement, but is none, and `FUN f ( x` does not begin one. -/
theorem parse_stops_parameter :
    (Viable [.kwFun, .name "f", .lparen] ∧ ¬ Viable [.kwFun, .name "f", .lparen, .name "x"]) ∧
      Viable [.kwFun, .name "f", .lparen] ∧
      ∀ whole : Statement, whole.Shaped → [.kwFun, .name "f", .lparen] ≠ whole.tokens := by
  have atToken : (ofTokens (unplaced [.kwFun, .name "f", .lparen, .name "x"])).parse =
      (.error (error ⟨unplaced [.kwFun, .name "f", .lparen, .name "x"], 3, 0⟩
        (.unexpected (.token .rparen) (some .noParameters))),
        ⟨unplaced [.kwFun, .name "f", .lparen, .name "x"], 3, 0⟩) := rfl
  have atEnd : (ofTokens (unplaced [.kwFun, .name "f", .lparen])).parse =
      (.error (error ⟨unplaced [.kwFun, .name "f", .lparen], 3, 0⟩
        (.unexpected (.token .rparen) none)),
        ⟨unplaced [.kwFun, .name "f", .lparen], 3, 0⟩) := rfl
  exact ⟨(parse_stops atToken).1 _ _ (cause_unexpected_token rfl _ _),
    (parse_stops atEnd).2 _ (cause_unexpected_end rfl _ _)⟩

end MiniBasic.Parser
