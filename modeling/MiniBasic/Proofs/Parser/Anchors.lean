import MiniBasic.Proofs.Grammar.Lookahead
import MiniBasic.Proofs.Parser.Program

/-!
# Where the errors of a parser stand

Every error is about the token under the cursor that the parser leaves behind, or about the end
behind the last token (`anchored_of_answer`).  This holds of each call that a parser answers and
from every cursor, also from one past the end or with all levels open.

An error that is made at a cursor is about what is there (`anchored_error`).  And a call that fails
leaves the cursor at the tokens where its rule has failed (`anchored_of_run`).  For this, a rule
must leave some end of the tokens that it is given, which each rule of the grammar does
(`Call.leaves`).
-/

namespace MiniBasic

open Grammar (Rule Failure)

variable {α β : Type}

/-! ## What a rule leaves -/

/-- A rule leaves an end of what is ahead. -/
def Grammar.Rule.Leaves (rule : Rule α) : Prop := ∀ ahead, (rule ahead).2 <:+ ahead

theorem Grammar.Rule.Leaves.of_settles {rule : Rule α}
    (settles : ∀ ahead, rule.Settles rule ahead) : rule.Leaves := by
  intro ahead
  obtain ⟨word, isAhead, -⟩ := settles ahead
  exact ⟨word, isAhead.symm⟩

namespace Parser

section Run

variable {parser : Parser} {rule : Rule α} {left : List Token}

/-- The parser in front of what is left of the tokens ahead. -/
def behind (parser : Parser) (left : List Token) : Parser :=
  { parser with pos := parser.pos + (parser.ahead.length - left.length) }

theorem pos_behind {word : List Token} (isAhead : parser.ahead = word ++ left) :
    (parser.behind left).pos = parser.pos + word.length := by
  show parser.pos + (parser.ahead.length - left.length) = _
  rw [isAhead, List.length_append, Nat.add_sub_cancel]

theorem ahead_behind (isEnd : left <:+ parser.ahead) : (parser.behind left).ahead = left := by
  show (parser.tokens.drop (parser.pos + _)).map (·.token) = left
  rw [← List.drop_drop, List.map_drop]
  exact (List.suffix_iff_eq_drop.mp isEnd).symm

theorem behind_behind {last : List Token} (isEnd : left <:+ parser.ahead) (isLast : last <:+ left) :
    (parser.behind left).behind last = parser.behind last := by
  have read := isEnd.length_le
  have readOn := isLast.length_le
  have isPos : parser.pos + (parser.ahead.length - left.length) + (left.length - last.length) =
      parser.pos + (parser.ahead.length - last.length) := by
    omega
  rw [behind, ahead_behind isEnd, behind, behind]
  simp only [isPos]

theorem run_of_eq {result : Except Failure α} (read : rule parser.ahead = (result, left)) :
    parser.run rule = (result.mapError (parser.behind left).error, parser.behind left) := by
  rw [run, read]
  rfl

end Run

/-! ## Errors and the cursor -/

/-- An error is about what is under the cursor of a parser. -/
structure Anchored (parser : Parser) (error : SyntaxError) : Prop where
  /-- What is unexpected is the token under the cursor. -/
  token : ∀ found expected, error.cause = .unexpectedToken found expected →
    ∃ located, parser.tokens[parser.pos]? = some located ∧ found = located.token.text ∧
      error.span = located.span ∧ error.line = located.line
  /-- The end is unexpected only when the cursor is past the last token. -/
  ending : ∀ expected, error.cause = .unexpectedEnd expected →
    parser.tokens.length ≤ parser.pos ∧
    (∀ last, parser.tokens.getLast? = some last →
      error.span = ⟨last.span.stop, last.span.stop⟩ ∧ error.line = last.line) ∧
    (parser.tokens = [] → error.span = ⟨0, 0⟩ ∧ error.line = 1)
  /-- The nesting is too deep at the token under the cursor, or at the last one. -/
  nesting : ∀ limit, error.cause = .nestingTooDeep limit →
    (∀ located, parser.tokens[parser.pos]? = some located →
      error.span = located.span ∧ error.line = located.line) ∧
    (∀ last, parser.tokens.length ≤ parser.pos → parser.tokens.getLast? = some last →
      error.span = last.span ∧ error.line = last.line) ∧
    (parser.tokens = [] → error.span = ⟨0, 0⟩ ∧ error.line = 1)

theorem anchored_unexpected (parser : Parser) (expected : String) (suggestion : Option String) :
    parser.Anchored (parser.unexpected expected suggestion) := by
  unfold unexpected
  cases atCursor : parser.tokens[parser.pos]? with
  | some located =>
    refine ⟨?_, by rintro _ ⟨⟩, by rintro _ ⟨⟩⟩
    rintro _ _ ⟨⟩
    exact ⟨located, atCursor, rfl, rfl, rfl⟩
  | none =>
    have past := List.getElem?_eq_none_iff.mp atCursor
    cases isLast : parser.tokens.getLast? with
    | some last =>
      refine ⟨by rintro _ _ ⟨⟩, fun _ _ => ⟨past, ?_, fun isNil => ?_⟩, by rintro _ ⟨⟩⟩
      · intro other isOther
        cases isLast.symm.trans isOther
        exact ⟨rfl, rfl⟩
      · rw [isNil] at isLast
        cases isLast
    | none =>
      refine ⟨by rintro _ _ ⟨⟩, fun _ _ => ⟨past, ?_, fun _ => ⟨rfl, rfl⟩⟩, by rintro _ ⟨⟩⟩
      intro other isOther
      cases isLast.symm.trans isOther

theorem anchored_tooDeep (parser : Parser) : parser.Anchored parser.tooDeep := by
  unfold tooDeep
  cases atCursor : parser.tokens[parser.pos]? with
  | some located =>
    have before := (List.getElem?_eq_some_iff.mp atCursor).1
    refine ⟨by rintro _ _ ⟨⟩, by rintro _ ⟨⟩, fun _ _ => ⟨?_, ?_, fun isNil => ?_⟩⟩
    · intro other isOther
      cases atCursor.symm.trans isOther
      exact ⟨rfl, rfl⟩
    · exact fun _ past => absurd before (Nat.not_lt.mpr past)
    · rw [isNil] at before
      cases before
  | none =>
    rw [Option.none_or]
    cases isLast : parser.tokens.getLast? with
    | some last =>
      refine ⟨by rintro _ _ ⟨⟩, by rintro _ ⟨⟩, fun _ _ => ⟨?_, ?_, fun isNil => ?_⟩⟩
      · intro other isOther
        cases atCursor.symm.trans isOther
      · intro other _ isOther
        cases isLast.symm.trans isOther
        exact ⟨rfl, rfl⟩
      · rw [isNil] at isLast
        cases isLast
    | none =>
      refine ⟨by rintro _ _ ⟨⟩, by rintro _ ⟨⟩, fun _ _ => ⟨?_, ?_, fun _ => ⟨rfl, rfl⟩⟩⟩
      · intro other isOther
        cases atCursor.symm.trans isOther
      · intro other _ isOther
        cases isLast.symm.trans isOther

/-- An error that is made at a cursor is about what is there. -/
theorem anchored_error (parser : Parser) (failure : Failure) :
    parser.Anchored (parser.error failure) := by
  cases failure with
  | unexpected expected hint => exact anchored_unexpected parser _ _
  | tooDeep => exact anchored_tooDeep parser

/-- A run that fails ends where its rule has failed, and its error is about what is there. -/
theorem anchored_of_run {parser after : Parser} {rule : Rule α} {error : SyntaxError}
    (isEnd : (rule parser.ahead).2 <:+ parser.ahead)
    (failed : parser.run rule = (.error error, after)) :
    after.Anchored error ∧ after.tokens = parser.tokens ∧
      ∃ failure, error = after.error failure ∧
        rule parser.ahead = (.error failure, after.ahead) := by
  obtain ⟨failure, left, read, rfl, isAfter⟩ := run_eq_error_iff.mp failed
  refine ⟨anchored_error after failure, by rw [isAfter], failure, rfl, ?_⟩
  rw [read] at isEnd
  have isLeft : after.ahead = left := isAfter ▸ ahead_behind isEnd
  rw [isLeft, read]

/-! ## The calls of a parser -/

/-- The calls that a parser answers. -/
inductive Call : Type → Type where
  | parse : Call Statement
  | statement : Call Statement
  | expression : Call Expr
  | term : Call Expr
  | condition : Call Condition
  | assignment : Call Assignment
  | expect (token : Token) : Call Unit
  | expectName : Call String

/-- The answer to a call. -/
def answer (parser : Parser) : Call α → Answer α
  | .parse => parser.parse
  | .statement => parser.statement
  | .expression => parser.expression
  | .term => parser.term
  | .condition => parser.condition
  | .assignment => parser.assignment
  | .expect token => parser.expect token
  | .expectName => parser.expectName

/-- The rule that is followed for a call. -/
def Call.rule (room : Nat) : Call α → Rule α
  | .parse => Grammar.program room
  | .statement => Grammar.statement room
  | .expression => Grammar.expression room
  | .term => Grammar.term
  | .condition => Grammar.condition room
  | .assignment => Grammar.assignment room
  | .expect token => Rule.expect token
  | .expectName => Rule.expectName

theorem answer_eq_run (parser : Parser) (call : Call α) :
    parser.answer call = parser.run (call.rule parser.room) := by
  cases call <;> rfl

/-- One token beyond what a call reads settles its rule, also for calls with more room. -/
theorem Call.settles {room more : Nat} (le : room ≤ more) (call : Call α) (ahead : List Token) :
    (call.rule room).Settles (call.rule more) ahead := by
  cases call with
  | parse => exact Grammar.settles_program le ahead
  | statement => exact Grammar.settles_statement le ahead
  | expression => exact Grammar.settles_expression le ahead
  | term => exact Grammar.settles_term ahead
  | condition => exact Grammar.settles_condition le ahead
  | assignment => exact Grammar.settles_assignment le ahead
  | expect token => exact Grammar.settles_expect token ahead
  | expectName => exact Grammar.settles_expectName ahead

theorem Call.leaves (room : Nat) (call : Call α) : (call.rule room).Leaves :=
  .of_settles (call.settles (Nat.le_refl room))

/-- The error of a call is about what is under the cursor that the call leaves behind.  This cursor
stands at the tokens where the rule of the call has failed, among the same tokens as before. -/
theorem anchored_of_answer {parser after : Parser} {call : Call α} {error : SyntaxError}
    (failed : parser.answer call = (.error error, after)) :
    after.Anchored error ∧ after.tokens = parser.tokens ∧
      ∃ failure, error = after.error failure ∧
        call.rule parser.room parser.ahead = (.error failure, after.ahead) := by
  rw [answer_eq_run] at failed
  exact anchored_of_run (call.leaves parser.room parser.ahead) failed

/-- The tokens of `f (` and, on the next line, `x`. -/
def openCall : List Token.Located :=
  [⟨.name "f", ⟨0, 1⟩, 1⟩, ⟨.lparen, ⟨2, 3⟩, 1⟩, ⟨.name "x", ⟨4, 5⟩, 2⟩]

/-- The bracket is missed where `x` stands.  Past the end, a term is missed at the end of `x`, and
with more levels open than may be, the nesting is too deep at `x`. -/
theorem anchored_of_answer_openCall :
    (ofTokens openCall).answer .parse =
        (.error ⟨.unexpectedToken "x" ")", ⟨4, 5⟩, 2, none⟩, ⟨openCall, 2, 0⟩) ∧
      (⟨openCall, 2, 0⟩ : Parser).Anchored ⟨.unexpectedToken "x" ")", ⟨4, 5⟩, 2, none⟩ ∧
    (⟨openCall, 9, 0⟩ : Parser).Anchored ⟨.unexpectedEnd "an expression", ⟨5, 5⟩, 2, none⟩ ∧
    (⟨openCall, 9, 300⟩ : Parser).Anchored
      ⟨.nestingTooDeep 256, ⟨4, 5⟩, 2, some "Split the statement into smaller ones"⟩ := by
  have atToken : (ofTokens openCall).answer .parse =
      (.error ⟨.unexpectedToken "x" ")", ⟨4, 5⟩, 2, none⟩, ⟨openCall, 2, 0⟩) := rfl
  have pastEnd : (⟨openCall, 9, 0⟩ : Parser).answer .term =
      (.error ⟨.unexpectedEnd "an expression", ⟨5, 5⟩, 2, none⟩, ⟨openCall, 9, 0⟩) := rfl
  have tooDeep : (⟨openCall, 9, 300⟩ : Parser).answer .expression =
      (.error ⟨.nestingTooDeep 256, ⟨4, 5⟩, 2, some "Split the statement into smaller ones"⟩,
        ⟨openCall, 9, 300⟩) := rfl
  exact ⟨atToken, (anchored_of_answer atToken).1, (anchored_of_answer pastEnd).1,
    (anchored_of_answer tooDeep).1⟩

end Parser

end MiniBasic
