import MiniBasic.Proofs.Parser.Anchors

/-!
# What surrounds a parser

A parser answers from the tokens ahead and from the levels that are left, and its surroundings make
no difference (`answer_surroundings`).  Put other tokens in front of those that it has, and it gives
the same answer, that many tokens further on.  Take levels away that are open around it, and it
gives the same answer, unless it was the nesting that stopped it.

Neither is plain from how a parser goes about it, since errors and levels look at more than what is
ahead.  An error at the end of the input borrows its place from the last token, which is read long
before.  This token stays the last behind others, if there is any (`error_preceded`).  Levels are
counted from the outside, and more of them may be opened where fewer are open.  But a rule with more
room does the same until its room would have been too small (`run_atDepth`), by `Rule.Settles`.
-/

namespace MiniBasic.Parser

open Grammar (Rule Failure)

variable {α : Type}

/-! ## Tokens in front -/

/-- The same parser behind other tokens, all of which are read. -/
def preceded (parser : Parser) (front : List Token.Located) : Parser :=
  ⟨front ++ parser.tokens, front.length + parser.pos, parser.depth⟩

section Preceded

variable (parser : Parser) (front : List Token.Located)

theorem ahead_preceded : (parser.preceded front).ahead = parser.ahead := by
  show ((front ++ parser.tokens).drop (front.length + parser.pos)).map (·.token) = _
  rw [List.drop_length_add_append]
  rfl

theorem behind_preceded (left : List Token) :
    (parser.preceded front).behind left = (parser.behind left).preceded front := by
  rw [behind, ahead_preceded]
  exact congrArg (Parser.mk _ · _) (Nat.add_assoc _ _ _)

variable {parser}

/-- An error is about the same token, or about the end of the same last token. -/
theorem error_preceded (some_tokens : parser.tokens ≠ []) :
    (parser.preceded front).error = parser.error := by
  have atCursor : (parser.preceded front).tokens[(parser.preceded front).pos]? =
      parser.tokens[parser.pos]? := by
    show (front ++ parser.tokens)[front.length + parser.pos]? = _
    rw [List.getElem?_append_right (Nat.le_add_right _ _), Nat.add_sub_cancel_left]
  have isLast : (parser.preceded front).tokens.getLast? = parser.tokens.getLast? := by
    show (front ++ parser.tokens).getLast? = _
    rw [List.getLast?_append, List.getLast?_eq_some_getLast some_tokens, Option.some_or]
  funext failure
  cases failure with
  | unexpected expected hint =>
    show (parser.preceded front).unexpected _ _ = parser.unexpected _ _
    rw [unexpected, unexpected, atCursor, isLast]
  | tooDeep =>
    show (parser.preceded front).tooDeep = parser.tooDeep
    rw [tooDeep, tooDeep, atCursor, isLast]

/-- A rule reads the same behind other tokens. -/
theorem run_preceded (some_tokens : parser.tokens ≠ []) (rule : Rule α) :
    (parser.preceded front).run rule =
      ((parser.run rule).1, (parser.run rule).2.preceded front) := by
  cases read : rule parser.ahead with
  | mk result left =>
    have readBehind : rule (parser.preceded front).ahead = (result, left) := by
      rw [ahead_preceded, read]
    have sameTokens : (parser.behind left).tokens ≠ [] := some_tokens
    rw [run_of_eq read, run_of_eq readBehind, behind_preceded, error_preceded front sameTokens]

end Preceded

/-! ## Levels around -/

/-- The same parser with another number of levels open. -/
def atDepth (parser : Parser) (depth : Nat) : Parser := { parser with depth }

section AtDepth

variable {parser after : Parser} {depth : Nat}

/-- No error is about the levels that are open. -/
theorem error_atDepth (parser : Parser) (depth : Nat) :
    (parser.atDepth depth).error = parser.error := by
  funext failure
  cases failure <;> rfl

theorem room_le_atDepth (le : depth ≤ parser.depth) : parser.room ≤ (parser.atDepth depth).room :=
  Nat.sub_le_sub_left le nestingLimit

/-- A rule that is settled reads the same where it has more room. -/
theorem run_atDepth {rule larger : Rule α} {result : Except Failure α} {left : List Token}
    (settles : rule.Settles larger parser.ahead) (read : rule parser.ahead = (result, left))
    (notDeep : result ≠ .error .tooDeep) (depth : Nat) :
    (parser.atDepth depth).run larger =
      (result.mapError (parser.behind left).error, (parser.behind left).atDepth depth) := by
  obtain ⟨word, isAhead, settled⟩ := settles
  rw [read] at isAhead settled
  have readLarger : larger (parser.atDepth depth).ahead = (result, left) := by
    show larger parser.ahead = _
    rw [isAhead]
    exact settled notDeep left rfl
  rw [run_of_eq readLarger]
  show (result.mapError ((parser.behind left).atDepth depth).error, _) = _
  rw [error_atDepth]
  rfl

end AtDepth

/-! ## Answers -/

/-- A call has the same answer behind other tokens, with the cursor that many tokens further on.
Where it is not stopped by the nesting, it has the same answer with fewer levels open. -/
theorem answer_surroundings {parser after : Parser} {call : Call α}
    {result : Except SyntaxError α} (answered : parser.answer call = (result, after)) :
    (∀ front, parser.tokens ≠ [] →
      (parser.preceded front).answer call = (result, after.preceded front)) ∧
    ∀ depth ≤ parser.depth,
      (∀ error limit, result = .error error → error.cause ≠ .nestingTooDeep limit) →
      (parser.atDepth depth).answer call = (result, after.atDepth depth) := by
  rw [answer_eq_run] at answered
  constructor
  · intro front some_tokens
    have sameRoom : (parser.preceded front).room = parser.room := rfl
    rw [answer_eq_run, sameRoom, run_preceded front some_tokens, answered]
  · intro depth le notDeep
    rw [answer_eq_run]
    cases read : call.rule parser.room parser.ahead with
    | mk outcome left =>
      rw [run_of_eq read] at answered
      cases answered
      refine run_atDepth (call.settles (room_le_atDepth le) parser.ahead) read ?_ depth
      rintro rfl
      exact notDeep _ _ rfl (cause_tooDeep (parser.behind left))

/-- Of `f (` and no more, the last bracket is missed at the end of the first.  So it is behind `IF`,
and with one level open as with 254. -/
theorem answer_surroundings_openCall :
    (⟨openCall.take 2, 0, 254⟩ : Parser).answer .statement =
        (.error ⟨.unexpectedEnd ")", ⟨3, 3⟩, 1, none⟩, ⟨openCall.take 2, 2, 254⟩) ∧
    (⟨⟨.kwIf, ⟨0, 2⟩, 1⟩ :: openCall.take 2, 1, 254⟩ : Parser).answer .statement =
        (.error ⟨.unexpectedEnd ")", ⟨3, 3⟩, 1, none⟩,
          ⟨⟨.kwIf, ⟨0, 2⟩, 1⟩ :: openCall.take 2, 3, 254⟩) ∧
    (⟨openCall.take 2, 0, 1⟩ : Parser).answer .statement =
        (.error ⟨.unexpectedEnd ")", ⟨3, 3⟩, 1, none⟩, ⟨openCall.take 2, 2, 1⟩) := by
  have failed : (⟨openCall.take 2, 0, 254⟩ : Parser).answer .statement =
      (.error ⟨.unexpectedEnd ")", ⟨3, 3⟩, 1, none⟩, ⟨openCall.take 2, 2, 254⟩) := rfl
  refine ⟨failed, (answer_surroundings failed).1 [⟨.kwIf, ⟨0, 2⟩, 1⟩] ?_,
    (answer_surroundings failed).2 1 (by decide) ?_⟩
  · exact List.cons_ne_nil _ _
  · rintro _ limit ⟨⟩ ⟨⟩

/-! Without any tokens of its own, a parser borrows the place of its error from those in front. -/

example : ((ofTokens []).preceded openCall).term.1 =
      .error ⟨.unexpectedEnd "an expression", ⟨5, 5⟩, 2, none⟩ ∧
    (ofTokens []).term.1 = .error ⟨.unexpectedEnd "an expression", ⟨0, 0⟩, 1, none⟩ := ⟨rfl, rfl⟩

end MiniBasic.Parser
