import MiniBasic.Proofs.Parser.Anchors

/-!
# The horizon of a parser

What a parser answers is settled by the tokens up to and with the one where it stops, and by their
places.  Put other tokens behind, and the answer is the same, with the same error where it is one,
and the cursor stops at the same place (`answer_among`).  That a statement looks at two tokens
behind its start and a conditional asks for the end of the input makes no difference.

Two facts come together.  For the rules it is `Rule.Settles`: each rule is settled by the next token
that it leaves.  For the errors it is `error_among`: an error about a token is made from this token
alone.  Where the parser stops behind the last token, the end of the input is what it has seen, and
there is nothing to keep.

Failures because the nesting is too deep are no part of this.  Such a failure stands where a level
is refused, and a statement has looked one token further before it tries to open the level.
-/

namespace MiniBasic.Parser

open Grammar (Rule Failure)

variable {α : Type}

/-- The same cursor among other tokens. -/
def among (parser : Parser) (tokens : List Token.Located) : Parser :=
  { parser with tokens := tokens }

/-! ## Tokens that agree up to the cursor -/

section Among

variable {parser : Parser} {tokens : List Token.Located} {word left : List Token}

/-- A word that is ahead is ahead among all tokens that agree up to its end. -/
theorem ahead_among (isAhead : parser.ahead = word ++ left)
    (same : tokens.take (parser.pos + word.length) =
      parser.tokens.take (parser.pos + word.length)) :
    (parser.among tokens).ahead =
      word ++ (tokens.drop (parser.pos + word.length)).map (·.token) := by
  have isWord : ((parser.tokens.drop parser.pos).take word.length).map (·.token) = word := by
    rw [List.map_take]
    show parser.ahead.take word.length = word
    rw [isAhead, List.take_left]
  have isOther : ((tokens.drop parser.pos).take word.length).map (·.token) = word := by
    rw [List.take_drop, same, ← List.take_drop, isWord]
  show (tokens.drop parser.pos).map (·.token) = _
  rw [← List.take_append_drop word.length (tokens.drop parser.pos), List.map_append, isOther,
    List.drop_drop]

/-- An error about the token under the cursor is made from this token alone. -/
theorem error_among {found : Token.Located} (atCursor : parser.tokens[parser.pos]? = some found)
    (atOther : tokens[parser.pos]? = some found) : (parser.among tokens).error = parser.error := by
  have atSame : (parser.among tokens).tokens[(parser.among tokens).pos]? = some found := atOther
  funext failure
  cases failure with
  | unexpected expected hint =>
    show (parser.among tokens).unexpected _ _ = parser.unexpected _ _
    rw [unexpected, unexpected, atCursor, atSame]
  | tooDeep =>
    show (parser.among tokens).tooDeep = parser.tooDeep
    rw [tooDeep, tooDeep, atCursor, atSame]
    rfl

/-- A rule that is settled by the next token that it leaves does the same among other tokens, if
these agree up to and with that token. -/
theorem run_among {rule : Rule α} {result : Except Failure α}
    (settles : rule.Settles rule parser.ahead) (read : rule parser.ahead = (result, left))
    (notDeep : result ≠ .error .tooDeep) (within : (parser.behind left).pos < parser.tokens.length)
    (same : tokens.take ((parser.behind left).pos + 1) =
      parser.tokens.take ((parser.behind left).pos + 1)) :
    (parser.among tokens).run rule =
      (result.mapError (parser.behind left).error, (parser.behind left).among tokens) := by
  obtain ⟨word, isAhead, settled⟩ := settles
  rw [read] at isAhead settled
  have isPos := pos_behind isAhead
  have atCursor := List.getElem?_eq_getElem within
  have sameToken :
      tokens[(parser.behind left).pos]? = parser.tokens[(parser.behind left).pos]? := by
    rw [← List.getElem?_take_of_lt (Nat.lt_succ_self _), same,
      List.getElem?_take_of_lt (Nat.lt_succ_self _)]
  have sameBefore : tokens.take (parser.pos + word.length) =
      parser.tokens.take (parser.pos + word.length) := by
    have shorter := congrArg (List.take (parser.behind left).pos) same
    rw [List.take_take, List.take_take, Nat.min_eq_left (Nat.le_succ _), isPos] at shorter
    exact shorter
  -- the other tokens have the word ahead, and then the same next token
  have isOther := ahead_among isAhead sameBefore
  have isLeft : left = (parser.tokens.drop (parser.pos + word.length)).map (·.token) :=
    List.append_cancel_left (isAhead.symm.trans (ahead_among isAhead rfl))
  have sameHead : ((tokens.drop (parser.pos + word.length)).map (·.token)).head? = left.head? := by
    rw [isLeft, List.head?_map, List.head?_map, List.head?_drop, List.head?_drop, ← isPos,
      sameToken]
  have readOther := settled notDeep _ sameHead
  rw [← isOther] at readOther
  have isBehind : (parser.among tokens).behind
      ((tokens.drop (parser.pos + word.length)).map (·.token)) =
        (parser.behind left).among tokens := by
    show Parser.mk tokens (behind _ _).pos parser.depth =
      Parser.mk tokens (parser.behind left).pos parser.depth
    rw [pos_behind isOther, isPos]
    rfl
  rw [run_of_eq readOther, isBehind]
  exact congrArg (fun error => (result.mapError error, _))
    (error_among atCursor (sameToken.trans atCursor))

end Among

/-! ## Answers -/

/-- A call that succeeds, or is stopped by a token, has the same answer among all tokens that agree
up to and with the one where it stops. -/
theorem answer_among {parser after : Parser} {call : Call α} {result : Except SyntaxError α}
    {tokens : List Token.Located} (answered : parser.answer call = (result, after))
    (decided : ∀ error, result = .error error →
      ∃ found expected, error.cause = .unexpectedToken found expected)
    (within : after.pos < parser.tokens.length)
    (same : tokens.take (after.pos + 1) = parser.tokens.take (after.pos + 1)) :
    (parser.among tokens).answer call = (result, after.among tokens) := by
  rw [answer_eq_run] at answered
  rw [answer_eq_run]
  cases read : call.rule parser.room parser.ahead with
  | mk outcome left =>
    rw [run_of_eq read] at answered
    cases answered
    refine run_among (call.settles (Nat.le_refl _) parser.ahead) read ?_ within same
    rintro rfl
    obtain ⟨found, expected, isCause⟩ := decided _ rfl
    have isDeep := cause_tooDeep (parser.behind left)
    rw [isCause] at isDeep
    cases isDeep

/-- In `x = "t" ELSE` an assignment stops at `ELSE`, in `f ( x` a statement at `x`, and what comes
behind is of no account. -/
theorem answer_among_else :
    (mk (unplaced [.name "x", .assign, .str "t", .kwElse]) 0 9).answer .assignment =
        (.ok ⟨"x", .str "t"⟩,
          ⟨unplaced [.name "x", .assign, .str "t", .kwElse], 3, 9⟩) ∧
      (mk (unplaced [.name "x", .assign, .str "t", .kwElse, .star]) 0 9).answer .assignment =
        (.ok ⟨"x", .str "t"⟩,
          ⟨unplaced [.name "x", .assign, .str "t", .kwElse, .star], 3, 9⟩) ∧
    (mk (unplaced [.name "f", .lparen, .name "x"]) 0 0).answer .statement =
        (.error ⟨.unexpectedToken "x" ")", ⟨0, 0⟩, 1, none⟩,
          ⟨unplaced [.name "f", .lparen, .name "x"], 2, 0⟩) ∧
      (mk (unplaced [.name "f", .lparen, .name "x", .rparen]) 0 0).answer .statement =
        (.error ⟨.unexpectedToken "x" ")", ⟨0, 0⟩, 1, none⟩,
          ⟨unplaced [.name "f", .lparen, .name "x", .rparen], 2, 0⟩) := by
  have succeeded : (mk (unplaced [.name "x", .assign, .str "t", .kwElse]) 0 9).answer
      .assignment = (.ok ⟨"x", .str "t"⟩,
        ⟨unplaced [.name "x", .assign, .str "t", .kwElse], 3, 9⟩) := rfl
  have failed : (mk (unplaced [.name "f", .lparen, .name "x"]) 0 0).answer .statement =
      (.error ⟨.unexpectedToken "x" ")", ⟨0, 0⟩, 1, none⟩,
        ⟨unplaced [.name "f", .lparen, .name "x"], 2, 0⟩) := rfl
  refine ⟨succeeded, ?_, failed, ?_⟩
  · exact answer_among succeeded nofun (by decide) rfl
  · refine answer_among failed ?_ (by decide) rfl
    rintro _ ⟨⟩
    exact ⟨_, _, rfl⟩

/-! With one level to open, what follows a name decides whether a second level is needed. -/

example : (mk (unplaced [.name "f", .plus]) 0 255).statement.2.pos = 0 ∧
    (mk (unplaced [.name "f", .lparen, .rparen]) 0 255).statement.2.pos = 3 := ⟨rfl, rfl⟩

end MiniBasic.Parser
