import MiniBasic.Parser.Course
import MiniBasic.Proofs.Parser.Anchors

/-!
# Procedures that follow rules

Every procedure of a parser follows a rule of the grammar (`Follows`).  It gives the answer of the
rule, and its course is a path of moves that ends with the parser of this answer.  So for each call
there is a way to the answer, move by move (`follows_call`).

Following is closed under the ways in which procedures are put together.  The step is
`Follows.bind`: the second procedure starts where the first has ended, with the same room, for a
level that was opened is closed again (`Follows.nested`).  Procedures ask the parser whether a level
is free, and rules ask their room.  Both give the same answer (`full_iff`), since as many operators
or signs are counted as turns of the room are taken.

A procedure makes its error at the cursor, and whatever is going on around it hands the error on and
moves no further.  So the error of a procedure is about the cursor that is left behind
(`Follows.anchored`).
-/

namespace MiniBasic.Parser

open Grammar (Rule Failure)

variable {α β : Type}

/-! ## Paths -/

namespace Path

variable {first middle last : Parser} {stages more : List Parser}

theorem single (move : Move first last) : Path first [last] last := .cons move .nil

theorem append (front : Path first stages middle) (back : Path middle more last) :
    Path first (stages ++ more) last := by
  induction front with
  | nil => exact back
  | cons move _ ih => exact .cons move (ih back)

end Path

/-! ## The tokens ahead -/

section Ahead

variable {parser : Parser} {rest : List Token}

theorem current?_eq (parser : Parser) : parser.current? = parser.ahead.head? := by
  show parser.tokens[parser.pos + 0]?.map _ = ((parser.tokens.drop parser.pos).map _).head?
  rw [List.head?_map, List.head?_drop, Nat.add_zero]

theorem peek?_one_eq (parser : Parser) : parser.peek? 1 = parser.ahead[1]? := by
  show parser.tokens[parser.pos + 1]?.map _ = ((parser.tokens.drop parser.pos).map _)[1]?
  rw [List.getElem?_map, List.getElem?_drop]

theorem behind_ahead (parser : Parser) : parser.behind parser.ahead = parser := by
  rw [behind, Nat.sub_self, Nat.add_zero]

/-- A rule that reads nothing leaves the parser as it is. -/
theorem run_of_stay {rule : Rule α} {result : Except Failure α}
    (read : rule parser.ahead = (result, parser.ahead)) :
    parser.run rule = (result.mapError parser.error, parser) := by
  rw [run_of_eq read, behind_ahead]

theorem behind_tail {token : Token} (isAhead : parser.ahead = token :: rest) :
    parser.behind rest = parser.advance := by
  rw [behind, isAhead, List.length_cons, Nat.add_sub_cancel_left]
  rfl

end Ahead

/-! ## The levels that are free -/

section Levels

variable {parser : Parser}

theorem full_iff {count : Nat} : nestingLimit ≤ parser.depth + count ↔ parser.room ≤ count :=
  Nat.sub_le_iff_le_add'.symm

theorem room_enter {room : Nat} (isRoom : parser.room = room + 1) : parser.enter.room = room := by
  show nestingLimit - (parser.depth + 1) = room
  rw [Nat.sub_add_eq]
  exact congrArg (· - 1) isRoom

/-- One more level around a rule changes neither its error nor its cursor. -/
theorem nested_run {rule : Rule α} (isFree : parser.depth < nestingLimit) :
    parser.nested (fun inner => inner.run rule) = parser.run rule := by
  rw [nested, if_neg (Nat.not_le.mpr isFree)]
  cases read : rule parser.ahead with
  | mk result left =>
    have readInside : rule (ahead { parser with depth := parser.depth + 1 }) = (result, left) :=
      read
    rw [run_of_eq read, run_of_eq readInside]
    cases result <;> rfl

end Levels

/-! ## Procedures and rules -/

/-- A procedure answers for a rule, move by move. -/
structure Follows (procedure : Procedure α) (rule : Rule α) (parser : Parser) : Prop where
  answer : (procedure parser).answer = parser.run rule
  path : Path parser (procedure parser).stages (procedure parser).answer.2
  isEnd : (rule parser.ahead).2 <:+ parser.ahead

theorem Procedure.bind_apply (first : Procedure α) (next : α → Procedure β) (parser : Parser) :
    (first >>= next) parser =
      match first parser with
      | ⟨(.ok a, middle), stages⟩ => ⟨(next a middle).answer, stages ++ (next a middle).stages⟩
      | ⟨(.error error, middle), stages⟩ => ⟨(.error error, middle), stages⟩ := rfl

namespace Follows

variable {procedure : Procedure α} {rule other : Rule α} {parser : Parser} {token : Token}
  {rest : List Token} {next : α → Procedure β} {nextRule : α → Rule β}

/-- Only what the rule does with the tokens ahead matters. -/
theorem congr (same : rule parser.ahead = other parser.ahead)
    (follows : Follows procedure other parser) : Follows procedure rule parser := by
  obtain ⟨answer, path, isEnd⟩ := follows
  refine ⟨?_, path, ?_⟩
  · rw [answer, run, run, same]
  · rw [same]
    exact isEnd

/-- Nothing is read. -/
protected theorem pure {a : α} (read : rule parser.ahead = (.ok a, parser.ahead)) :
    Follows (pure a) rule parser := by
  refine ⟨(run_of_stay read).symm, .nil, ?_⟩
  simp [read]

protected theorem fail {failure : Failure}
    (failed : rule parser.ahead = (.error failure, parser.ahead)) :
    Follows (Procedure.fail failure) rule parser := by
  refine ⟨(run_of_stay failed).symm, .nil, ?_⟩
  simp [failed]

/-- One procedure after another follows one rule after another. -/
theorem bind (first : Follows procedure rule parser)
    (second : ∀ a middle, middle.room = parser.room → Follows (next a) (nextRule a) middle) :
    Follows (procedure >>= next) (rule >>= nextRule) parser := by
  obtain ⟨answer, path, isEnd⟩ := first
  cases read : rule parser.ahead with
  | mk result left =>
    rw [read] at isEnd
    rw [run_of_eq read] at answer
    cases did : procedure parser with
    | mk given stages =>
      rw [did] at answer path
      subst answer
      cases result with
      | error failure =>
        refine ⟨?_, ?_, ?_⟩
        · rw [Procedure.bind_apply, did, run_of_eq (Rule.bind_of_error read)]
          rfl
        · rw [Procedure.bind_apply, did]
          exact path
        · rw [Rule.bind_of_error read]
          exact isEnd
      | ok a =>
        obtain ⟨answerToo, pathToo, isEndToo⟩ := second a (parser.behind left) rfl
        rw [ahead_behind isEnd] at isEndToo
        have readOn : nextRule a (parser.behind left).ahead = nextRule a left := by
          rw [ahead_behind isEnd]
        have both : (rule >>= nextRule) parser.ahead = nextRule a left := Rule.bind_of_ok read
        refine ⟨?_, ?_, ?_⟩
        · rw [Procedure.bind_apply, did]
          show (next a (parser.behind left)).answer = _
          rw [answerToo, run_of_eq readOn, run_of_eq both, behind_behind isEnd isEndToo]
        · rw [Procedure.bind_apply, did]
          exact path.append pathToo
        · rw [both]
          exact isEndToo.trans isEnd

/-- The value is only wrapped. -/
theorem map {wrap : α → β} (follows : Follows procedure rule parser) :
    Follows (procedure >>= fun a => pure (wrap a)) (rule >>= fun a => (pure (wrap a) : Rule β))
      parser :=
  follows.bind fun _ _ _ => .pure rfl

/-- Looking at the next token moves nothing. -/
theorem current {next : Option Token → Procedure β} {rule : Rule β}
    (follows : Follows (next parser.ahead.head?) rule parser) :
    Follows (Procedure.current >>= next) rule parser := by
  rw [← current?_eq] at follows
  exact ⟨follows.answer, follows.path, follows.isEnd⟩

/-- Nor does looking at the token behind it. -/
theorem peek {next : Option Token → Procedure β} {rule : Rule β}
    (follows : Follows (next parser.ahead[1]?) rule parser) :
    Follows (Procedure.peek 1 >>= next) rule parser := by
  rw [← peek?_one_eq] at follows
  exact ⟨follows.answer, follows.path, follows.isEnd⟩

/-- Nor does counting the levels. -/
theorem levels {next : Nat → Procedure β} {rule : Rule β}
    (follows : Follows (next parser.depth) rule parser) :
    Follows (Procedure.levels >>= next) rule parser :=
  ⟨follows.answer, follows.path, follows.isEnd⟩

/-- The next token is read. -/
theorem advance {next : Unit → Procedure β} {rule part : Rule β}
    (isAhead : parser.ahead = token :: rest) (read : rule (token :: rest) = part rest)
    (follows : Follows (next ()) part parser.advance) :
    Follows (Procedure.advance >>= next) rule parser := by
  have isSuffix : rest <:+ parser.ahead := isAhead ▸ List.suffix_cons token rest
  have isRest : parser.advance.ahead = rest := by rw [← behind_tail isAhead, ahead_behind isSuffix]
  have atCursor : parser.current? = some token := by rw [current?_eq, isAhead, List.head?_cons]
  rw [← isAhead] at read
  obtain ⟨answer, path, isEnd⟩ := follows
  rw [isRest] at isEnd
  have readOn : part parser.advance.ahead = part rest := by rw [isRest]
  refine ⟨?_, .cons (.advance atCursor) path, ?_⟩
  · show (next () parser.advance).answer = _
    rw [answer, run_of_eq readOn, run_of_eq read, ← behind_tail isAhead,
      behind_behind isSuffix isEnd]
  · rw [read]
    exact isEnd.trans isSuffix

/-- The next token is read, and that is all. -/
theorem read {a : α} (isAhead : parser.ahead = token :: rest)
    (isRead : rule (token :: rest) = (.ok a, rest)) :
    Follows (Procedure.advance >>= fun _ => pure a) rule parser := by
  have last : Follows (pure a) (pure a : Rule α) parser.advance := .pure rfl
  exact .advance isAhead isRead last

/-- No further level is opened where none is free. -/
theorem nested_of_full {inner : Procedure α} (isFull : parser.room = 0)
    (failed : rule parser.ahead = (.error .tooDeep, parser.ahead)) :
    Follows (Procedure.nested inner) rule parser := by
  have same : Procedure.nested inner parser = Procedure.fail .tooDeep parser :=
    if_pos (Nat.sub_eq_zero_iff_le.mp isFull)
  obtain ⟨answer, path, isEnd⟩ := Follows.fail failed
  rw [← same] at answer path
  exact ⟨answer, path, isEnd⟩

/-- A level is opened, and closed again. -/
theorem nested {inner : Procedure α} (isFree : 0 < parser.room)
    (follows : Follows inner rule parser.enter) : Follows (Procedure.nested inner) rule parser := by
  have below : parser.depth < nestingLimit := Nat.lt_of_sub_pos isFree
  obtain ⟨answer, path, isEnd⟩ := follows
  have entered : Procedure.nested inner parser =
      ⟨((inner parser.enter).answer.1, (inner parser.enter).answer.2.leave),
        parser.enter :: ((inner parser.enter).stages ++ [(inner parser.enter).answer.2.leave])⟩ :=
    if_neg (Nat.not_le.mpr below)
  refine ⟨?_, ?_, isEnd⟩
  · rw [entered, ← nested_run below, Parser.nested, if_neg (Nat.not_le.mpr below), answer]
    rfl
  · rw [entered]
    refine .cons (.enter below) (path.append (.single (.leave ?_)))
    rw [answer]
    exact Nat.succ_pos _

end Follows

/-! ## Single tokens -/

section Tokens

variable (parser : Parser)

theorem follows_accept (token : Token) :
    Follows (Procedure.accept token) (Rule.accept token) parser := by
  refine .current ?_
  by_cases found : parser.ahead.head? = some token
  · obtain ⟨rest, isAhead⟩ := List.head?_eq_some_iff.mp found
    rw [if_pos found]
    exact .read isAhead (if_pos rfl)
  · rw [if_neg found]
    exact .pure (if_neg found)

theorem follows_expect (token : Token) :
    Follows (Procedure.expect token) (Rule.expect token) parser := by
  have asked : Rule.expect token = Rule.accept token >>= fun found =>
      if found then (pure () : Rule Unit) else Rule.unexpected (.token token) := by
    funext ahead
    rw [Rule.bind_apply, Rule.expect, Rule.accept]
    by_cases found : ahead.head? = some token
    · rw [if_pos found, if_pos found]
      rfl
    · rw [if_neg found, if_neg found]
      rfl
  rw [asked]
  refine (follows_accept parser token).bind fun found middle _ => ?_
  cases found with
  | true => exact .pure rfl
  | false => exact .fail rfl

theorem follows_expectName : Follows Procedure.expectName Rule.expectName parser := by
  refine .current ?_
  cases isAhead : parser.ahead with
  | nil => exact .fail (by rw [isAhead]; rfl)
  | cons token rest =>
    cases token with
    | name ident => exact .read isAhead rfl
    | _ => exact .fail (by rw [isAhead]; rfl)

theorem follows_term : Follows Procedure.term Grammar.term parser := by
  refine .current ?_
  cases isAhead : parser.ahead with
  | nil => exact .fail (by rw [isAhead]; rfl)
  | cons token rest =>
    cases token with
    | number | name => exact .read isAhead rfl
    | _ => exact .fail (by rw [isAhead]; rfl)

theorem follows_comparison : Follows Procedure.comparison Grammar.comparison parser := by
  refine .current ?_
  cases isAhead : parser.ahead with
  | nil => exact .fail (by rw [isAhead]; rfl)
  | cons token rest =>
    cases token with
    | eqEq | greater | less => exact .read isAhead rfl
    | _ => exact .fail (by rw [isAhead]; rfl)

end Tokens

/-! ## Expressions -/

section Expressions

variable {room : Nat}

theorem follows_negations {operand : Procedure Expr} {operandRule : Rule Expr}
    (inner : ∀ parser : Parser, parser.room = room → Follows operand operandRule parser)
    {count turns : Nat} (isTurns : room = count + turns) {parser : Parser}
    (isRoom : parser.room = room) :
    Follows (Procedure.negations operand count) (Grammar.negations operandRule turns) parser := by
  induction turns generalizing count parser with
  | zero =>
    rw [Procedure.negations]
    refine .current ?_
    by_cases minus : parser.ahead.head? = some .minus
    · obtain ⟨rest, isAhead⟩ := List.head?_eq_some_iff.mp minus
      rw [if_pos minus]
      refine .levels ?_
      rw [dif_pos (full_iff.mpr (by omega))]
      refine .fail ?_
      rw [isAhead, Grammar.negations_zero_minus]
    · rw [if_neg minus]
      exact .congr (Grammar.negations_of_ne operandRule 0 minus) (inner parser isRoom)
  | succ turns ih =>
    rw [Procedure.negations]
    refine .current ?_
    by_cases minus : parser.ahead.head? = some .minus
    · obtain ⟨rest, isAhead⟩ := List.head?_eq_some_iff.mp minus
      rw [if_pos minus]
      refine .levels ?_
      rw [dif_neg (mt full_iff.mp (by omega))]
      refine .advance isAhead (Grammar.negations_succ_minus operandRule turns rest) (.map ?_)
      exact ih (by omega) isRoom
    · rw [if_neg minus]
      exact .congr (Grammar.negations_of_ne operandRule (turns + 1) minus) (inner parser isRoom)

theorem follows_unary {operand : Nat → Procedure Expr} {operandRule : Nat → Rule Expr}
    (inner : ∀ least (parser : Parser), parser.room = room →
      Follows (operand least) (operandRule least) parser) {parser : Parser}
    (isRoom : parser.room = room) :
    Follows (Procedure.unary operand) (Grammar.unary operandRule room) parser := by
  refine .current ?_
  by_cases minus : parser.ahead.head? = some .minus
  · obtain ⟨rest, isAhead⟩ := List.head?_eq_some_iff.mp minus
    rw [if_pos minus]
    refine .congr ?_ (follows_negations (inner _) (Nat.zero_add room).symm isRoom)
    rw [isAhead, Grammar.unary_minus]
  · rw [if_neg minus]
    exact .congr (Grammar.unary_of_ne operandRule room minus) (follows_term parser)

/-- Where a run is over, the expression so far is the answer. -/
theorem Follows.run_over {parser : Parser} {rule : Rule Expr} {least : Nat} {left : Expr}
    {proceed : Operator → Procedure Expr} (stops : Grammar.Stops least parser.ahead)
    (read : rule parser.ahead = (.ok left, parser.ahead)) :
    Follows (match parser.ahead.head?.bind Operator.ofToken? with
      | none => pure left
      | some op => if op.binding.level < least then pure left else proceed op) rule parser := by
  cases found : parser.ahead.head?.bind Operator.ofToken? with
  | none => exact .pure read
  | some op =>
    obtain ⟨token, isHead, isOp⟩ := Option.bind_eq_some_iff.mp found
    rw [Operator.ofToken?_eq_some_iff.mp isOp] at isHead
    show Follows (if _ then _ else _) _ _
    rw [if_pos (stops op isHead)]
    exact .pure read

theorem follows_links {operand : Nat → Procedure Expr} {operandRule : Nat → Rule Expr}
    (inner : ∀ least (parser : Parser), parser.room = room →
      Follows (operand least) (operandRule least) parser) (least : Nat) {count turns : Nat}
    (isTurns : room = count + turns) (left : Expr) {parser : Parser}
    (isRoom : parser.room = room) :
    Follows (Procedure.links operand least count left)
      (Grammar.links operandRule least turns left) parser := by
  induction turns generalizing count left parser with
  | zero =>
    rw [Procedure.links]
    refine .current ?_
    rcases Grammar.stops_or_operator least parser.ahead with stops | ⟨op, rest, isAhead, tight⟩
    · exact .run_over stops (Grammar.links_of_stops operandRule 0 left stops)
    · rw [isAhead, List.head?_cons, Option.bind_some, Operator.ofToken?_token]
      show Follows (if _ then _ else _) _ _
      rw [if_neg (Nat.not_lt.mpr tight)]
      refine .levels ?_
      rw [dif_pos (full_iff.mpr (by omega))]
      refine .fail ?_
      rw [isAhead, Grammar.links_zero_operator operandRule left tight]
  | succ turns ih =>
    rw [Procedure.links]
    refine .current ?_
    rcases Grammar.stops_or_operator least parser.ahead with stops | ⟨op, rest, isAhead, tight⟩
    · exact .run_over stops (Grammar.links_of_stops operandRule _ left stops)
    · rw [isAhead, List.head?_cons, Option.bind_some, Operator.ofToken?_token]
      show Follows (if _ then _ else _) _ _
      rw [if_neg (Nat.not_lt.mpr tight)]
      refine .levels ?_
      rw [dif_neg (mt full_iff.mp (by omega))]
      refine .advance isAhead (Grammar.links_succ_operator operandRule turns left tight rest) ?_
      refine (inner _ parser.advance isRoom).bind fun right middle same => ?_
      exact ih (by omega) (.binary left op right) (same.trans isRoom)

theorem follows_climb {below least : Nat} (enough : room ≤ below) {parser : Parser}
    (isRoom : parser.room = room) :
    Follows (Procedure.climb below least) (Grammar.climb room least) parser := by
  induction below generalizing room least parser with
  | zero =>
    rw [Nat.le_zero.mp enough]
    exact .fail rfl
  | succ below ih =>
    cases room with
    | zero => exact .nested_of_full isRoom rfl
    | succ room =>
      have inner : ∀ least (parser : Parser), parser.room = room →
          Follows (Procedure.climb below least) (Grammar.climb room least) parser :=
        fun _ _ isInner => ih (Nat.le_of_succ_le_succ enough) isInner
      have isBelow : parser.enter.room = room := room_enter isRoom
      rw [Grammar.climb_succ]
      refine .nested (isRoom ▸ Nat.succ_pos room) ((follows_unary inner isBelow).bind ?_)
      intro left middle same
      exact follows_links inner least (Nat.zero_add room).symm left (same.trans isBelow)

theorem follows_expression {parser : Parser} (isRoom : parser.room = room) :
    Follows Procedure.expression (Grammar.expression room) parser :=
  follows_climb (isRoom ▸ Nat.sub_le _ _) isRoom

theorem follows_condition {parser : Parser} (isRoom : parser.room = room) :
    Follows Procedure.condition (Grammar.condition room) parser :=
  (follows_expression isRoom).bind fun _ middle same =>
    (follows_comparison middle).bind fun _ _ again =>
      (follows_expression ((again.trans same).trans isRoom)).map

end Expressions

/-! ## Statements -/

section Statements

variable {room : Nat}

theorem follows_assignment {parser : Parser} (isRoom : parser.room = room) :
    Follows Procedure.assignment (Grammar.assignment room) parser := by
  refine (follows_expectName parser).bind fun name middle same => ?_
  refine (follows_expect middle .assign).bind fun _ last again => ?_
  have isLast := (again.trans same).trans isRoom
  refine .current ?_
  cases isAhead : last.ahead with
  | nil => exact .congr (by rw [isAhead]; rfl) (follows_expression isLast).map
  | cons token rest =>
    cases token with
    | str text => exact .read isAhead rfl
    | _ => exact .congr (by rw [isAhead]; rfl) (follows_expression isLast).map

theorem follows_elseWord (parser : Parser) :
    Follows Procedure.elseWord Grammar.elseWord parser := by
  refine .current ?_
  cases isAhead : parser.ahead with
  | nil => exact .fail (by rw [isAhead]; rfl)
  | cons token rest => exact .congr (by rw [isAhead]; rfl) (follows_expect parser .kwElse)

theorem follows_noParameters (parser : Parser) :
    Follows Procedure.noParameters Grammar.noParameters parser := by
  refine (follows_expect parser .lparen).bind fun _ middle _ => .current ?_
  cases isAhead : middle.ahead with
  | nil => exact .congr (by rw [isAhead]; rfl) (follows_expect middle .rparen)
  | cons token rest =>
    by_cases isClosing : token = .rparen
    · rw [if_neg (by simp [isClosing])]
      exact .congr (by rw [isAhead, isClosing]; rfl) (follows_expect middle .rparen)
    · rw [if_pos (by simp [isClosing])]
      refine .fail ?_
      rw [isAhead]
      exact Grammar.closing_of_ne (by simp [isClosing])

section Bodies

variable {body : Procedure Statement} {bodyRule : Rule Statement} {parser : Parser}
  (isRoom : parser.room = room)
  (inner : ∀ parser : Parser, parser.room = room → Follows body bodyRule parser)

include isRoom inner

theorem follows_forLoop :
    Follows (Procedure.forLoop body) (do
      Rule.expect .kwFor
      let setup ← Grammar.assignment room
      Rule.expect .kwTo
      let bound ← Grammar.expression room
      Rule.expect .kwThen
      let body ← bodyRule
      return .forLoop setup bound body) parser := by
  refine (follows_expect parser .kwFor).bind fun _ second same => ?_
  replace isRoom := same.trans isRoom
  refine (follows_assignment isRoom).bind fun setup third same => ?_
  replace isRoom := same.trans isRoom
  refine (follows_expect third .kwTo).bind fun _ fourth same => ?_
  replace isRoom := same.trans isRoom
  refine (follows_expression isRoom).bind fun bound fifth same => ?_
  replace isRoom := same.trans isRoom
  refine (follows_expect fifth .kwThen).bind fun _ last same => ?_
  exact (inner last (same.trans isRoom)).map

theorem follows_ifElse :
    Follows (Procedure.ifElse body) (do
      Rule.expect .kwIf
      let cond ← Grammar.condition room
      Rule.expect .kwThen
      let thenBranch ← bodyRule
      Grammar.elseWord
      let elseBranch ← bodyRule
      return .ifElse cond thenBranch elseBranch) parser := by
  refine (follows_expect parser .kwIf).bind fun _ second same => ?_
  replace isRoom := same.trans isRoom
  refine (follows_condition isRoom).bind fun cond third same => ?_
  replace isRoom := same.trans isRoom
  refine (follows_expect third .kwThen).bind fun _ fourth same => ?_
  replace isRoom := same.trans isRoom
  refine (inner fourth isRoom).bind fun thenBranch fifth same => ?_
  replace isRoom := same.trans isRoom
  refine (follows_elseWord fifth).bind fun _ last same => ?_
  exact (inner last (same.trans isRoom)).map

theorem follows_funDef :
    Follows (Procedure.funDef body) (do
      Rule.expect .kwFun
      let name ← Rule.expectName
      Grammar.noParameters
      Rule.expect .arrow
      let body ← bodyRule
      return .funDef name body) parser := by
  refine (follows_expect parser .kwFun).bind fun _ second same => ?_
  replace isRoom := same.trans isRoom
  refine (follows_expectName second).bind fun name third same => ?_
  replace isRoom := same.trans isRoom
  refine (follows_noParameters third).bind fun _ fourth same => ?_
  replace isRoom := same.trans isRoom
  refine (follows_expect fourth .arrow).bind fun _ last same => ?_
  exact (inner last (same.trans isRoom)).map

end Bodies

theorem follows_funCall (parser : Parser) : Follows Procedure.funCall Grammar.call parser :=
  (follows_expectName parser).bind fun _ second _ =>
    (follows_expect second .lparen).bind fun _ third _ => (follows_expect third .rparen).map

theorem follows_statementWithin {below : Nat} (enough : room ≤ below) {parser : Parser}
    (isRoom : parser.room = room) :
    Follows (Procedure.statementWithin below) (Grammar.statement room) parser := by
  induction below generalizing room parser with
  | zero =>
    rw [Nat.le_zero.mp enough]
    exact .fail rfl
  | succ below ih =>
    cases room with
    | zero => exact .nested_of_full isRoom rfl
    | succ room =>
      have inner : ∀ parser : Parser, parser.room = room →
          Follows (Procedure.statementWithin below) (Grammar.statement room) parser :=
        fun _ isInner => ih (Nat.le_of_succ_le_succ enough) isInner
      have isBelow : parser.enter.room = room := room_enter isRoom
      refine .nested (isRoom ▸ Nat.succ_pos room) (.current ?_)
      generalize isAhead : parser.enter.ahead = ahead
      cases Grammar.opening ahead with
      | nil => exact .pure (by rw [isAhead]; rfl)
      | elseWord rest => exact .pure (by rw [isAhead]; rfl)
      | forWord rest => exact .congr (by rw [isAhead]; rfl) (follows_forLoop isBelow inner)
      | ifWord rest => exact .congr (by rw [isAhead]; rfl) (follows_ifElse isBelow inner)
      | funWord rest => exact .congr (by rw [isAhead]; rfl) (follows_funDef isBelow inner)
      | call name rest =>
        refine .peek ?_
        rw [isAhead]
        exact .congr (by rw [isAhead]; rfl) (follows_funCall _)
      | assign name rest =>
        refine .peek ?_
        rw [isAhead]
        exact .congr (by rw [isAhead]; rfl) (follows_assignment isBelow).map
      | expr opens =>
        have read : Follows (Procedure.expression >>= fun body => pure (Statement.expr body))
            (Grammar.statement (room + 1)) parser.enter :=
          .congr (Grammar.statement_expr room (isAhead ▸ opens)) (follows_expression isBelow).map
        cases ahead with
        | nil => exact opens.elim
        | cons token rest =>
          cases token with
          | kwElse | kwFor | kwIf | kwFun => exact opens.elim
          | name ident =>
            refine .peek ?_
            rw [isAhead]
            cases rest with
            | nil => exact read
            | cons second rest =>
              cases second with
              | lparen | assign => exact opens.elim
              | _ => exact read
          | _ => exact read

theorem follows_statement {parser : Parser} (isRoom : parser.room = room) :
    Follows Procedure.statement (Grammar.statement room) parser :=
  follows_statementWithin (isRoom ▸ Nat.sub_le _ _) isRoom

theorem follows_program {parser : Parser} (isRoom : parser.room = room) :
    Follows Procedure.program (Grammar.program room) parser := by
  refine (follows_statement isRoom).bind fun whole middle _ => .current ?_
  cases isAhead : middle.ahead with
  | nil => exact .pure (by rw [isAhead]; rfl)
  | cons token rest => cases token <;> exact .fail (by rw [isAhead]; rfl)

end Statements

/-! ## Calls -/

/-- What is done for a call. -/
def Call.procedure : Call α → Procedure α
  | .parse => Procedure.program
  | .statement => Procedure.statement
  | .expression => Procedure.expression
  | .term => Procedure.term
  | .condition => Procedure.condition
  | .assignment => Procedure.assignment
  | .expect token => Procedure.expect token
  | .expectName => Procedure.expectName

theorem follows_call (parser : Parser) (call : Call α) :
    Follows call.procedure (call.rule parser.room) parser := by
  cases call with
  | parse => exact follows_program rfl
  | statement => exact follows_statement rfl
  | expression => exact follows_expression rfl
  | term => exact follows_term parser
  | condition => exact follows_condition rfl
  | assignment => exact follows_assignment rfl
  | expect token => exact follows_expect parser token
  | expectName => exact follows_expectName parser

/-! ## Errors -/

/-- The error of a procedure is made at some cursor, maybe deep inside of other procedures.  All of
them hand it on as it is and leave the cursor there, so it is about what is under the cursor in the
end. -/
theorem Follows.anchored {procedure : Procedure α} {rule : Rule α} {parser after : Parser}
    {error : SyntaxError} (follows : Follows procedure rule parser)
    (failed : (procedure parser).answer = (.error error, after)) :
    after.Anchored error ∧ after.tokens = parser.tokens ∧
      ∃ failure, error = after.error failure ∧
        rule parser.ahead = (.error failure, after.ahead) :=
  anchored_of_run follows.isEnd (follows.answer ▸ failed)

theorem anchored_of_procedure {parser after : Parser} {call : Call α} {error : SyntaxError}
    (failed : (call.procedure parser).answer = (.error error, after)) :
    after.Anchored error ∧ after.tokens = parser.tokens ∧
      ∃ failure, error = after.error failure ∧
        call.rule parser.room parser.ahead = (.error failure, after.ahead) :=
  (follows_call parser call).anchored failed

end MiniBasic.Parser
