import MiniBasic.Proofs.Parser.Course

/-!
# The discipline of cursor and levels

From any cursor and with any number of levels open, and however a call ends, its course moves the
cursor forward only and never past the last token, opens no level beyond the limit, and closes what
it has opened (`Course.Disciplined`).  Each of these is kept by a move and holds on a path of moves
for that reason (`Path.forall_mem`).

What is read is another matter, and is told from the answers.  Only a statement succeeds without
reading a token.  It is empty then, and stands at the end or at an `ELSE` (`eq_empty_of_pos_eq`).
An expression reads on as long as there are operators (`current?_of_expression`).
-/

namespace MiniBasic

variable {α β : Type}

/-! ## Trees without tokens -/

theorem Expr.tokens_ne_nil (expr : Expr) : expr.tokens ≠ [] := by
  cases expr <;> simp [Expr.tokens]

theorem Statement.eq_empty_of_tokens {whole : Statement} (noTokens : whole.tokens = []) :
    whole = .empty := by
  cases whole with
  | empty => rfl
  | expr body => exact absurd noTokens body.tokens_ne_nil
  | _ => simp [Statement.tokens, Assignment.tokens] at noTokens

namespace Grammar

/-! ## Empty statements -/

/-- A rule does not read a value, whatever comes. -/
def Rule.Never (rule : Rule α) (a : α) : Prop := ∀ ahead left, rule ahead ≠ (.ok a, left)

namespace Rule.Never

protected theorem pure {a b : α} (other : b ≠ a) : (pure b : Rule α).Never a := by
  rintro ahead left ⟨⟩
  exact other rfl

theorem bind {rule : Rule α} {next : α → Rule β} {b : β} (never : ∀ a, (next a).Never b) :
    (rule >>= next).Never b := by
  intro ahead left read
  obtain ⟨a, middle, -, readOn⟩ := Rule.bind_eq_ok_iff.mp read
  exact never a middle left readOn

end Rule.Never

/-- The empty statement is read only where a statement may end.  All other openings are read by
rules that end in the value of another statement. -/
theorem head?_of_empty {room : Nat} {ahead left : List Token}
    (read : statement room ahead = (.ok .empty, left)) :
    ahead.head? = none ∨ ahead.head? = some .kwElse := by
  cases room with
  | zero => cases read
  | succ room =>
    cases opening ahead with
    | nil => exact .inl rfl
    | elseWord rest => exact .inr rfl
    | forWord rest =>
      rw [statement_forWord] at read
      refine absurd read (Rule.Never.bind (fun _ => ?_) rest left)
      exact .bind fun _ => .bind fun _ => .bind fun _ => .bind fun _ => .pure nofun
    | ifWord rest =>
      rw [statement_ifWord] at read
      refine absurd read (Rule.Never.bind (fun _ => ?_) rest left)
      exact .bind fun _ => .bind fun _ => .bind fun _ => .bind fun _ => .pure nofun
    | funWord rest =>
      rw [statement_funWord] at read
      refine absurd read (Rule.Never.bind (fun _ => ?_) rest left)
      exact .bind fun _ => .bind fun _ => .bind fun _ => .pure nofun
    | call name rest =>
      rw [statement_call] at read
      refine absurd read (Rule.Never.bind (fun _ => ?_) rest left)
      exact .pure nofun
    | assign name rest =>
      rw [statement_assign] at read
      refine absurd read (Rule.Never.bind (fun _ => ?_) _ left)
      exact .pure nofun
    | expr opens =>
      rw [statement_expr room opens] at read
      refine absurd read (Rule.Never.bind (fun _ => ?_) ahead left)
      exact .pure nofun

end Grammar

namespace Parser

open Grammar (Rule)

/-! ## What a move keeps -/

namespace Move

variable {parser next : Parser}

theorem tokens_eq (move : Move parser next) : next.tokens = parser.tokens := by
  cases move <;> rfl

theorem le_pos (move : Move parser next) : parser.pos ≤ next.pos := by
  cases move with
  | advance => exact Nat.le_succ _
  | enter | leave => exact Nat.le_refl _

/-- The cursor moves over tokens only. -/
theorem pos_le {bound : Nat} (move : Move parser next) (before : parser.pos ≤ bound)
    (all : parser.tokens.length ≤ bound) : next.pos ≤ bound := by
  cases move with
  | advance atCursor =>
    obtain ⟨located, found, -⟩ := Option.map_eq_some_iff.mp atCursor
    obtain ⟨within, -⟩ := List.getElem?_eq_some_iff.mp found
    exact Nat.le_trans within all
  | enter | leave => exact before

/-- No level is opened beyond the limit. -/
theorem depth_le {bound : Nat} (move : Move parser next) (before : parser.depth ≤ bound)
    (limit : nestingLimit ≤ bound) : next.depth ≤ bound := by
  cases move with
  | advance => exact before
  | enter isFree => exact Nat.le_trans isFree limit
  | leave => exact Nat.le_trans (Nat.sub_le _ _) before

end Move

namespace Path

variable {first last : Parser} {stages : List Parser}

/-- What no move breaks holds of all parsers on the way. -/
theorem forall_mem {Holds : Parser → Prop} (path : Path first stages last)
    (kept : ∀ parser next, Holds parser → Move parser next → Holds next) (atFirst : Holds first) :
    ∀ stage ∈ first :: stages, Holds stage := by
  induction path with
  | nil => simpa using atFirst
  | cons move _ ih => exact List.forall_mem_cons.mpr ⟨atFirst, ih (kept _ _ atFirst move)⟩

/-- The cursor never moves back. -/
theorem pairwise_pos (path : Path first stages last) :
    (first :: stages).Pairwise fun earlier later => earlier.pos ≤ later.pos := by
  induction path with
  | nil => exact List.pairwise_singleton _ _
  | cons move path ih =>
    refine List.pairwise_cons.mpr ⟨path.forall_mem ?_ move.le_pos, ih⟩
    intro parser next before move
    exact Nat.le_trans before move.le_pos

end Path

/-! ## Disciplined courses -/

/-- A course keeps cursor and levels in order. -/
structure Course.Disciplined (course : Course α) (parser : Parser) : Prop where
  /-- It is made of moves, and ends with the parser of its answer. -/
  path : Path parser course.stages course.answer.2
  /-- As many levels are open at the end as at the start. -/
  depth : course.answer.2.depth = parser.depth
  /-- The cursor never moves back. -/
  forward : (parser :: course.stages).Pairwise fun earlier later => earlier.pos ≤ later.pos
  /-- Nor does it move past the last token. -/
  within : ∀ stage ∈ parser :: course.stages,
    stage.tokens = parser.tokens ∧ stage.pos ≤ max parser.pos parser.tokens.length
  /-- No level is opened beyond the limit. -/
  limit : ∀ stage ∈ parser :: course.stages, stage.depth ≤ max parser.depth nestingLimit

theorem Follows.disciplined {procedure : Procedure α} {rule : Rule α} {parser : Parser}
    (follows : Follows procedure rule parser) : (procedure parser).Disciplined parser := by
  obtain ⟨answer, path, -⟩ := follows
  refine ⟨path, ?_, path.pairwise_pos, ?_, ?_⟩
  · rw [answer, depth_run]
  · refine path.forall_mem (fun stage next before move => ?_) ⟨rfl, Nat.le_max_left _ _⟩
    obtain ⟨same, before⟩ := before
    have all : stage.tokens.length ≤ max parser.pos parser.tokens.length := by
      rw [same]
      exact Nat.le_max_right _ _
    exact ⟨move.tokens_eq.trans same, move.pos_le before all⟩
  · refine path.forall_mem (fun stage next before move => ?_) (Nat.le_max_left _ _)
    exact move.depth_le before (Nat.le_max_right _ _)

/-! ## What is read -/

section Reading

variable {parser after : Parser}

/-- A call that succeeds leaves the tokens behind those that its rule has read. -/
theorem exists_word_of_answer {call : Call α} {a : α}
    (answered : parser.answer call = (.ok a, after)) :
    ∃ word, parser.ahead = word ++ after.ahead ∧ after.pos = parser.pos + word.length ∧
      call.rule parser.room parser.ahead = (.ok a, after.ahead) := by
  rw [answer_eq_run] at answered
  have isEnd := call.leaves parser.room parser.ahead
  cases read : call.rule parser.room parser.ahead with
  | mk result left =>
    rw [read] at isEnd
    rw [run_of_eq read] at answered
    cases result with
    | error failure => cases answered
    | ok b =>
      cases answered
      obtain ⟨word, isAhead⟩ := isEnd
      rw [ahead_behind ⟨word, isAhead⟩]
      exact ⟨word, isAhead.symm, pos_behind isAhead.symm, rfl⟩

/-- Does a call read something whenever it succeeds?  Only a statement may be empty. -/
def Call.isSolid : Call α → Bool
  | .parse | .statement => false
  | .expression | .term | .condition | .assignment | .expect _ | .expectName => true

theorem Call.length_lt {call : Call α} (isSolid : call.isSolid = true) {room : Nat} {a : α}
    {ahead left : List Token} (read : call.rule room ahead = (.ok a, left)) :
    left.length < ahead.length := by
  suffices reads : ∃ word, ahead = word ++ left ∧ word ≠ [] by
    obtain ⟨word, rfl, someWord⟩ := reads
    rw [List.length_append]
    exact Nat.lt_add_of_pos_left (List.length_pos_iff.mpr someWord)
  cases call with
  | parse | statement => cases isSolid
  | expression =>
    obtain ⟨_, isAhead, -, -, rfl⟩ := (Grammar.fits_expression room ahead).exists_word read
    exact ⟨_, isAhead, a.tokens_ne_nil⟩
  | term =>
    obtain ⟨_, isAhead, -, -, rfl⟩ := (Grammar.fits_term ahead).exists_word read
    exact ⟨_, isAhead, a.tokens_ne_nil⟩
  | condition =>
    obtain ⟨_, isAhead, -, rfl⟩ := (Grammar.fits_condition room ahead).exists_word read
    exact ⟨_, isAhead, by simp [Condition.tokens]⟩
  | assignment =>
    obtain ⟨_, isAhead, -, rfl⟩ := (Grammar.fits_assignment room ahead).exists_word read
    exact ⟨_, isAhead, List.cons_ne_nil _ _⟩
  | expectName =>
    obtain ⟨_, isAhead, rfl⟩ := Grammar.Fits.expectName.exists_word read
    exact ⟨_, isAhead, List.cons_ne_nil _ _⟩
  | expect token =>
    by_cases found : ahead.head? = some token
    · obtain ⟨rest, rfl⟩ := List.head?_eq_some_iff.mp found
      cases (Rule.expect_cons token rest).symm.trans read
      exact ⟨[token], rfl, List.cons_ne_nil _ _⟩
    · cases (Rule.expect_of_ne found).symm.trans read

theorem pos_lt_of_answer {call : Call α} {a : α} (isSolid : call.isSolid = true)
    (answered : parser.answer call = (.ok a, after)) : parser.pos < after.pos := by
  obtain ⟨word, isAhead, isPos, read⟩ := exists_word_of_answer answered
  have shorter := Call.length_lt isSolid read
  rw [isAhead, List.length_append] at shorter
  omega

theorem eq_empty_of_pos_eq {whole : Statement}
    (answered : parser.answer .statement = (.ok whole, after)) (stays : after.pos = parser.pos) :
    whole = .empty ∧ (parser.current? = none ∨ parser.current? = some .kwElse) := by
  obtain ⟨word, isAhead, isPos, read⟩ := exists_word_of_answer answered
  replace read : Grammar.statement parser.room parser.ahead = (.ok whole, after.ahead) := read
  obtain ⟨tokens, isAheadToo, -, rfl⟩ := (Grammar.fits_statement _ _).exists_word read
  have noTokens : whole.tokens = [] := by
    rw [List.append_cancel_right (isAheadToo.symm.trans isAhead)]
    exact List.length_eq_zero_iff.mp (by omega)
  cases Statement.eq_empty_of_tokens noTokens
  rw [current?_eq]
  exact ⟨rfl, Grammar.head?_of_empty read⟩

/-- All operators bind at least as tightly as an expression asks, so it ends at none. -/
theorem current?_of_expression {expr : Expr}
    (answered : parser.answer .expression = (.ok expr, after)) (op : Operator) :
    after.current? ≠ some op.token := by
  obtain ⟨word, -, -, read⟩ := exists_word_of_answer answered
  rw [current?_eq]
  intro found
  have weak := Grammar.expression_stops read op found
  cases op <;> exact absurd weak (by decide)

end Reading

/-! ## Calls -/

/-- What is done for a call gives its answer by a disciplined course.  Calls that are solid read
something when they succeed, statements that read nothing are empty where they may be, and no
expression stops at an operator. -/
theorem disciplined_of_call (parser : Parser) :
    (∀ {α : Type} (call : Call α), (call.procedure parser).answer = parser.answer call ∧
      (call.procedure parser).Disciplined parser) ∧
    (∀ {α : Type} (call : Call α) (a : α) (after : Parser), call.isSolid = true →
      parser.answer call = (.ok a, after) → parser.pos < after.pos) ∧
    (∀ (whole : Statement) (after : Parser), parser.answer .statement = (.ok whole, after) →
      after.pos = parser.pos →
        whole = .empty ∧ (parser.current? = none ∨ parser.current? = some .kwElse)) ∧
    ∀ (expr : Expr) (after : Parser), parser.answer .expression = (.ok expr, after) →
      ∀ op : Operator, after.current? ≠ some op.token := by
  refine ⟨fun call => ?_, fun _ _ _ => pos_lt_of_answer, fun _ _ => eq_empty_of_pos_eq,
    fun _ _ => current?_of_expression⟩
  have follows := follows_call parser call
  exact ⟨follows.answer.trans (answer_eq_run parser call).symm, follows.disciplined⟩

/-- A parser in the tokens `x > ELSE`, with one level to open. -/
def inGreater (pos : Nat) : Parser := ⟨unplaced [.name "x", .greater, .kwElse], pos, 255⟩

/-- An expression at the name stops at the sign.  A statement at the `ELSE` is empty, and one at the
sign fails with as many levels open as before. -/
theorem disciplined_of_call_greater :
    (inGreater 0).answer .expression = (.ok (.var "x"), inGreater 1) ∧
      (inGreater 0).pos < (inGreater 1).pos ∧
      (∀ op : Operator, (inGreater 1).current? ≠ some op.token) ∧
    (inGreater 2).answer .statement = (.ok .empty, inGreater 2) ∧
      (inGreater 2).current? = some .kwElse ∧
    (Call.statement.procedure (inGreater 1)).Disciplined (inGreater 1) := by
  have shaped : (Expr.var "x").Shaped := trivial
  have stops : Grammar.Stops 1 [.greater, .kwElse] := Grammar.stops_cons_iff.mpr nofun
  have reads : Grammar.expression 1 (inGreater 0).ahead = (.ok (.var "x"), [.greater, .kwElse]) :=
    (Grammar.readsIf_expression 1 shaped stops).ok (by decide)
  have read : (inGreater 0).answer .expression = (.ok (.var "x"), inGreater 1) := run_of_eq reads
  have isEmpty : (inGreater 2).answer .statement = (.ok .empty, inGreater 2) := rfl
  refine ⟨read, ?_, ?_, isEmpty, ?_, ?_⟩
  · exact (disciplined_of_call _).2.1 .expression _ _ rfl read
  · exact (disciplined_of_call _).2.2.2 _ _ read
  · exact ((disciplined_of_call _).2.2.1 _ _ isEmpty rfl).2.resolve_left nofun
  · exact ((disciplined_of_call _).1 .statement).2

/-! The statement at the sign opens the last level and closes it again. -/

example : (Procedure.statement (inGreater 1)).stages.map (·.depth) = [256, 255] := rfl

end Parser

end MiniBasic
