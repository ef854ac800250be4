import MiniBasic.Proofs.Grammar.Steps
import MiniBasic.Tree.Shape
import MiniBasic.Tree.Tokens

/-!
# The room that a tree takes

The tokens of a shaped tree are read back as this tree where the room is at least its need, and
where it is less, the nesting is too deep.  No other failure comes first, since up to there every
token is in its place.

A rule that reads a value under a condition and is too deep otherwise (`Rule.ReadsIf`) is followed
by the next such rule, and the conditions are joined (`ReadsIf.bind`).  So the condition of a tree
is put together like its need: a conjunction for every maximum.

A run of operators is followed along its left operands (`climb_spine`).  They are read first, by
the same turns of the same loop, so the statement is about the loop from the start of the run up to
the end of a left operand, for any number of turns.
-/

namespace MiniBasic

/-! ## Needs -/

theorem Expr.not_need_le_zero (expr : Expr) : ¬ expr.need ≤ 0 := Nat.not_succ_le_zero _

theorem Statement.not_need_le_zero (whole : Statement) : ¬ whole.need ≤ 0 := by
  cases whole <;> exact Nat.not_succ_le_zero _

namespace Grammar

variable {α β : Type}

/-! ## Reading under a condition -/

/-- A rule reads a value if a condition holds, and is too deep if it does not. -/
structure Rule.ReadsIf (rule : Rule α) (enough : Prop) (ahead : List Token) (a : α)
    (rest : List Token) : Prop where
  ok : enough → rule ahead = (.ok a, rest)
  tooDeep : ¬ enough → ∃ left, rule ahead = (.error .tooDeep, left)

namespace Rule.ReadsIf

variable {rule : Rule α} {next : α → Rule β} {enough more : Prop}
  {ahead middle rest : List Token} {a : α} {b : β}

theorem of_ok (read : rule ahead = (.ok a, rest)) : rule.ReadsIf True ahead a rest :=
  ⟨fun _ => read, fun never => absurd trivial never⟩

theorem of_tooDeep {left : List Token} (deep : rule ahead = (.error .tooDeep, left))
    (never : ¬ enough) : rule.ReadsIf enough ahead a rest :=
  ⟨fun holds => absurd holds never, fun _ => ⟨left, deep⟩⟩

theorem of_eq {other : Rule α} {ahead' : List Token} (same : rule ahead = other ahead')
    (reads : other.ReadsIf enough ahead' a rest) : rule.ReadsIf enough ahead a rest :=
  ⟨fun holds => same.trans (reads.ok holds), fun never => same ▸ reads.tooDeep never⟩

theorem congr (reads : rule.ReadsIf enough ahead a rest) (same : more ↔ enough) :
    rule.ReadsIf more ahead a rest :=
  ⟨fun holds => reads.ok (same.mp holds), fun never => reads.tooDeep (mt same.mpr never)⟩

/-- Two rules after each other need what both need. -/
theorem bind (first : rule.ReadsIf enough ahead a middle)
    (second : (next a).ReadsIf more middle b rest) :
    (rule >>= next).ReadsIf (enough ∧ more) ahead b rest where
  ok := by
    rintro ⟨holds, holdsToo⟩
    rw [bind_of_ok (first.ok holds)]
    exact second.ok holdsToo
  tooDeep := by
    intro never
    by_cases holds : enough
    · rw [bind_of_ok (first.ok holds)]
      exact second.tooDeep fun holdsToo => never ⟨holds, holdsToo⟩
    · obtain ⟨left, deep⟩ := first.tooDeep holds
      exact ⟨left, bind_of_error deep⟩

/-- A rule that needs no room, and one after it. -/
theorem ok_bind (first : rule ahead = (.ok a, middle))
    (second : (next a).ReadsIf more middle b rest) :
    (rule >>= next).ReadsIf more ahead b rest :=
  ((of_ok first).bind second).congr (by simp)

/-- The value is only wrapped. -/
theorem map (wrap : α → β) (reads : rule.ReadsIf enough ahead a rest) :
    (rule >>= fun a => (pure (wrap a) : Rule β)).ReadsIf enough ahead (wrap a) rest :=
  (reads.bind (of_ok rfl)).congr (by simp)

end Rule.ReadsIf

open Rule (ReadsIf)

/-! ## Expressions -/

/-- No operator belongs to a run at the tightest level. -/
theorem stops_negation (ahead : List Token) : Stops negationBinding.level ahead :=
  fun op _ => op.level_lt_negation

theorem readsIf_negations {operand : Rule Expr}
    (leaf : ∀ (expr : Expr) (rest : List Token), expr.signs = 0 →
      negationBinding.level ≤ expr.level → operand (expr.tokens ++ rest) = (.ok expr, rest))
    {expr : Expr} (shaped : expr.Shaped) (tight : negationBinding.level ≤ expr.level)
    (turns : Nat) (rest : List Token) :
    (negations operand turns).ReadsIf (expr.signs ≤ turns) (expr.tokens ++ rest) expr rest := by
  induction expr generalizing turns with
  | num | var =>
    refine (ReadsIf.of_ok ?_).congr (iff_true_intro (Nat.zero_le turns))
    rw [negations_of_ne operand turns (by simp [Expr.tokens])]
    exact leaf _ rest rfl (Nat.le_refl _)
  | neg inner ih =>
    cases turns with
    | zero => exact .of_tooDeep (negations_zero_minus operand _) (Nat.not_succ_le_zero _)
    | succ turns =>
      have reads := (ih shaped.1 (Nat.le_of_eq shaped.2.symm) turns).map Expr.neg
      refine ⟨fun holds => ?_, fun never => ?_⟩
      · exact reads.ok (Nat.le_of_succ_le_succ holds)
      · exact reads.tooDeep fun holds => never (Nat.succ_le_succ holds)
  | binary left op right => exact absurd tight Expr.not_tight_binary

/-- A number or a name is read wherever there is any room. -/
theorem climb_leaf (room : Nat) {expr : Expr} (rest : List Token) (noSigns : expr.signs = 0)
    (tight : negationBinding.level ≤ expr.level) :
    climb (room + 1) negationBinding.level (expr.tokens ++ rest) = (.ok expr, rest) := by
  cases expr with
  | num | var =>
    rw [climb_succ]
    exact links_of_stops _ _ _ (stops_negation rest)
  | neg inner => cases noSigns
  | binary left op right => exact absurd tight Expr.not_tight_binary

theorem readsIf_unary (room : Nat) {expr : Expr} (shaped : expr.Shaped)
    (tight : negationBinding.level ≤ expr.level) (rest : List Token) :
    (unary (climb room) room).ReadsIf (expr.signs ≤ room) (expr.tokens ++ rest) expr rest := by
  cases expr with
  | num | var =>
    refine (ReadsIf.of_ok ?_).congr (iff_true_intro (Nat.zero_le room))
    rfl
  | neg inner =>
    cases room with
    | zero => exact .of_tooDeep (unary_minus _ 0 _) (Nat.not_succ_le_zero _)
    | succ room =>
      have reads :=
        readsIf_negations (fun _ rest => climb_leaf room rest) shaped tight (room + 1) rest
      exact ⟨reads.ok, reads.tooDeep⟩
  | binary left op right => exact absurd tight Expr.not_tight_binary

section Spine

variable {room : Nat}
  (inner : ∀ {expr : Expr} {least : Nat} {rest : List Token}, expr.Shaped → least ≤ expr.level →
    Stops least rest →
      (climb room least).ReadsIf (expr.need ≤ room) (expr.tokens ++ rest) expr rest)
include inner

/-- From the start of a run to the end of a left operand: where the operand takes no more turns
and no more room than there are, the loop goes on behind it with the turns that remain. -/
theorem climb_spine {least : Nat} (turns : Nat) {expr : Expr} (shaped : expr.Shaped)
    (tight : least ≤ expr.level) {rest : List Token} (stops : Stops (expr.level + 1) rest) :
    (expr.runLength ≤ turns ∧ expr.innerNeed ≤ room →
      (unary (climb room) room >>= links (climb room) least turns) (expr.tokens ++ rest) =
        links (climb room) least (turns - expr.runLength) expr rest) ∧
    (¬ (expr.runLength ≤ turns ∧ expr.innerNeed ≤ room) → ∃ left,
      (unary (climb room) room >>= links (climb room) least turns) (expr.tokens ++ rest) =
        (.error .tooDeep, left)) := by
  induction expr generalizing rest with
  | num | var | neg =>
    have reads := readsIf_unary room shaped (Nat.le_refl _) rest
    constructor
    · rintro ⟨-, holds⟩
      exact Rule.bind_of_ok (reads.ok holds)
    · intro never
      obtain ⟨left, deep⟩ := reads.tooDeep fun holds => never ⟨Nat.zero_le turns, holds⟩
      exact ⟨left, Rule.bind_of_error deep⟩
  | binary first op right ih _ =>
    obtain ⟨firstShaped, rightShaped, firstTight, rightTight⟩ := shaped
    -- no operator that belongs to the left operand follows it, since this one is no tighter
    have next : Stops (first.level + 1) (op.token :: (right.tokens ++ rest)) := by
      rw [stops_cons_iff]
      intro op' isOp
      rw [Operator.ofToken?_token] at isOp
      cases isOp
      exact Nat.lt_succ_of_le firstTight
    have ih := ih firstShaped (Nat.le_trans tight firstTight) next
    have rightLevel : op.binding.rightLevel ≤ right.level := op.rightLevel_binding ▸ rightTight
    have rightStops : Stops op.binding.rightLevel rest := op.rightLevel_binding ▸ stops
    have reads := inner rightShaped rightLevel rightStops
    have isTokens : (Expr.binary first op right).tokens ++ rest =
        first.tokens ++ op.token :: (right.tokens ++ rest) := by
      rw [Expr.tokens, List.append_assoc]
      rfl
    rw [isTokens, Expr.runLength, Expr.innerNeed_binary, Nat.max_le]
    -- either the loop came behind the left operand, or it ended too deep in it
    by_cases reached : first.runLength ≤ turns ∧ first.innerNeed ≤ room
    · rw [ih.1 reached]
      cases left : turns - first.runLength with
      | zero =>
        rw [links_zero_operator _ _ tight]
        refine ⟨fun holds => ?_, fun _ => ⟨_, rfl⟩⟩
        omega
      | succ remaining =>
        rw [links_succ_operator _ _ _ tight]
        have turnsLeft : turns - (first.runLength + 1) = remaining := by omega
        have turnsEnough : first.runLength + 1 ≤ turns := by omega
        rw [turnsLeft]
        constructor
        · rintro ⟨-, -, holds⟩
          exact Rule.bind_of_ok (reads.ok holds)
        · intro never
          obtain ⟨left, deep⟩ := reads.tooDeep fun holds => never ⟨turnsEnough, reached.2, holds⟩
          exact ⟨left, Rule.bind_of_error deep⟩
    · refine ⟨fun holds => ?_, fun _ => ih.2 reached⟩
      exact absurd ⟨Nat.le_of_succ_le holds.1, holds.2.1⟩ reached

end Spine

/-- A shaped expression is read where the room is at least its need. -/
theorem readsIf_climb (room : Nat) {least : Nat} {expr : Expr} (shaped : expr.Shaped)
    (tight : least ≤ expr.level) {rest : List Token} (stops : Stops least rest) :
    (climb room least).ReadsIf (expr.need ≤ room) (expr.tokens ++ rest) expr rest := by
  induction room generalizing least expr rest with
  | zero => exact .of_tooDeep (climb_zero least _) expr.not_need_le_zero
  | succ room ih =>
    have next : Stops (expr.level + 1) rest := stops.mono (Nat.le_succ_of_le tight)
    have spine :=
      climb_spine (fun shaped tight stops => ih shaped tight stops) room shaped tight next
    rw [climb_succ]
    constructor
    · intro holds
      rw [spine.1 (Expr.need_le_succ_iff.mp holds)]
      exact links_of_stops _ _ _ stops
    · intro never
      exact spine.2 (mt Expr.need_le_succ_iff.mpr never)

theorem readsIf_expression (room : Nat) {expr : Expr} (shaped : expr.Shaped) {rest : List Token}
    (stops : Stops 1 rest) :
    (expression room).ReadsIf (expr.need ≤ room) (expr.tokens ++ rest) expr rest :=
  readsIf_climb room shaped expr.one_le_level stops

/-! ## What may follow -/

/-- Where a statement may end: at the end of the input or before the second branch of a
conditional. -/
def Ends (rest : List Token) : Prop := rest = [] ∨ rest.head? = some .kwElse

theorem Ends.stops {rest : List Token} (ends : Ends rest) (least : Nat) : Stops least rest := by
  intro op found
  rcases ends with rfl | isElse
  · cases found
  · rw [found] at isElse
    cases op <;> cases isElse

/-- A token that stands for no operator stops every run. -/
theorem stops_token (token : Token) (noOp : Operator.ofToken? token = none) (least : Nat)
    (rest : List Token) : Stops least (token :: rest) := by
  rw [stops_cons_iff, noOp]
  intro op isOp
  cases isOp

theorem ofToken?_relation (relation : Relation) : Operator.ofToken? relation.token = none := by
  cases relation <;> rfl

theorem opensExpr_tokens (expr : Expr) {rest : List Token}
    (noBracket : rest.head? ≠ some .lparen) (noAssign : rest.head? ≠ some .assign) :
    OpensExpr (expr.tokens ++ rest) := by
  induction expr generalizing rest with
  | num | neg => trivial
  | var name =>
    show OpensExpr (.name name :: rest)
    cases rest with
    | nil => trivial
    | cons token rest =>
      cases token with
      | lparen => exact absurd rfl noBracket
      | assign => exact absurd rfl noAssign
      | _ => trivial
  | binary left op right ih _ =>
    rw [Expr.tokens, List.append_assoc]
    exact ih (by cases op <;> simp [Operator.token]) (by cases op <;> simp [Operator.token])

theorem head?_tokens_ne_str (expr : Expr) (rest : List Token) (text : String) :
    (expr.tokens ++ rest).head? ≠ some (.str text) := by
  induction expr generalizing rest with
  | num | var | neg => simp [Expr.tokens]
  | binary left op right ih _ =>
    rw [Expr.tokens, List.append_assoc]
    exact ih _

/-! ## Statements -/

theorem readsIf_condition (room : Nat) {condition : Condition} (shaped : condition.Shaped)
    {rest : List Token} (stops : Stops 1 rest) :
    (Grammar.condition room).ReadsIf (condition.need ≤ room) (condition.tokens ++ rest) condition
      rest := by
  obtain ⟨relation, left, right⟩ := condition
  have isTokens : Condition.tokens ⟨relation, left, right⟩ ++ rest =
      left.tokens ++ relation.token :: (right.tokens ++ rest) := by
    simp [Condition.tokens]
  have compared : comparison (relation.token :: (right.tokens ++ rest)) =
      (.ok relation, right.tokens ++ rest) := by
    cases relation <;> rfl
  have first := readsIf_expression room shaped.1
    (stops_token _ (ofToken?_relation relation) 1 (right.tokens ++ rest))
  have second := (readsIf_expression room shaped.2 stops).map (Condition.mk relation left)
  rw [isTokens, Condition.need, Nat.max_le]
  exact first.bind (.ok_bind compared second)

theorem readsIf_value (room : Nat) {value : Value} (shaped : value.Shaped) {rest : List Token}
    (stops : Stops 1 rest) :
    (Grammar.value room).ReadsIf (value.need ≤ room) (value.tokens ++ rest) value rest := by
  cases value with
  | str text =>
    exact (ReadsIf.of_ok (value_str room text rest)).congr (iff_true_intro (Nat.zero_le room))
  | expr body =>
    have reads := (readsIf_expression room shaped stops).map Value.expr
    exact .of_eq (value_expr room (head?_tokens_ne_str body rest)) reads

theorem readsIf_assignment (room : Nat) {setup : Assignment} (shaped : setup.value.Shaped)
    {rest : List Token} (stops : Stops 1 rest) :
    (assignment room).ReadsIf (setup.value.need ≤ room) (setup.tokens ++ rest) setup rest := by
  rw [assignment_eq]
  refine .ok_bind (Rule.expectName_cons setup.name _) (.ok_bind (Rule.expect_cons .assign _) ?_)
  exact (readsIf_value room shaped stops).map (Assignment.mk setup.name)

/-- A shaped statement is read where the room is at least its need. -/
theorem readsIf_statement (room : Nat) {whole : Statement} (shaped : whole.Shaped)
    {rest : List Token} (ends : Ends rest) :
    (statement room).ReadsIf (whole.need ≤ room) (whole.tokens ++ rest) whole rest := by
  induction room generalizing whole rest with
  | zero => exact .of_tooDeep (statement_zero _) whole.not_need_le_zero
  | succ room ih =>
    cases whole with
    | empty =>
      refine (ReadsIf.of_ok ?_).congr (iff_true_intro (Nat.le_add_left 1 room))
      rcases ends with rfl | isElse
      · exact statement_nil room
      · obtain ⟨rest, rfl⟩ := List.head?_eq_some_iff.mp isElse
        exact statement_elseWord room rest
    | expr body =>
      have reads := (readsIf_expression room shaped (ends.stops 1)).map Statement.expr
      refine (ReadsIf.of_eq (statement_expr room ?_) reads).congr Nat.add_le_add_iff_right
      rcases ends with rfl | isElse
      · exact opensExpr_tokens body (by simp) (by simp)
      · exact opensExpr_tokens body (by simp [isElse]) (by simp [isElse])
    | assign setup =>
      have reads := (readsIf_assignment room shaped (ends.stops 1)).map Statement.assign
      exact (ReadsIf.of_eq (statement_assign room _ setup.name) reads).congr
        Nat.add_le_add_iff_right
    | ifElse cond first second =>
      have isTokens : (Statement.ifElse cond first second).tokens ++ rest =
          .kwIf :: (cond.tokens ++ .kwThen :: (first.tokens ++ .kwElse ::
            (second.tokens ++ rest))) := by
        simp [Statement.tokens]
      rw [isTokens, Statement.need, Nat.add_le_add_iff_right, Nat.max_le, Nat.max_le]
      have condRead := readsIf_condition room shaped.1
        (stops_token .kwThen rfl 1 (first.tokens ++ .kwElse :: (second.tokens ++ rest)))
      have firstEnds : Ends (.kwElse :: (second.tokens ++ rest)) := Or.inr rfl
      have firstRead := ih shaped.2.1 firstEnds
      have secondRead := (ih shaped.2.2 ends).map (Statement.ifElse cond first)
      exact .of_eq (statement_ifWord room _) (condRead.bind (.ok_bind (Rule.expect_cons .kwThen _)
        (firstRead.bind (.ok_bind (elseWord_cons _) secondRead))))
    | forLoop setup bound body =>
      have isTokens : (Statement.forLoop setup bound body).tokens ++ rest =
          .kwFor :: (setup.tokens ++ .kwTo :: (bound.tokens ++ .kwThen ::
            (body.tokens ++ rest))) := by
        simp [Statement.tokens]
      rw [isTokens, Statement.need, Nat.add_le_add_iff_right, Nat.max_le, Nat.max_le]
      have setupRead := readsIf_assignment room shaped.1
        (stops_token .kwTo rfl 1 (bound.tokens ++ .kwThen :: (body.tokens ++ rest)))
      have boundRead := readsIf_expression room shaped.2.1
        (stops_token .kwThen rfl 1 (body.tokens ++ rest))
      have bodyRead := (ih shaped.2.2 ends).map (Statement.forLoop setup bound)
      exact .of_eq (statement_forWord room _) (setupRead.bind (.ok_bind (Rule.expect_cons .kwTo _)
        (boundRead.bind (.ok_bind (Rule.expect_cons .kwThen _) bodyRead))))
    | funDef name body =>
      have bodyShaped : body.Shaped := shaped
      have bodyRead := (ih bodyShaped ends).map (Statement.funDef name)
      have brackets : noParameters (.lparen :: .rparen :: .arrow :: (body.tokens ++ rest)) =
          (.ok (), .arrow :: (body.tokens ++ rest)) := rfl
      refine (ReadsIf.of_eq (statement_funWord room _) ?_).congr Nat.add_le_add_iff_right
      exact .ok_bind (Rule.expectName_cons name _) (.ok_bind brackets
        (.ok_bind (Rule.expect_cons .arrow _) bodyRead))
    | funCall name =>
      refine (ReadsIf.of_ok ?_).congr (iff_true_intro (Nat.le_add_left 1 room))
      exact statement_call room _ name

/-- A shaped statement alone is a program. -/
theorem readsIf_program (room : Nat) {whole : Statement} (shaped : whole.Shaped) :
    (program room).ReadsIf (whole.need ≤ room) whole.tokens whole [] := by
  have reads := readsIf_statement room shaped (Or.inl rfl : Ends [])
  rw [List.append_nil] at reads
  have finished : (finish >>= fun _ => (pure whole : Rule Statement)) [] = (.ok whole, []) := rfl
  exact (reads.bind (.of_ok finished)).congr (by simp)

end Grammar

end MiniBasic
