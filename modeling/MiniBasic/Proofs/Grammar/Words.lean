import MiniBasic.Proofs.Grammar.Form
import MiniBasic.Proofs.Grammar.Steps
import MiniBasic.Tree.Shape
import MiniBasic.Tree.Tokens

/-!
# What the rules read

Every rule of the grammar fits the form of its tree: shaped trees, each with its tokens.

An expression of at least some level is a shaped tree of at least that level.  The operators of a
run are added to a tree that is already read, so `links` fits what is left of that form after the
tokens of this tree.  For the larger tree to be shaped, the next operator may not be tighter than
the tree so far.  That holds because a right operand takes all operators that are tighter than its
own (`climb_stops`).

The walk over the rule of statements keeps the words read so far in front (`Form.after`) and ends
with the tokens of the whole statement.
-/

namespace MiniBasic.Grammar

/-! ## Expressions -/

/-- Shaped expressions of at least some level. -/
def exprForm (least : Nat) : Form Expr := fun expr word =>
  expr.Shaped ∧ least ≤ expr.level ∧ word = expr.tokens

theorem fits_term (ahead : List Token) :
    Fits (exprForm negationBinding.level) ahead (term ahead) := by
  have named : ∀ token, Expectation.expression.Names token →
      ∃ expr after, exprForm negationBinding.level expr (token :: after) := by
    rintro _ (rfl | ⟨value, rfl⟩ | ⟨ident, rfl⟩)
    · exact ⟨.neg (.num 0), [.number 0], ⟨trivial, rfl⟩, Nat.le_refl _, rfl⟩
    · exact ⟨.num value, [], trivial, Nat.le_refl _, rfl⟩
    · exact ⟨.var ident, [], trivial, Nat.le_refl _, rfl⟩
  unfold term
  split
  next value rest => exact .done [.number value] ⟨trivial, Nat.le_refl _, rfl⟩
  next name rest => exact .done [.name name] ⟨trivial, Nat.le_refl _, rfl⟩
  next => exact .unexpected (by simp) named
  next => exact .unexpected (by simp) named

/-- Minus signs in front of what is as tight as they are. -/
theorem fits_negations {operand : Rule Expr}
    (inner : ∀ ahead, Fits (exprForm negationBinding.level) ahead (operand ahead)) (turns : Nat)
    (ahead : List Token) :
    Fits (exprForm negationBinding.level) ahead (negations operand turns ahead) := by
  induction turns generalizing ahead with
  | zero =>
    by_cases minus : ahead.head? = some .minus
    · obtain ⟨rest, rfl⟩ := List.head?_eq_some_iff.mp minus
      exact .tooDeep_here
    · rw [negations_of_ne operand 0 minus]
      exact inner ahead
  | succ turns ih =>
    by_cases minus : ahead.head? = some .minus
    · obtain ⟨rest, rfl⟩ := List.head?_eq_some_iff.mp minus
      rw [negations_succ_minus]
      have negated : ∀ expr word, exprForm negationBinding.level expr word →
          exprForm negationBinding.level (.neg expr) (.minus :: word) := by
        rintro expr _ ⟨shaped, tight, rfl⟩
        exact ⟨⟨shaped, Nat.le_antisymm expr.level_le tight⟩, Nat.le_refl _, rfl⟩
      refine Fits.append [.minus] (.bind (ih rest) ?_ ?_)
      · intro expr word isWord
        refine ⟨.neg expr, [], ?_⟩
        rw [List.append_nil]
        exact negated expr word isWord
      · intro expr word rest _ isWord
        refine .pure ?_
        show exprForm _ _ (.minus :: (word ++ []))
        rw [List.append_nil]
        exact negated expr word isWord
    · rw [negations_of_ne operand (turns + 1) minus]
      exact inner ahead

theorem fits_unary {operand : Nat → Rule Expr}
    (inner : ∀ ahead, Fits (exprForm negationBinding.level) ahead
      (operand negationBinding.rightLevel ahead)) (turns : Nat) (ahead : List Token) :
    Fits (exprForm negationBinding.level) ahead (unary operand turns ahead) := by
  by_cases minus : ahead.head? = some .minus
  · obtain ⟨rest, rfl⟩ := List.head?_eq_some_iff.mp minus
    rw [unary_minus]
    exact fits_negations inner turns _
  · rw [unary_of_ne operand turns minus]
    exact fits_term ahead

/-- A run ends where no operator of its level comes next. -/
theorem links_stops {operand : Nat → Rule Expr} {least turns : Nat} {left expr : Expr}
    {ahead rest : List Token} (read : links operand least turns left ahead = (.ok expr, rest)) :
    Stops least rest := by
  induction turns generalizing left ahead with
  | zero =>
    rcases stops_or_operator least ahead with stops | ⟨op, ahead, rfl, tight⟩
    · rw [links_of_stops operand 0 left stops] at read
      cases read
      exact stops
    · rw [links_zero_operator operand left tight] at read
      cases read
  | succ turns ih =>
    rcases stops_or_operator least ahead with stops | ⟨op, ahead, rfl, tight⟩
    · rw [links_of_stops operand _ left stops] at read
      cases read
      exact stops
    · rw [links_succ_operator operand turns left tight] at read
      obtain ⟨right, middle, -, read⟩ := Rule.bind_eq_ok_iff.mp read
      exact ih read

theorem climb_stops {room least : Nat} {expr : Expr} {ahead rest : List Token}
    (read : climb room least ahead = (.ok expr, rest)) : Stops least rest := by
  cases room with
  | zero => cases read
  | succ room =>
    obtain ⟨left, middle, -, read⟩ := Rule.bind_eq_ok_iff.mp read
    exact links_stops read

/-- The operators of a run, after a tree that the next of them may have on its left. -/
theorem fits_links {operand : Nat → Rule Expr} {least : Nat}
    (inner : ∀ op : Operator, ∀ ahead, Fits (exprForm op.binding.rightLevel) ahead
      (operand op.binding.rightLevel ahead))
    (ends : ∀ least expr ahead rest, operand least ahead = (.ok expr, rest) → Stops least rest)
    (turns : Nat) {left : Expr} {ahead : List Token} (shaped : left.Shaped)
    (tight : least ≤ left.level) (next : Stops (left.level + 1) ahead) :
    Fits ((exprForm least).after left.tokens) ahead (links operand least turns left ahead) := by
  induction turns generalizing left ahead with
  | zero =>
    rcases stops_or_operator least ahead with stops | ⟨op, rest, rfl, belongs⟩
    · rw [links_of_stops operand 0 left stops]
      exact .pure ⟨shaped, tight, List.append_nil _⟩
    · rw [links_zero_operator operand left belongs]
      exact .tooDeep_here
  | succ turns ih =>
    rcases stops_or_operator least ahead with stops | ⟨op, rest, rfl, belongs⟩
    · rw [links_of_stops operand _ left stops]
      exact .pure ⟨shaped, tight, List.append_nil _⟩
    · rw [links_succ_operator operand turns left belongs]
      have joined : ∀ right word, exprForm op.binding.rightLevel right word →
          (Expr.binary left op right).Shaped := by
        rintro right _ ⟨rightShaped, tighter, -⟩
        rw [op.rightLevel_binding] at tighter
        exact ⟨shaped, rightShaped, Nat.le_of_lt_succ (next op rfl), tighter⟩
      refine Fits.append [op.token] (.bind (inner op rest) ?_ ?_)
      · rintro right _ isWord
        refine ⟨.binary left op right, [], joined right _ isWord, belongs, ?_⟩
        rw [isWord.2.2, Expr.tokens, List.append_nil]
        rfl
      · rintro right word rest' read isWord
        have isTokens :
            left.tokens ++ ([op.token] ++ word) = (Expr.binary left op right).tokens := by
          rw [isWord.2.2]
          rfl
        rw [← Form.after_append, ← Form.after_append, isTokens]
        -- the right operand took all that is tighter, so the next operator may have it on its left
        have stops := ends _ _ _ _ read
        rw [op.rightLevel_binding] at stops
        exact ih (joined right word isWord) belongs stops

theorem fits_climb (room : Nat) {least : Nat} (le : least ≤ negationBinding.level)
    (ahead : List Token) : Fits (exprForm least) ahead (climb room least ahead) := by
  induction room generalizing least ahead with
  | zero => exact .tooDeep_here
  | succ room ih =>
    rw [climb_succ]
    refine .bind (fits_unary (ih (Nat.le_refl _)) room ahead) ?_ ?_
    · rintro expr _ ⟨shaped, tight, rfl⟩
      exact ⟨expr, [], shaped, Nat.le_trans le tight, List.append_nil _⟩
    · rintro expr _ rest _ ⟨shaped, tight, rfl⟩
      refine fits_links (fun op => ih ?_) (fun _ _ _ _ => climb_stops) room shaped
        (Nat.le_trans le tight) ?_
      · rw [op.rightLevel_binding]
        exact op.level_lt_negation
      · exact fun op _ => Nat.lt_succ_of_lt (Nat.lt_of_lt_of_le op.level_lt_negation tight)

theorem fits_expression (room : Nat) (ahead : List Token) :
    Fits (exprForm 1) ahead (expression room ahead) :=
  fits_climb room (by decide) ahead

theorem expression_stops {room : Nat} {expr : Expr} {ahead rest : List Token}
    (read : expression room ahead = (.ok expr, rest)) : Stops 1 rest :=
  climb_stops read

/-! ## Parts of statements -/

/-- Shaped conditions. -/
def conditionForm : Form Condition := fun condition word =>
  condition.Shaped ∧ word = condition.tokens

/-- Assignments of texts and of shaped expressions. -/
def assignmentForm : Form Assignment := fun setup word =>
  setup.value.Shaped ∧ word = setup.tokens

theorem fits_comparison (ahead : List Token) :
    Fits (fun relation word => word = [relation.token]) ahead (comparison ahead) := by
  have named : ∀ token, Expectation.comparison.Names token →
      ∃ (relation : Relation) (after : List Token), token :: after = [relation.token] := by
    rintro _ (rfl | rfl | rfl)
    · exact ⟨.equal, [], rfl⟩
    · exact ⟨.greater, [], rfl⟩
    · exact ⟨.less, [], rfl⟩
  unfold comparison
  split
  next rest => exact .done [.eqEq] rfl
  next rest => exact .done [.greater] rfl
  next rest => exact .done [.less] rfl
  next => exact .unexpected (by simp) named
  next => exact .unexpected (by simp) named

theorem fits_condition (room : Nat) (ahead : List Token) :
    Fits conditionForm ahead (condition room ahead) := by
  refine .bind (fits_expression room ahead) ?_ ?_
  · rintro left _ ⟨shaped, -, rfl⟩
    exact ⟨⟨.equal, left, .num 0⟩, [.eqEq, .number 0], ⟨shaped, trivial⟩, rfl⟩
  rintro left _ rest - ⟨leftShaped, -, rfl⟩
  refine .bind (fits_comparison rest) ?_ ?_
  · rintro relation _ rfl
    exact ⟨⟨relation, left, .num 0⟩, [.number 0], ⟨leftShaped, trivial⟩, rfl⟩
  rintro relation _ rest - rfl
  refine .bind (fits_expression room rest) ?_ ?_
  · rintro right _ ⟨shaped, -, rfl⟩
    exact ⟨⟨relation, left, right⟩, [], ⟨leftShaped, shaped⟩, by simp [Condition.tokens]⟩
  rintro right _ rest - ⟨rightShaped, -, rfl⟩
  exact .pure ⟨⟨leftShaped, rightShaped⟩, by simp [Condition.tokens]⟩

theorem fits_value (room : Nat) (ahead : List Token) :
    Fits (fun value word => value.Shaped ∧ word = value.tokens) ahead (value room ahead) := by
  by_cases isStr : ∃ text, ahead.head? = some (.str text)
  · obtain ⟨text, found⟩ := isStr
    obtain ⟨rest, rfl⟩ := List.head?_eq_some_iff.mp found
    exact .done [.str text] ⟨trivial, rfl⟩
  · rw [value_expr room (not_exists.mp isStr)]
    refine .bind (fits_expression room ahead) ?_ ?_
    · rintro body _ ⟨shaped, -, rfl⟩
      exact ⟨.expr body, [], shaped, List.append_nil _⟩
    · rintro body _ rest - ⟨shaped, -, rfl⟩
      exact .pure ⟨shaped, List.append_nil _⟩

theorem fits_assignment (room : Nat) (ahead : List Token) :
    Fits assignmentForm ahead (assignment room ahead) := by
  rw [assignment_eq]
  refine .bind .expectName ?_ ?_
  · rintro name _ rfl
    exact ⟨⟨name, .str ""⟩, [.assign, .str ""], trivial, rfl⟩
  rintro name _ rest - rfl
  refine .expect_bind rfl ⟨⟨name, .str ""⟩, [.str ""], trivial, rfl⟩ fun rest => ?_
  refine .bind (fits_value room rest) ?_ ?_
  · rintro value _ ⟨shaped, rfl⟩
    exact ⟨⟨name, value⟩, [], shaped, by simp [Assignment.tokens]⟩
  · rintro value _ rest - ⟨shaped, rfl⟩
    exact .pure ⟨shaped, by simp [Assignment.tokens]⟩

theorem fits_closing (ahead : List Token) :
    Fits (fun _ word => word = [.rparen]) ahead (closing ahead) := by
  by_cases found : ahead.head? = some .rparen
  · obtain ⟨rest, rfl⟩ := List.head?_eq_some_iff.mp found
    exact .done [.rparen] rfl
  · rw [closing_of_ne found]
    exact .wanted rfl

theorem fits_noParameters (ahead : List Token) :
    Fits (fun _ word => word = [.lparen, .rparen]) ahead (noParameters ahead) := by
  rw [noParameters_eq]
  refine .expect_bind rfl ⟨(), [.rparen], rfl⟩ fun rest => ?_
  refine (fits_closing rest).mono ?_
  rintro _ _ rfl
  rfl

theorem fits_elseWord (ahead : List Token) :
    Fits (fun _ word => word = [.kwElse]) ahead (elseWord ahead) := by
  by_cases found : ahead.head? = some .kwElse
  · obtain ⟨rest, rfl⟩ := List.head?_eq_some_iff.mp found
    exact .done [.kwElse] rfl
  · rw [elseWord_of_ne found]
    exact .wanted rfl

/-! ## Statements -/

/-- Shaped statements. -/
def statementForm : Form Statement := fun whole word => whole.Shaped ∧ word = whole.tokens

section Bodies

variable {room : Nat} (body : ∀ ahead, Fits statementForm ahead (statement room ahead))
include body

theorem fits_forWord (rest : List Token) :
    Fits statementForm (.kwFor :: rest) (statement (room + 1) (.kwFor :: rest)) := by
  rw [statement_forWord]
  refine Fits.append [.kwFor] (.bind (fits_assignment room rest) ?_ ?_)
  · rintro setup _ ⟨shaped, rfl⟩
    exact ⟨.forLoop setup (.num 0) .empty, [.kwTo, .number 0, .kwThen], ⟨shaped, trivial, trivial⟩,
      by simp [Statement.tokens, Expr.tokens]⟩
  rintro setup _ rest - ⟨setupShaped, rfl⟩
  refine .expect_bind rfl ⟨.forLoop setup (.num 0) .empty, [.number 0, .kwThen],
    ⟨setupShaped, trivial, trivial⟩, by simp [Statement.tokens, Expr.tokens]⟩ fun rest => ?_
  refine .bind (fits_expression room rest) ?_ ?_
  · rintro bound _ ⟨shaped, -, rfl⟩
    exact ⟨.forLoop setup bound .empty, [.kwThen], ⟨setupShaped, shaped, trivial⟩,
      by simp [Statement.tokens]⟩
  rintro bound _ rest - ⟨boundShaped, -, rfl⟩
  refine .expect_bind rfl ⟨.forLoop setup bound .empty, [], ⟨setupShaped, boundShaped, trivial⟩,
    by simp [Statement.tokens]⟩ fun rest => ?_
  refine .bind (body rest) ?_ ?_
  · rintro inner _ ⟨shaped, rfl⟩
    exact ⟨.forLoop setup bound inner, [], ⟨setupShaped, boundShaped, shaped⟩,
      by simp [Statement.tokens]⟩
  · rintro inner _ rest - ⟨shaped, rfl⟩
    exact .pure ⟨⟨setupShaped, boundShaped, shaped⟩, by simp [Statement.tokens]⟩

theorem fits_ifWord (rest : List Token) :
    Fits statementForm (.kwIf :: rest) (statement (room + 1) (.kwIf :: rest)) := by
  rw [statement_ifWord]
  refine Fits.append [.kwIf] (.bind (fits_condition room rest) ?_ ?_)
  · rintro cond _ ⟨shaped, rfl⟩
    exact ⟨.ifElse cond .empty .empty, [.kwThen, .kwElse], ⟨shaped, trivial, trivial⟩,
      by simp [Statement.tokens]⟩
  rintro cond _ rest - ⟨condShaped, rfl⟩
  refine .expect_bind rfl ⟨.ifElse cond .empty .empty, [.kwElse], ⟨condShaped, trivial, trivial⟩,
    by simp [Statement.tokens]⟩ fun rest => ?_
  refine .bind (body rest) ?_ ?_
  · rintro first _ ⟨shaped, rfl⟩
    exact ⟨.ifElse cond first .empty, [.kwElse], ⟨condShaped, shaped, trivial⟩,
      by simp [Statement.tokens]⟩
  rintro first _ rest - ⟨firstShaped, rfl⟩
  refine .bind (fits_elseWord rest) ?_ ?_
  · rintro _ _ rfl
    exact ⟨.ifElse cond first .empty, [], ⟨condShaped, firstShaped, trivial⟩,
      by simp [Statement.tokens]⟩
  rintro _ _ rest - rfl
  refine .bind (body rest) ?_ ?_
  · rintro second _ ⟨shaped, rfl⟩
    exact ⟨.ifElse cond first second, [], ⟨condShaped, firstShaped, shaped⟩,
      by simp [Statement.tokens]⟩
  · rintro second _ rest - ⟨shaped, rfl⟩
    exact .pure ⟨⟨condShaped, firstShaped, shaped⟩, by simp [Statement.tokens]⟩

theorem fits_funWord (rest : List Token) :
    Fits statementForm (.kwFun :: rest) (statement (room + 1) (.kwFun :: rest)) := by
  rw [statement_funWord]
  refine Fits.append [.kwFun] (.bind .expectName ?_ ?_)
  · rintro name _ rfl
    exact ⟨.funDef name .empty, [.lparen, .rparen, .arrow], trivial, rfl⟩
  rintro name _ rest - rfl
  refine .bind (fits_noParameters rest) ?_ ?_
  · rintro _ _ rfl
    exact ⟨.funDef name .empty, [.arrow], trivial, rfl⟩
  rintro _ _ rest - rfl
  refine .expect_bind rfl ⟨.funDef name .empty, [], trivial, rfl⟩ fun rest => ?_
  refine .bind (body rest) ?_ ?_
  · rintro inner _ ⟨shaped, rfl⟩
    exact ⟨.funDef name inner, [], shaped, by simp [Statement.tokens]⟩
  · rintro inner _ rest - ⟨shaped, rfl⟩
    exact .pure ⟨shaped, by simp [Statement.tokens]⟩

end Bodies

theorem fits_call (room : Nat) (name : String) (rest : List Token) :
    Fits statementForm (.name name :: .lparen :: rest)
      (statement (room + 1) (.name name :: .lparen :: rest)) := by
  rw [statement_call]
  refine Fits.append [.name name, .lparen] ?_
  exact .expect_bind rfl ⟨.funCall name, [], trivial, rfl⟩ fun rest => .pure ⟨trivial, rfl⟩

/-- A statement is a shaped tree, and it fails where no shaped tree goes on. -/
theorem fits_statement (room : Nat) (ahead : List Token) :
    Fits statementForm ahead (statement room ahead) := by
  induction room generalizing ahead with
  | zero => exact .tooDeep_here
  | succ room ih =>
    cases opening ahead with
    | nil => exact .done [] ⟨trivial, rfl⟩
    | elseWord rest => exact .done [] ⟨trivial, rfl⟩
    | forWord rest => exact fits_forWord ih rest
    | ifWord rest => exact fits_ifWord ih rest
    | funWord rest => exact fits_funWord ih rest
    | call name rest => exact fits_call room name rest
    | assign name rest =>
      rw [statement_assign]
      refine .bind (fits_assignment room _) ?_ ?_
      · rintro setup _ ⟨shaped, rfl⟩
        exact ⟨.assign setup, [], shaped, List.append_nil _⟩
      · rintro setup _ rest - ⟨shaped, rfl⟩
        exact .pure ⟨shaped, List.append_nil _⟩
    | expr opens =>
      rw [statement_expr room opens]
      refine .bind (fits_expression room ahead) ?_ ?_
      · rintro expr _ ⟨shaped, -, rfl⟩
        exact ⟨.expr expr, [], shaped, List.append_nil _⟩
      · rintro expr _ rest - ⟨shaped, -, rfl⟩
        exact .pure ⟨shaped, List.append_nil _⟩

end MiniBasic.Grammar
