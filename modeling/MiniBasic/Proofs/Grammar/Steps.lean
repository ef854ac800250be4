import MiniBasic.Grammar.Statement

/-!
# The steps of the rules

What each rule does with each sort of input, one equation a sort.  Every other statement about the
grammar rests on these equations and never opens a rule.

Three questions decide what is done next.  In a run of operators it is whether an operator of the
run comes next (`Stops`, `stops_or_operator`).  In front of an operand it is whether a minus sign
does.  At the head of a statement it is the first token, or the first two after a name
(`Opening`).
-/

namespace MiniBasic.Grammar

variable {α β : Type}

/-! ## Single tokens -/

namespace Rule

theorem expect_cons (token : Token) (rest : List Token) :
    expect token (token :: rest) = (.ok (), rest) :=
  if_pos rfl

theorem expect_of_ne {token : Token} {ahead : List Token} (other : ahead.head? ≠ some token) :
    expect token ahead = (.error (.unexpected (.token token) none), ahead) :=
  if_neg other

theorem expectName_cons (ident : String) (rest : List Token) :
    expectName (.name ident :: rest) = (.ok ident, rest) := rfl

theorem bind_assoc {γ : Type} (rule : Rule α) (next : α → Rule β) (last : β → Rule γ) :
    rule >>= next >>= last = rule >>= fun a => next a >>= last := by
  funext ahead
  rw [bind_apply, bind_apply, bind_apply]
  cases rule ahead with
  | mk result rest => cases result <;> rfl

/-- A rule goes on from where the first part came. -/
theorem bind_of_ok {rule : Rule α} {next : α → Rule β} {ahead rest : List Token} {a : α}
    (first : rule ahead = (.ok a, rest)) : (rule >>= next) ahead = next a rest := by
  rw [bind_apply, first]

/-- A rule fails where the first part did. -/
theorem bind_of_error {rule : Rule α} {next : α → Rule β} {ahead rest : List Token}
    {failure : Failure} (first : rule ahead = (.error failure, rest)) :
    (rule >>= next) ahead = (.error failure, rest) := by
  rw [bind_apply, first]

/-- Two rules read a value if the first reads one from which the second goes on. -/
theorem bind_eq_ok_iff {rule : Rule α} {next : α → Rule β} {ahead rest : List Token} {b : β} :
    (rule >>= next) ahead = (.ok b, rest) ↔
      ∃ a middle, rule ahead = (.ok a, middle) ∧ next a middle = (.ok b, rest) := by
  rw [bind_apply]
  constructor
  · intro read
    split at read
    next a middle first => exact ⟨a, middle, first, read⟩
    next => cases read
  · rintro ⟨a, middle, first, second⟩
    rw [first]
    exact second

/-- Two rules fail where the first does, or where the second does after it. -/
theorem bind_eq_error_iff {rule : Rule α} {next : α → Rule β} {ahead rest : List Token}
    {failure : Failure} :
    (rule >>= next) ahead = (.error failure, rest) ↔ rule ahead = (.error failure, rest) ∨
      ∃ a middle, rule ahead = (.ok a, middle) ∧ next a middle = (.error failure, rest) := by
  rw [bind_apply]
  constructor
  · intro failed
    split at failed
    next a middle first => exact Or.inr ⟨a, middle, first, failed⟩
    next failure' middle first =>
      cases failed
      exact Or.inl first
  · rintro (first | ⟨a, middle, first, second⟩)
    · rw [first]
    · rw [first]
      exact second

end Rule

/-! ## Operands -/

section Signs

variable (operand : Rule Expr) (operands : Nat → Rule Expr) (turns : Nat)

theorem negations_zero_minus (rest : List Token) :
    negations operand 0 (.minus :: rest) = (.error .tooDeep, .minus :: rest) := rfl

theorem negations_succ_minus (rest : List Token) :
    negations operand (turns + 1) (.minus :: rest) =
      (negations operand turns >>= fun inner => (pure (.neg inner) : Rule Expr)) rest := rfl

theorem negations_of_ne {ahead : List Token} (other : ahead.head? ≠ some .minus) :
    negations operand turns ahead = operand ahead := by
  cases turns <;> rw [negations, Rule.head_bind_apply, if_neg other]

theorem unary_minus (rest : List Token) :
    unary operands turns (.minus :: rest) =
      negations (operands negationBinding.rightLevel) turns (.minus :: rest) := rfl

theorem unary_of_ne {ahead : List Token} (other : ahead.head? ≠ some .minus) :
    unary operands turns ahead = term ahead := by
  rw [unary, Rule.head_bind_apply, if_neg other]

end Signs

/-! ## Runs of operators -/

/-- No operator of at least level `least` comes next. -/
def Stops (least : Nat) (ahead : List Token) : Prop :=
  ∀ op : Operator, ahead.head? = some op.token → op.binding.level < least

theorem stops_nil (least : Nat) : Stops least [] := by
  intro op found
  cases found

theorem stops_cons_iff {least : Nat} {token : Token} {rest : List Token} :
    Stops least (token :: rest) ↔
      ∀ op, Operator.ofToken? token = some op → op.binding.level < least := by
  simp only [Stops, List.head?_cons, Option.some.injEq, Operator.ofToken?_eq_some_iff]

/-- What stops a run at a level stops it at a tighter one. -/
theorem Stops.mono {least tighter : Nat} {ahead : List Token} (stops : Stops least ahead)
    (le : least ≤ tighter) : Stops tighter ahead :=
  fun op found => Nat.lt_of_lt_of_le (stops op found) le

/-- Only the next token matters. -/
theorem Stops.of_head?_eq {least : Nat} {ahead other : List Token} (stops : Stops least ahead)
    (same : other.head? = ahead.head?) : Stops least other :=
  fun op found => stops op (same ▸ found)

/-- Either no operator comes next that belongs to the run, or one does. -/
theorem stops_or_operator (least : Nat) (ahead : List Token) :
    Stops least ahead ∨ ∃ (op : Operator) (rest : List Token),
      ahead = op.token :: rest ∧ least ≤ op.binding.level := by
  cases ahead with
  | nil => exact Or.inl (stops_nil least)
  | cons token rest =>
    rw [stops_cons_iff]
    cases isOp : Operator.ofToken? token with
    | none => exact Or.inl (by simp)
    | some op =>
      rcases Nat.lt_or_ge op.binding.level least with weak | tight
      · exact Or.inl (by simpa using weak)
      · exact Or.inr ⟨op, rest, by rw [Operator.ofToken?_eq_some_iff.mp isOp], tight⟩

section Links

variable (operand : Nat → Rule Expr) {least : Nat} (turns : Nat) (left : Expr)

theorem links_of_stops {ahead : List Token} (stops : Stops least ahead) :
    links operand least turns left ahead = (.ok left, ahead) := by
  cases found : ahead.head?.bind Operator.ofToken? with
  | none => cases turns <;> rw [links, Rule.head_bind_apply, found] <;> rfl
  | some op =>
    obtain ⟨token, isHead, isOp⟩ := Option.bind_eq_some_iff.mp found
    rw [Operator.ofToken?_eq_some_iff.mp isOp] at isHead
    have weak := stops op isHead
    cases turns <;> rw [links, Rule.head_bind_apply, found] <;> simp only [weak, if_true] <;> rfl

theorem links_zero_operator {op : Operator} (tight : least ≤ op.binding.level)
    (rest : List Token) :
    links operand least 0 left (op.token :: rest) = (.error .tooDeep, op.token :: rest) := by
  rw [links, Rule.head_bind_apply, List.head?_cons, Option.bind_some, Operator.ofToken?_token]
  simp only [Nat.not_lt.mpr tight, if_false]
  rfl

theorem links_succ_operator {op : Operator} (tight : least ≤ op.binding.level)
    (rest : List Token) :
    links operand least (turns + 1) left (op.token :: rest) =
      (operand op.binding.rightLevel >>= fun right =>
        links operand least turns (.binary left op right)) rest := by
  rw [links, Rule.head_bind_apply, List.head?_cons, Option.bind_some, Operator.ofToken?_token]
  simp only [Nat.not_lt.mpr tight, if_false]
  rfl

end Links

theorem climb_zero (least : Nat) (ahead : List Token) :
    climb 0 least ahead = (.error .tooDeep, ahead) := rfl

theorem climb_succ (room least : Nat) :
    climb (room + 1) least = unary (climb room) room >>= links (climb room) least room := rfl

/-! ## Parts of statements -/

/-- What is assigned: a text or an expression. -/
def value (room : Nat) : Rule Value := do
  match ← Rule.head with
  | some (.str text) =>
    Rule.advance
    return .str text
  | _ => return .expr (← expression room)

theorem value_str (room : Nat) (text : String) (rest : List Token) :
    value room (.str text :: rest) = (.ok (.str text), rest) := rfl

theorem value_expr (room : Nat) {ahead : List Token}
    (other : ∀ text, ahead.head? ≠ some (.str text)) :
    value room ahead =
      (expression room >>= fun body => (pure (.expr body) : Rule Value)) ahead := by
  cases ahead with
  | nil => rfl
  | cons token rest =>
    cases token with
    | str text => exact absurd rfl (other text)
    | _ => rfl

/-- An assignment is a name, the sign of assignment and a value. -/
theorem assignment_eq (room : Nat) :
    assignment room = (do
      let name ← Rule.expectName
      Rule.expect .assign
      let value ← value room
      return { name, value } : Rule Assignment) := by
  unfold assignment
  congr
  funext name
  congr
  funext _ ahead
  by_cases isStr : ∃ text, ahead.head? = some (.str text)
  · obtain ⟨text, found⟩ := isStr
    obtain ⟨rest, rfl⟩ := List.head?_eq_some_iff.mp found
    rfl
  · rw [Rule.bind_apply (value room), value_expr room (not_exists.mp isStr), ← Rule.bind_apply,
      Rule.bind_assoc]
    cases ahead with
    | nil => rfl
    | cons token rest =>
      cases token with
      | str text => exact absurd ⟨text, rfl⟩ isStr
      | _ => rfl

/-- The closing bracket after the name of a function that is defined. -/
def closing : Rule Unit := do
  match ← Rule.head with
  | none | some .rparen => Rule.expect .rparen
  | some _ => Rule.unexpectedBut (.token .rparen) .noParameters

theorem noParameters_eq : noParameters = Rule.expect .lparen >>= fun _ => closing := rfl

theorem closing_cons (rest : List Token) : closing (.rparen :: rest) = (.ok (), rest) := rfl

/-- What stands between the brackets is a parameter, but the end of the input is none. -/
theorem closing_of_ne {ahead : List Token} (other : ahead.head? ≠ some .rparen) :
    closing ahead = (.error (.unexpected (.token .rparen)
      (if ahead.head?.isNone then none else some .noParameters)), ahead) := by
  cases ahead with
  | nil => rfl
  | cons token rest =>
    cases token with
    | rparen => exact absurd rfl other
    | _ => rfl

theorem elseWord_cons (rest : List Token) : elseWord (.kwElse :: rest) = (.ok (), rest) := rfl

/-- Only where the input ends is the second branch said to be missing. -/
theorem elseWord_of_ne {ahead : List Token} (other : ahead.head? ≠ some .kwElse) :
    elseWord ahead = (.error (.unexpected (.token .kwElse)
      (if ahead.head?.isNone then some .writeElse else none)), ahead) := by
  cases ahead with
  | nil => rfl
  | cons token rest => exact Rule.expect_of_ne other

/-! ## Heads of statements -/

/-- A statement that starts here can only be an expression. -/
def OpensExpr : List Token → Prop
  | [] | .kwElse :: _ | .kwFor :: _ | .kwIf :: _ | .kwFun :: _ => False
  | .name _ :: .lparen :: _ | .name _ :: .assign :: _ => False
  | _ => True

/-- The sorts of input that a statement tells apart. -/
inductive Opening : List Token → Prop where
  | nil : Opening []
  | elseWord (rest : List Token) : Opening (.kwElse :: rest)
  | forWord (rest : List Token) : Opening (.kwFor :: rest)
  | ifWord (rest : List Token) : Opening (.kwIf :: rest)
  | funWord (rest : List Token) : Opening (.kwFun :: rest)
  | call (name : String) (rest : List Token) : Opening (.name name :: .lparen :: rest)
  | assign (name : String) (rest : List Token) : Opening (.name name :: .assign :: rest)
  | expr {ahead : List Token} (opens : OpensExpr ahead) : Opening ahead

theorem opening (ahead : List Token) : Opening ahead := by
  by_cases opens : OpensExpr ahead
  · exact .expr opens
  · unfold OpensExpr at opens
    split at opens
    · exact .nil
    · exact .elseWord _
    · exact .forWord _
    · exact .ifWord _
    · exact .funWord _
    · exact .call _ _
    · exact .assign _ _
    · exact absurd trivial opens

/-! ### The rule of each opening -/

section Statement

variable (room : Nat) (rest : List Token)

theorem statement_zero (ahead : List Token) : statement 0 ahead = (.error .tooDeep, ahead) := rfl

theorem statement_nil : statement (room + 1) [] = (.ok .empty, []) := rfl

theorem statement_elseWord :
    statement (room + 1) (.kwElse :: rest) = (.ok .empty, .kwElse :: rest) := rfl

theorem statement_forWord :
    statement (room + 1) (.kwFor :: rest) = (do
      let setup ← assignment room
      Rule.expect .kwTo
      let bound ← expression room
      Rule.expect .kwThen
      let body ← statement room
      return .forLoop setup bound body : Rule Statement) rest := rfl

theorem statement_ifWord :
    statement (room + 1) (.kwIf :: rest) = (do
      let cond ← condition room
      Rule.expect .kwThen
      let thenBranch ← statement room
      elseWord
      let elseBranch ← statement room
      return .ifElse cond thenBranch elseBranch : Rule Statement) rest := rfl

theorem statement_funWord :
    statement (room + 1) (.kwFun :: rest) = (do
      let name ← Rule.expectName
      noParameters
      Rule.expect .arrow
      let body ← statement room
      return .funDef name body : Rule Statement) rest := rfl

theorem statement_call (name : String) :
    statement (room + 1) (.name name :: .lparen :: rest) =
      (Rule.expect .rparen >>= fun _ => (pure (.funCall name) : Rule Statement)) rest := rfl

theorem statement_assign (name : String) :
    statement (room + 1) (.name name :: .assign :: rest) =
      (assignment room >>= fun setup => (pure (.assign setup) : Rule Statement))
        (.name name :: .assign :: rest) := rfl

theorem statement_assign_value (name : String) :
    statement (room + 1) (.name name :: .assign :: rest) =
      (value room >>= fun value => (pure (.assign ⟨name, value⟩) : Rule Statement)) rest := by
  rw [statement_assign, assignment_eq]
  show ((value room >>= fun value => (pure ⟨name, value⟩ : Rule Assignment)) >>= _) rest = _
  rw [Rule.bind_assoc]
  rfl

theorem statement_expr {ahead : List Token} (opens : OpensExpr ahead) :
    statement (room + 1) ahead =
      (expression room >>= fun body => (pure (.expr body) : Rule Statement)) ahead := by
  cases ahead with
  | nil => exact opens.elim
  | cons token rest =>
    cases token with
    | kwElse | kwFor | kwIf | kwFun => exact opens.elim
    | name name =>
      -- only after a name does the second token matter
      cases rest with
      | nil => rfl
      | cons second rest =>
        cases second with
        | lparen | assign => exact opens.elim
        | _ => rfl
    | _ => rfl

end Statement

end MiniBasic.Grammar
