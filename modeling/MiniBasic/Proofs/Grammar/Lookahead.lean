import MiniBasic.Proofs.Grammar.Steps

/-!
# One token of lookahead

What a rule reads, and how it fails, is settled by the tokens that it has read and the one after
them.  Everything behind that token may be exchanged, and so may the room, as long as it does not
shrink (`Rule.Settles`).  The exception are failures because the nesting is too deep: with more
room, the rule goes on.

The rule at the head of a statement looks at two tokens, where the first is a name.  It always
reads this name, so its second token is not behind the one where it stops.
-/

namespace MiniBasic.Grammar

variable {α β : Type}

/-- Up to the token where the rule stops, the input settles its answer: a rule with more room
gives the same answer wherever the tokens up to there are the same. -/
def Rule.Settles (rule larger : Rule α) (ahead : List Token) : Prop :=
  ∃ word, ahead = word ++ (rule ahead).2 ∧
    ((rule ahead).1 ≠ .error .tooDeep → ∀ other, other.head? = (rule ahead).2.head? →
      larger (word ++ other) = ((rule ahead).1, other))

/-- What is above a successor is one. -/
theorem exists_succ_of_succ_le {n m : Nat} (le : n + 1 ≤ m) : ∃ k, m = k + 1 ∧ n ≤ k := by
  obtain ⟨k, rfl⟩ := Nat.exists_eq_add_of_le' le
  exact ⟨k + n, rfl, Nat.le_add_left n k⟩

/-- Equal next tokens stay equal behind a word. -/
theorem head?_append_congr (word : List Token) {rest other : List Token}
    (same : other.head? = rest.head?) : (word ++ other).head? = (word ++ rest).head? := by
  rw [List.head?_append, List.head?_append, same]

namespace Rule.Settles

variable {rule larger part largerPart : Rule α} {next largerNext : α → Rule β}
  {ahead rest : List Token} {result : Except Failure α}

theorem tooDeep (deep : rule ahead = (.error .tooDeep, ahead)) : rule.Settles larger ahead := by
  rw [Settles, deep]
  exact ⟨[], rfl, fun never => absurd rfl never⟩

/-- Nothing is read, and the next token says so. -/
theorem stay (same : rule ahead = (result, ahead))
    (sameLarger : ∀ other, other.head? = ahead.head? → larger other = (result, other)) :
    rule.Settles larger ahead := by
  rw [Settles, same]
  exact ⟨[], rfl, fun _ => sameLarger⟩

/-- Some tokens are read, then a rule follows. -/
theorem append (word : List Token) (same : rule (word ++ rest) = part rest)
    (sameLarger : ∀ other, other.head? = rest.head? → larger (word ++ other) = largerPart other)
    (settles : part.Settles largerPart rest) : rule.Settles larger (word ++ rest) := by
  obtain ⟨more, isRest, settled⟩ := settles
  rw [Settles, same]
  refine ⟨word ++ more, ?_, fun notDeep other sameHead => ?_⟩
  · rw [List.append_assoc, ← isRest]
  · have sameRest : (more ++ other).head? = rest.head? := by
      rw [head?_append_congr more sameHead, ← isRest]
    rw [List.append_assoc, sameLarger _ sameRest]
    exact settled notDeep other sameHead

/-- Another rule is followed, and the next token says which. -/
theorem of_head (same : rule ahead = part ahead)
    (sameLarger : ∀ other, other.head? = ahead.head? → larger other = largerPart other)
    (settles : part.Settles largerPart ahead) : rule.Settles larger ahead :=
  append [] same sameLarger settles

/-- The end of the input is seen. -/
theorem nil (same : rule [] = (result, [])) (sameLarger : larger [] = (result, [])) :
    rule.Settles larger [] := by
  refine stay same fun other isNil => ?_
  rw [List.head?_nil, List.head?_eq_none_iff] at isNil
  rw [isNil]
  exact sameLarger

/-- A token is seen and not read. -/
theorem see {token : Token} (same : ∀ rest, rule (token :: rest) = (result, token :: rest))
    (sameLarger : ∀ rest, larger (token :: rest) = (result, token :: rest)) :
    rule.Settles larger (token :: rest) := by
  refine stay (same rest) fun other found => ?_
  obtain ⟨rest, rfl⟩ := List.head?_eq_some_iff.mp found
  exact sameLarger rest

/-- A token is read. -/
theorem read {token : Token} (same : ∀ rest, rule (token :: rest) = (result, rest))
    (sameLarger : ∀ rest, larger (token :: rest) = (result, rest)) :
    rule.Settles larger (token :: rest) := by
  rw [Settles, same rest]
  exact ⟨[token], rfl, fun _ other _ => sameLarger other⟩

protected theorem pure (a : α) : (pure a : Rule α).Settles (pure a) ahead :=
  stay rfl fun _ _ => rfl

/-- The second of two rules may stop at the token where the first does, or behind it. -/
theorem bind (first : rule.Settles larger ahead)
    (second : ∀ a rest, rule ahead = (.ok a, rest) → (next a).Settles (largerNext a) rest) :
    (rule >>= next).Settles (larger >>= largerNext) ahead := by
  obtain ⟨word, isAhead, settled⟩ := first
  rw [Settles, bind_apply]
  generalize rule ahead = answer at isAhead settled second
  obtain ⟨result, middle⟩ := answer
  cases result with
  | error failure =>
    refine ⟨word, isAhead, fun notDeep other sameHead => ?_⟩
    exact bind_of_error (settled (fun deep => notDeep (by cases deep; rfl)) other sameHead)
  | ok a =>
    obtain ⟨more, isMiddle, settledToo⟩ := second a middle rfl
    refine ⟨word ++ more, ?_, fun notDeep other sameHead => ?_⟩
    · rw [List.append_assoc, ← isMiddle]
      exact isAhead
    · have sameMiddle : (more ++ other).head? = middle.head? := by
        rw [head?_append_congr more sameHead, ← isMiddle]
      rw [List.append_assoc, bind_of_ok (settled (by simp) _ sameMiddle)]
      exact settledToo notDeep other sameHead

/-- The value is only wrapped. -/
theorem map {wrap : α → β} (settles : rule.Settles larger ahead) :
    (rule >>= fun a => (pure (wrap a) : Rule β)).Settles (larger >>= fun a => pure (wrap a))
      ahead :=
  settles.bind fun _ _ _ => .pure _

end Rule.Settles

open Rule (Settles)

/-! ## Single tokens -/

theorem settles_expect (token : Token) (ahead : List Token) :
    (Rule.expect token).Settles (Rule.expect token) ahead := by
  by_cases found : ahead.head? = some token
  · obtain ⟨rest, rfl⟩ := List.head?_eq_some_iff.mp found
    exact .read (Rule.expect_cons token) (Rule.expect_cons token)
  · exact .stay (Rule.expect_of_ne found) fun other same => Rule.expect_of_ne (same ▸ found)

theorem settles_expectName (ahead : List Token) :
    Rule.expectName.Settles Rule.expectName ahead := by
  cases ahead with
  | nil => exact .nil rfl rfl
  | cons token rest =>
    cases token with
    | name ident => exact .read (fun _ => rfl) fun _ => rfl
    | _ => exact .see (fun _ => rfl) fun _ => rfl

theorem settles_term (ahead : List Token) : term.Settles term ahead := by
  cases ahead with
  | nil => exact .nil rfl rfl
  | cons token rest =>
    cases token with
    | number value => exact .read (fun _ => rfl) fun _ => rfl
    | name ident => exact .read (fun _ => rfl) fun _ => rfl
    | _ => exact .see (fun _ => rfl) fun _ => rfl

theorem settles_comparison (ahead : List Token) : comparison.Settles comparison ahead := by
  cases ahead with
  | nil => exact .nil rfl rfl
  | cons token rest =>
    cases token with
    | eqEq | greater | less => exact .read (fun _ => rfl) fun _ => rfl
    | _ => exact .see (fun _ => rfl) fun _ => rfl

theorem settles_closing (ahead : List Token) : closing.Settles closing ahead := by
  by_cases found : ahead.head? = some .rparen
  · obtain ⟨rest, rfl⟩ := List.head?_eq_some_iff.mp found
    exact .read closing_cons closing_cons
  · refine .stay (closing_of_ne found) fun other same => ?_
    rw [closing_of_ne (same ▸ found), same]

theorem settles_elseWord (ahead : List Token) : elseWord.Settles elseWord ahead := by
  by_cases found : ahead.head? = some .kwElse
  · obtain ⟨rest, rfl⟩ := List.head?_eq_some_iff.mp found
    exact .read elseWord_cons elseWord_cons
  · refine .stay (elseWord_of_ne found) fun other same => ?_
    rw [elseWord_of_ne (same ▸ found), same]

theorem settles_finish (ahead : List Token) : finish.Settles finish ahead := by
  cases ahead with
  | nil => exact .nil rfl rfl
  | cons token rest => cases token <;> exact .see (fun _ => rfl) fun _ => rfl

/-! ## Expressions -/

theorem settles_negations {operand larger : Rule Expr}
    (inner : ∀ ahead, operand.Settles larger ahead) {turns more : Nat} (le : turns ≤ more)
    (ahead : List Token) : (negations operand turns).Settles (negations larger more) ahead := by
  induction turns generalizing more ahead with
  | zero =>
    by_cases minus : ahead.head? = some .minus
    · obtain ⟨rest, rfl⟩ := List.head?_eq_some_iff.mp minus
      exact .tooDeep (negations_zero_minus operand rest)
    · exact .of_head (negations_of_ne operand 0 minus)
        (fun other same => negations_of_ne larger more (same ▸ minus)) (inner ahead)
  | succ turns ih =>
    obtain ⟨more, rfl, below⟩ := exists_succ_of_succ_le le
    by_cases minus : ahead.head? = some .minus
    · obtain ⟨rest, rfl⟩ := List.head?_eq_some_iff.mp minus
      exact .append [.minus] (negations_succ_minus operand turns rest)
        (fun other _ => negations_succ_minus larger more other)
        (ih below rest).map
    · exact .of_head (negations_of_ne operand _ minus)
        (fun other same => negations_of_ne larger _ (same ▸ minus)) (inner ahead)

theorem settles_unary {operand larger : Nat → Rule Expr}
    (inner : ∀ least ahead, (operand least).Settles (larger least) ahead) {turns more : Nat}
    (le : turns ≤ more) (ahead : List Token) :
    (unary operand turns).Settles (unary larger more) ahead := by
  by_cases minus : ahead.head? = some .minus
  · obtain ⟨rest, rfl⟩ := List.head?_eq_some_iff.mp minus
    refine .of_head (unary_minus operand turns rest) (fun other same => ?_)
      (settles_negations (inner _) le _)
    obtain ⟨rest, rfl⟩ := List.head?_eq_some_iff.mp same
    exact unary_minus larger more rest
  · exact .of_head (unary_of_ne operand turns minus)
      (fun other same => unary_of_ne larger more (same ▸ minus)) (settles_term ahead)

theorem settles_links {operand larger : Nat → Rule Expr}
    (inner : ∀ least ahead, (operand least).Settles (larger least) ahead) (least : Nat)
    {turns more : Nat} (le : turns ≤ more) (left : Expr) (ahead : List Token) :
    (links operand least turns left).Settles (links larger least more left) ahead := by
  induction turns generalizing more left ahead with
  | zero =>
    rcases stops_or_operator least ahead with stops | ⟨op, rest, rfl, tight⟩
    · exact .stay (links_of_stops operand 0 left stops)
        fun other same => links_of_stops larger more left (stops.of_head?_eq same)
    · exact .tooDeep (links_zero_operator operand left tight rest)
  | succ turns ih =>
    obtain ⟨more, rfl, below⟩ := exists_succ_of_succ_le le
    rcases stops_or_operator least ahead with stops | ⟨op, rest, rfl, tight⟩
    · exact .stay (links_of_stops operand _ left stops)
        fun other same => links_of_stops larger _ left (stops.of_head?_eq same)
    · exact .append [op.token] (links_succ_operator operand turns left tight rest)
        (fun other _ => links_succ_operator larger more left tight other)
        ((inner _ rest).bind fun right rest _ => ih below _ rest)

theorem settles_climb {room more : Nat} (le : room ≤ more) (least : Nat) (ahead : List Token) :
    (climb room least).Settles (climb more least) ahead := by
  induction room generalizing more least ahead with
  | zero => exact .tooDeep (climb_zero least ahead)
  | succ room ih =>
    obtain ⟨more, rfl, below⟩ := exists_succ_of_succ_le le
    rw [climb_succ, climb_succ]
    exact (settles_unary (ih below) below ahead).bind fun expr rest _ =>
      settles_links (ih below) least below expr rest

theorem settles_expression {room more : Nat} (le : room ≤ more) (ahead : List Token) :
    (expression room).Settles (expression more) ahead :=
  settles_climb le 1 ahead

/-! ## Parts of statements -/

theorem settles_condition {room more : Nat} (le : room ≤ more) (ahead : List Token) :
    (condition room).Settles (condition more) ahead :=
  (settles_expression le ahead).bind fun _ rest _ =>
    (settles_comparison rest).bind fun _ rest _ => (settles_expression le rest).map

theorem settles_value {room more : Nat} (le : room ≤ more) (ahead : List Token) :
    (value room).Settles (value more) ahead := by
  by_cases isStr : ∃ text, ahead.head? = some (.str text)
  · obtain ⟨text, found⟩ := isStr
    obtain ⟨rest, rfl⟩ := List.head?_eq_some_iff.mp found
    exact .read (value_str room text) (value_str more text)
  · exact .of_head (value_expr room (not_exists.mp isStr))
      (fun other same => value_expr more (same ▸ not_exists.mp isStr))
      (settles_expression le ahead).map

theorem settles_assignment {room more : Nat} (le : room ≤ more) (ahead : List Token) :
    (assignment room).Settles (assignment more) ahead := by
  rw [assignment_eq, assignment_eq]
  exact (settles_expectName ahead).bind fun _ rest _ =>
    (settles_expect .assign rest).bind fun _ rest _ => (settles_value le rest).map

theorem settles_noParameters (ahead : List Token) :
    noParameters.Settles noParameters ahead :=
  (settles_expect .lparen ahead).bind fun _ rest _ => settles_closing rest

/-! ## Statements -/

theorem OpensExpr.of_head?_eq {token : Token} {rest other : List Token}
    (opens : OpensExpr (token :: rest)) (same : other.head? = rest.head?) :
    OpensExpr (token :: other) := by
  cases token with
  | name ident =>
    cases rest with
    | nil =>
      rw [List.head?_nil, List.head?_eq_none_iff] at same
      rw [same]
      trivial
    | cons second rest =>
      obtain ⟨other, rfl⟩ := List.head?_eq_some_iff.mp same
      cases second <;> exact opens
  | _ => exact opens

/-- An expression that starts with a name reads the name. -/
theorem statement_name (room : Nat) {ident : String} {rest : List Token}
    (opens : OpensExpr (.name ident :: rest)) :
    statement (room + 2) (.name ident :: rest) =
      (links (climb room) 1 room (.var ident) >>= fun body =>
        (pure (.expr body) : Rule Statement)) rest :=
  statement_expr (room + 1) opens

theorem settles_statement_expr {room more : Nat} (le : room ≤ more) {ahead : List Token}
    (opens : OpensExpr ahead) :
    (statement (room + 1)).Settles (statement (more + 1)) ahead := by
  cases ahead with
  | nil => exact opens.elim
  | cons token rest =>
    -- behind a name, the second token has been looked at, so the name must have been read
    by_cases isName : ∃ ident, token = .name ident
    · obtain ⟨ident, rfl⟩ := isName
      cases room with
      | zero => exact .tooDeep (statement_expr 0 opens)
      | succ room =>
        obtain ⟨more, rfl, below⟩ := exists_succ_of_succ_le le
        exact .append [.name ident] (statement_name room opens)
          (fun other same => statement_name more (opens.of_head?_eq same))
          (settles_links (settles_climb below) 1 below (.var ident) rest).map
    · refine .of_head (statement_expr room opens) (fun other same => ?_)
        (settles_expression le _).map
      obtain ⟨other, rfl⟩ := List.head?_eq_some_iff.mp same
      refine statement_expr more ?_
      cases token with
      | name ident => exact absurd ⟨ident, rfl⟩ isName
      | _ => exact opens

theorem settles_statement {room more : Nat} (le : room ≤ more) (ahead : List Token) :
    (statement room).Settles (statement more) ahead := by
  induction room generalizing more ahead with
  | zero => exact .tooDeep (statement_zero ahead)
  | succ room ih =>
    obtain ⟨more, rfl, below⟩ := exists_succ_of_succ_le le
    cases opening ahead with
    | nil => exact .nil (statement_nil room) (statement_nil more)
    | elseWord rest => exact .see (statement_elseWord room) (statement_elseWord more)
    | forWord rest =>
      refine .append [.kwFor] (statement_forWord room rest)
        (fun other _ => statement_forWord more other) ?_
      exact (settles_assignment below rest).bind fun setup rest _ =>
        (settles_expect .kwTo rest).bind fun _ rest _ =>
        (settles_expression below rest).bind fun bound rest _ =>
        (settles_expect .kwThen rest).bind fun _ rest _ => (ih below rest).map
    | ifWord rest =>
      refine .append [.kwIf] (statement_ifWord room rest)
        (fun other _ => statement_ifWord more other) ?_
      exact (settles_condition below rest).bind fun cond rest _ =>
        (settles_expect .kwThen rest).bind fun _ rest _ =>
        (ih below rest).bind fun first rest _ =>
        (settles_elseWord rest).bind fun _ rest _ => (ih below rest).map
    | funWord rest =>
      refine .append [.kwFun] (statement_funWord room rest)
        (fun other _ => statement_funWord more other) ?_
      exact (settles_expectName rest).bind fun name rest _ =>
        (settles_noParameters rest).bind fun _ rest _ =>
        (settles_expect .arrow rest).bind fun _ rest _ => (ih below rest).map
    | call name rest =>
      exact .append [.name name, .lparen] (statement_call room rest name)
        (fun other _ => statement_call more other name) (settles_expect .rparen rest).map
    | assign name rest =>
      exact .append [.name name, .assign] (statement_assign_value room rest name)
        (fun other _ => statement_assign_value more other name) (settles_value below rest).map
    | expr opens => exact settles_statement_expr below opens

theorem settles_program {room more : Nat} (le : room ≤ more) (ahead : List Token) :
    (program room).Settles (program more) ahead :=
  (settles_statement le ahead).bind fun _ rest _ => (settles_finish rest).map

end MiniBasic.Grammar
