import MiniBasic.Grammar.Layered
import MiniBasic.Proofs.Grammar.Lookahead
import MiniBasic.Proofs.Grammar.Room

/-!
# Climbing reads the layers

Expressions are read by climbing (`climb`), with one loop for all operators and a bound on the
nesting.  The layered grammar has a rule for each level and no bound.  Where the room is larger than
the number of tokens, the two agree in everything: the tree or the failure, and the tokens that are
left (`expression_eq_sum`).  With less room they agree unless the nesting is too deep, because an
answer does not change when the room grows (`settles_expression`).

The layers count turns, one for each token, only to be total.  More turns than tokens make no
difference (`more_of_le`), so a layer is an operand and the operators behind it (`layer_eq`), as
many as there are (`chain_operator`).

The loop of climbing has one tree so far, where the layers have a product so far inside a sum so
far.  What carries the comparison is that the loop goes on behind its tree with the operators of a
product and then with those of a sum (`links_eq_chains`).  After each right operand of a sum, none
of a product is left.
-/

namespace MiniBasic.Grammar

variable {α β : Type}

/-! ## Rules that leave no more than they found -/

namespace Rule

/-- Two rules after each other read what their parts read where they stand. -/
theorem bind_congr {rule other : Rule α} {next nextOther : α → Rule β} {ahead : List Token}
    (first : rule ahead = other ahead)
    (second : ∀ a rest, other ahead = (.ok a, rest) → next a rest = nextOther a rest) :
    (rule >>= next) ahead = (other >>= nextOther) ahead := by
  rw [bind_apply, bind_apply, first]
  cases read : other ahead with
  | mk result rest =>
    cases result with
    | ok a => exact second a rest read
    | error failure => rfl

theorem bind_pure (rule : Rule α) : rule >>= pure = rule := by
  funext ahead
  rw [bind_apply]
  cases rule ahead with
  | mk result rest => cases result <;> rfl

/-- A rule leaves no more tokens than it found. -/
def Shortens (rule : Rule α) : Prop := ∀ ahead, (rule ahead).2.length ≤ ahead.length

theorem Shortens.length_le {rule : Rule α} (shortens : rule.Shortens) {ahead rest : List Token}
    {a : α} (read : rule ahead = (.ok a, rest)) : rest.length ≤ ahead.length := by
  have shorter := shortens ahead
  rw [read] at shorter
  exact shorter

theorem Shortens.bind {rule : Rule α} {next : α → Rule β} (first : rule.Shortens)
    (second : ∀ a, (next a).Shortens) : (rule >>= next).Shortens := by
  intro ahead
  have shorter := first ahead
  rw [bind_apply]
  generalize rule ahead = answer at shorter
  obtain ⟨result, rest⟩ := answer
  cases result with
  | ok a => exact Nat.le_trans (second a rest) shorter
  | error failure => exact shorter

end Rule

open Rule (Shortens)

namespace Layered

/-! ## Layers without a bound -/

/-- None of some operators comes next. -/
def Over (operators : List Operator) (ahead : List Token) : Prop :=
  ∀ op ∈ operators, ahead.head? ≠ some op.token

variable {operators : List Operator} {operand : Rule Expr}

theorem over_nil (operators : List Operator) : Over operators [] := by
  intro op _ isNext
  cases isNext

theorem over_or_operator (operators : List Operator) (ahead : List Token) :
    Over operators ahead ∨ ∃ op ∈ operators, ∃ rest, ahead = op.token :: rest := by
  by_cases comes : ∃ op ∈ operators, ahead.head? = some op.token
  · obtain ⟨op, isIn, isNext⟩ := comes
    obtain ⟨rest, rfl⟩ := List.head?_eq_some_iff.mp isNext
    exact .inr ⟨op, isIn, rest, rfl⟩
  · exact .inl fun op isIn isNext => comes ⟨op, isIn, isNext⟩

theorem over_cons {op : Operator} {rest : List Token} (notIn : op ∉ operators) :
    Over operators (op.token :: rest) := by
  intro other isIn isNext
  have same : Operator.ofToken? other.token = Operator.ofToken? op.token :=
    congrArg Operator.ofToken? (Option.some.inj isNext).symm
  rw [Operator.ofToken?_token, Operator.ofToken?_token] at same
  cases same
  exact notIn isIn

section Turns

variable (operand) (turns : Nat) (left : Expr)

theorem more_of_over {ahead : List Token} (isOver : Over operators ahead) :
    more operators operand turns left ahead = (.ok left, ahead) := by
  cases found : ahead.head?.bind Operator.ofToken? with
  | none => cases turns <;> rw [more, Rule.head_bind_apply, found] <;> rfl
  | some op =>
    obtain ⟨token, isHead, isOp⟩ := Option.bind_eq_some_iff.mp found
    rw [Operator.ofToken?_eq_some_iff.mp isOp] at isHead
    have notIn : op ∉ operators := fun isIn => isOver op isIn isHead
    cases turns <;> rw [more, Rule.head_bind_apply, found] <;> simp only [notIn, if_false] <;> rfl

theorem more_zero_operator {op : Operator} (isIn : op ∈ operators) (rest : List Token) :
    more operators operand 0 left (op.token :: rest) = (.ok left, op.token :: rest) := by
  rw [more, Rule.head_bind_apply, List.head?_cons, Option.bind_some, Operator.ofToken?_token]
  simp only [isIn, if_true]
  rfl

theorem more_succ_operator {op : Operator} (isIn : op ∈ operators) (rest : List Token) :
    more operators operand (turns + 1) left (op.token :: rest) =
      (operand >>= fun right =>
        more operators operand turns (.binary left op right)) rest := by
  rw [more, Rule.head_bind_apply, List.head?_cons, Option.bind_some, Operator.ofToken?_token]
  simp only [isIn, if_true]
  rfl

end Turns

section Operands

variable (shortens : operand.Shortens)
include shortens

theorem shortens_more (turns : Nat) (left : Expr) :
    (more operators operand turns left).Shortens := by
  intro ahead
  induction turns generalizing left ahead with
  | zero =>
    rcases over_or_operator operators ahead with isOver | ⟨op, isIn, rest, rfl⟩
    · exact Nat.le_of_eq (by rw [more_of_over operand 0 left isOver])
    · exact Nat.le_of_eq (by rw [more_zero_operator operand left isIn])
  | succ turns ih =>
    rcases over_or_operator operators ahead with isOver | ⟨op, isIn, rest, rfl⟩
    · exact Nat.le_of_eq (by rw [more_of_over operand _ left isOver])
    · rw [more_succ_operator operand turns left isIn]
      exact Nat.le_succ_of_le (shortens.bind (fun right => ih (.binary left op right)) rest)

theorem shortens_layer (operators : List Operator) : (layer operators operand).Shortens :=
  fun ahead => shortens.bind (shortens_more shortens ahead.length) ahead

/-- More turns than there are tokens make no difference. -/
theorem more_of_le {ahead : List Token} {turns others : Nat} (enough : ahead.length ≤ turns)
    (enoughToo : ahead.length ≤ others) (left : Expr) :
    more operators operand turns left ahead = more operators operand others left ahead := by
  induction turns generalizing others left ahead with
  | zero =>
    rw [List.eq_nil_of_length_eq_zero (Nat.le_zero.mp enough),
      more_of_over _ _ _ (over_nil operators), more_of_over _ _ _ (over_nil operators)]
  | succ turns ih =>
    rcases over_or_operator operators ahead with isOver | ⟨op, isIn, rest, rfl⟩
    · rw [more_of_over _ _ _ isOver, more_of_over _ _ _ isOver]
    · obtain ⟨others, rfl, below⟩ := exists_succ_of_succ_le enoughToo
      rw [more_succ_operator _ _ _ isIn, more_succ_operator _ _ _ isIn]
      refine Rule.bind_congr rfl fun right left read => ?_
      have shorter := shortens.length_le read
      exact ih (Nat.le_trans shorter (Nat.le_of_succ_le_succ enough))
        (Nat.le_trans shorter below) _

/-- A run of some operators ends where none of them comes next. -/
theorem more_over {ahead rest : List Token} {turns : Nat} {left expr : Expr}
    (enough : ahead.length ≤ turns)
    (read : more operators operand turns left ahead = (.ok expr, rest)) : Over operators rest := by
  induction turns generalizing left ahead with
  | zero =>
    rw [List.eq_nil_of_length_eq_zero (Nat.le_zero.mp enough),
      more_of_over _ _ _ (over_nil operators)] at read
    cases read
    exact over_nil operators
  | succ turns ih =>
    rcases over_or_operator operators ahead with isOver | ⟨op, isIn, ahead, rfl⟩
    · rw [more_of_over _ _ _ isOver] at read
      cases read
      exact isOver
    · rw [more_succ_operator _ _ _ isIn] at read
      obtain ⟨right, middle, isRight, read⟩ := Rule.bind_eq_ok_iff.mp read
      exact ih (Nat.le_trans (shortens.length_le isRight) (Nat.le_of_succ_le_succ enough)) read

/-- All that follows the first operand of a run of some operators. -/
def chain (operators : List Operator) (operand : Rule Expr) (left : Expr) : Rule Expr :=
  fun ahead => more operators operand ahead.length left ahead

omit shortens in
theorem chain_of_over {ahead : List Token} (isOver : Over operators ahead) (left : Expr) :
    chain operators operand left ahead = (.ok left, ahead) :=
  more_of_over operand ahead.length left isOver

theorem chain_operator {op : Operator} (isIn : op ∈ operators) (left : Expr) (rest : List Token) :
    chain operators operand left (op.token :: rest) =
      (operand >>= fun right => chain operators operand (.binary left op right)) rest := by
  rw [chain, List.length_cons, more_succ_operator _ _ _ isIn]
  refine Rule.bind_congr rfl fun right ahead read => ?_
  exact more_of_le shortens (shortens.length_le read) (Nat.le_refl _) _

theorem chain_over {ahead rest : List Token} {left expr : Expr}
    (read : chain operators operand left ahead = (.ok expr, rest)) : Over operators rest :=
  more_over shortens (Nat.le_refl _) read

/-- A layer is an operand and all that follows it. -/
theorem layer_eq : layer operators operand = operand >>= chain operators operand := by
  funext ahead
  refine Rule.bind_congr rfl fun left rest read => ?_
  exact more_of_le shortens (shortens.length_le read) (Nat.le_refl _) left

end Operands

/-! ## The layers of expressions -/

theorem signed_minus (rest : List Token) :
    signed (.minus :: rest) = (signed >>= fun inner => (pure (.neg inner) : Rule Expr)) rest := by
  rw [signed, Rule.bind_apply]
  generalize signed rest = answer
  obtain ⟨result, left⟩ := answer
  cases result <;> rfl

theorem signed_of_ne {ahead : List Token} (other : ahead.head? ≠ some .minus) :
    signed ahead = term ahead := by
  cases ahead with
  | nil => rfl
  | cons token rest =>
    cases token with
    | minus => exact absurd rfl other
    | _ => rfl

theorem shortens_term : term.Shortens := by
  intro ahead
  obtain ⟨word, isAhead, -⟩ := settles_term ahead
  have shorter := Nat.le_add_left (term ahead).2.length word.length
  rw [← List.length_append, ← isAhead] at shorter
  exact shorter

theorem shortens_signed : signed.Shortens := by
  intro ahead
  fun_induction signed ahead with
  | case1 rest read ih => exact Nat.le_succ_of_le ih
  | case2 ahead other => exact shortens_term ahead

theorem shortens_product : product.Shortens := shortens_layer shortens_signed _

theorem product_eq : product = signed >>= chain [.mul, .div] signed := layer_eq shortens_signed

theorem sum_eq :
    sum = signed >>= fun left => chain [.mul, .div] signed left >>= chain [.add, .sub] product :=
  calc
    sum = product >>= chain [.add, .sub] product := layer_eq shortens_product
    _ = signed >>= chain [.mul, .div] signed >>= chain [.add, .sub] product := by rw [← product_eq]
    _ = _ := Rule.bind_assoc _ _ _

theorem product_over {ahead rest : List Token} {expr : Expr}
    (read : product ahead = (.ok expr, rest)) : Over [.mul, .div] rest := by
  rw [product_eq] at read
  obtain ⟨left, middle, -, read⟩ := Rule.bind_eq_ok_iff.mp read
  exact chain_over shortens_signed read

end Layered

open Layered

/-! ## Climbing with enough room -/

theorem Stops.over {least : Nat} {ahead : List Token} {operators : List Operator}
    (stops : Stops least ahead) (tight : ∀ op ∈ operators, least ≤ op.binding.level) :
    Over operators ahead :=
  fun op isIn isNext => absurd (stops op isNext) (Nat.not_lt.mpr (tight op isIn))

theorem negations_eq_signed {operand : Rule Expr} {turns : Nat} {ahead : List Token}
    (enough : ahead.length ≤ turns)
    (inner : ∀ rest, rest.length ≤ ahead.length → operand rest = signed rest) :
    negations operand turns ahead = signed ahead := by
  induction turns generalizing ahead with
  | zero =>
    have isNil : ahead = [] := List.eq_nil_of_length_eq_zero (Nat.le_zero.mp enough)
    rw [negations_of_ne operand 0 (by rw [isNil]; nofun)]
    exact inner ahead (Nat.le_refl _)
  | succ turns ih =>
    by_cases minus : ahead.head? = some .minus
    · obtain ⟨rest, rfl⟩ := List.head?_eq_some_iff.mp minus
      rw [negations_succ_minus, signed_minus]
      refine Rule.bind_congr (ih (Nat.le_of_succ_le_succ enough) fun left le => ?_)
        fun _ _ _ => rfl
      exact inner left (Nat.le_succ_of_le le)
    · rw [negations_of_ne operand _ minus]
      exact inner ahead (Nat.le_refl _)

section Operands

variable {operand : Nat → Rule Expr} {turns : Nat} {ahead : List Token}
  (enough : ahead.length ≤ turns)
  (terms : ∀ rest, rest.length < ahead.length → operand 3 rest = signed rest)
include enough terms

theorem unary_eq_signed : unary operand turns ahead = signed ahead := by
  by_cases minus : ahead.head? = some .minus
  · obtain ⟨rest, rfl⟩ := List.head?_eq_some_iff.mp minus
    obtain ⟨turns, rfl, below⟩ := exists_succ_of_succ_le enough
    rw [unary_minus, negations_succ_minus, signed_minus]
    refine Rule.bind_congr (negations_eq_signed below fun left le => ?_) fun _ _ _ => rfl
    exact terms left (Nat.lt_succ_of_le le)
  · rw [unary_of_ne operand turns minus, signed_of_ne minus]

theorem links_eq_chain (left : Expr) :
    links operand 2 turns left ahead = chain [.mul, .div] signed left ahead := by
  induction turns generalizing left ahead with
  | zero =>
    rw [List.eq_nil_of_length_eq_zero (Nat.le_zero.mp enough),
      links_of_stops _ _ _ (stops_nil 2), chain_of_over (over_nil _)]
  | succ turns ih =>
    rcases stops_or_operator 2 ahead with stops | ⟨op, rest, rfl, tight⟩
    · rw [links_of_stops _ _ _ stops, chain_of_over (stops.over (by simp [Operator.binding_eq]))]
    · cases op with
      | add | sub => exact absurd tight (by decide)
      | mul | div =>
        rw [links_succ_operator _ _ _ tight, chain_operator shortens_signed (by simp)]
        refine Rule.bind_congr (terms rest (Nat.lt_succ_self _)) fun right ahead read => ?_
        have shorter := shortens_signed.length_le read
        refine ih (Nat.le_trans shorter (Nat.le_of_succ_le_succ enough)) (fun left lt => ?_) _
        exact terms left (Nat.lt_trans lt (Nat.lt_succ_of_le shorter))

/-- The operators behind a tree are those of its product and then those of its sum. -/
theorem links_eq_chains
    (products : ∀ rest, rest.length < ahead.length → operand 2 rest = product rest)
    (left : Expr) :
    links operand 1 turns left ahead =
      (chain [.mul, .div] signed left >>= chain [.add, .sub] product) ahead := by
  induction turns generalizing left ahead with
  | zero =>
    rw [List.eq_nil_of_length_eq_zero (Nat.le_zero.mp enough),
      links_of_stops _ _ _ (stops_nil 1), Rule.bind_of_ok (chain_of_over (over_nil _) left),
      chain_of_over (over_nil _)]
  | succ turns ih =>
    rcases stops_or_operator 1 ahead with stops | ⟨op, rest, rfl, tight⟩
    · rw [links_of_stops _ _ _ stops,
        Rule.bind_of_ok (chain_of_over (stops.over (by simp [Operator.binding_eq])) left),
        chain_of_over (stops.over (by simp [Operator.binding_eq]))]
    · have later : ∀ expr middle, middle.length ≤ rest.length →
          links operand 1 turns expr middle =
            (chain [.mul, .div] signed expr >>= chain [.add, .sub] product) middle := by
        intro expr middle shorter
        have shorterToo : middle.length < (op.token :: rest).length := Nat.lt_succ_of_le shorter
        exact ih (Nat.le_trans shorter (Nat.le_of_succ_le_succ enough))
          (fun left lt => terms left (Nat.lt_trans lt shorterToo))
          (fun left lt => products left (Nat.lt_trans lt shorterToo)) expr
      rw [links_succ_operator _ _ _ tight]
      cases op with
      | mul | div =>
        rw [Rule.bind_apply (chain _ _ left), chain_operator shortens_signed (by simp),
          ← Rule.bind_apply, Rule.bind_assoc]
        refine Rule.bind_congr (terms rest (Nat.lt_succ_self _)) fun right middle read => ?_
        exact later _ middle (shortens_signed.length_le read)
      | add | sub =>
        rw [Rule.bind_of_ok (chain_of_over (over_cons (by simp)) left),
          chain_operator shortens_product (by simp)]
        refine Rule.bind_congr (products rest (Nat.lt_succ_self _)) fun right middle read => ?_
        -- behind a product, the larger tree has no product to go on with
        rw [later _ middle (shortens_product.length_le read),
          Rule.bind_of_ok (chain_of_over (product_over read) _)]

end Operands

/-- With more room than there are tokens, the three levels are the three layers. -/
theorem climb_eq_layers (room : Nat) {ahead : List Token} (enough : ahead.length < room) :
    climb room 3 ahead = signed ahead ∧ climb room 2 ahead = product ahead ∧
      climb room 1 ahead = sum ahead := by
  induction room generalizing ahead with
  | zero => exact absurd enough (Nat.not_lt_zero _)
  | succ room ih =>
    have enough : ahead.length ≤ room := Nat.le_of_lt_succ enough
    have terms : ∀ rest, rest.length < ahead.length → climb room 3 rest = signed rest :=
      fun rest lt => (ih (Nat.lt_of_lt_of_le lt enough)).1
    have products : ∀ rest, rest.length < ahead.length → climb room 2 rest = product rest :=
      fun rest lt => (ih (Nat.lt_of_lt_of_le lt enough)).2.1
    have first : unary (climb room) room ahead = signed ahead := unary_eq_signed enough terms
    refine ⟨?_, ?_, ?_⟩
    · rw [climb_succ, ← Rule.bind_pure signed]
      exact Rule.bind_congr first fun left rest _ => links_of_stops _ _ _ (stops_negation rest)
    · rw [climb_succ, product_eq]
      refine Rule.bind_congr first fun left rest read => ?_
      have shorter := shortens_signed.length_le read
      exact links_eq_chain (Nat.le_trans shorter enough)
        (fun later lt => terms later (Nat.lt_of_lt_of_le lt shorter)) left
    · rw [climb_succ, sum_eq]
      refine Rule.bind_congr first fun left rest read => ?_
      have shorter := shortens_signed.length_le read
      exact links_eq_chains (Nat.le_trans shorter enough)
        (fun later lt => terms later (Nat.lt_of_lt_of_le lt shorter))
        (fun later lt => products later (Nat.lt_of_lt_of_le lt shorter)) left

/-! ## Climbing with any room -/

theorem expression_eq_sum {room : Nat} {ahead : List Token} (enough : ahead.length < room) :
    expression room ahead = sum ahead :=
  (climb_eq_layers room enough).2.2

/-- Unless the nesting is too deep, the room makes no difference. -/
theorem expression_eq_sum_of_ne {room : Nat} {ahead : List Token}
    (notDeep : (expression room ahead).1 ≠ .error .tooDeep) :
    expression room ahead = sum ahead := by
  obtain ⟨word, isAhead, settled⟩ :=
    settles_expression (Nat.le_max_left room (ahead.length + 1)) ahead
  have larger := settled notDeep _ rfl
  rw [← isAhead] at larger
  rw [← expression_eq_sum (Nat.lt_of_succ_le (Nat.le_max_right room (ahead.length + 1))), larger]

end MiniBasic.Grammar
