import MiniBasic.Proofs.Text.Tells
import MiniBasic.Tree.Tuple

/-!
# Tuples tell trees apart

Names and texts stand in a tuple just as they are, so two trees may be written alike: a name may
bring its own quotes and brackets along.  *Plain* trees are not (`Statement.tuple_inj`).  Their
names are made of letters, digits and underscores, and their texts have no double quote in them, but
may have single quotes, brackets and whole tuples.

Each part of a tuple shows where it ends, whatever comes after it: a tag or a name at the first
single quote, a text at the first double quote, a number at the bracket behind it.  So the parts
tell themselves (`Tells`), and this goes from the parts to the whole.  What kind of tree a tuple is
for is told by the tag in front (`Head`).
-/

namespace MiniBasic

/-! ## Plain trees -/

/-- A name of letters, digits and underscores. -/
def PlainName (name : String) : Prop := ∀ c ∈ name.toList, Lexical.isNamePart c = true

/-- The names in an expression are plain. -/
def Expr.Plain : Expr → Prop
  | num _ => True
  | var name => PlainName name
  | neg operand => operand.Plain
  | binary left _ right => left.Plain ∧ right.Plain

/-- A plain expression, or a text without double quotes. -/
def Value.Plain : Value → Prop
  | expr body => body.Plain
  | str text => '"' ∉ text.toList

/-- The name is plain, and so is the value it gets. -/
def Assignment.Plain (assignment : Assignment) : Prop :=
  PlainName assignment.name ∧ assignment.value.Plain

/-- Both sides of a condition are plain. -/
def Condition.Plain (condition : Condition) : Prop :=
  condition.left.Plain ∧ condition.right.Plain

/-- All names in a statement are plain, and no text in it has a double quote. -/
def Statement.Plain : Statement → Prop
  | empty => True
  | expr body => body.Plain
  | assign setup => setup.Plain
  | ifElse condition thenBranch elseBranch =>
    condition.Plain ∧ thenBranch.Plain ∧ elseBranch.Plain
  | forLoop setup bound body => setup.Plain ∧ bound.Plain ∧ body.Plain
  | funDef name body => PlainName name ∧ body.Plain
  | funCall name => PlainName name

/-! ## Names and texts -/

theorem PlainName.quote_notMem {name : String} (plain : PlainName name) : '\'' ∉ name.toList :=
  fun isIn => absurd (plain _ isIn) (by decide)

theorem tells_name {first second : String} (firstPlain : PlainName first)
    (secondPlain : PlainName second) :
    Tells (ticked first).toList (ticked second).toList (first = second) := by
  have written : ∀ name, (ticked name).toList = ['\''] ++ (name.toList ++ ['\'']) := by
    simp [ticked]
  rw [written, written]
  exact ((Tells.upTo firstPlain.quote_notMem secondPlain.quote_notMem).prepend _).imp
    String.toList_inj.mp

theorem tells_text {first second : String} (firstPlain : '"' ∉ first.toList)
    (secondPlain : '"' ∉ second.toList) :
    Tells (ticked ("\"" ++ first ++ "\"")).toList (ticked ("\"" ++ second ++ "\"")).toList
      (first = second) := by
  have written : ∀ text, (ticked ("\"" ++ text ++ "\"")).toList =
      ['\'', '"'] ++ ((text.toList ++ ['"']) ++ ['\'']) := by
    simp [ticked]
  rw [written, written]
  have texts := (Tells.upTo firstPlain secondPlain).append fun _ => .of_true (a := ['\'']) trivial
  exact (texts.prepend _).imp fun same => String.toList_inj.mp same.1

/-! ## Tuples -/

/-- The parts of a tuple behind its tag, and the bracket at its end. -/
def behindTag (parts : List String) : List Char := listed [',', ' '] [')'] parts

theorem toList_tupleOf (tag : String) (parts : List String) :
    (tupleOf tag parts).toList = ['(', '\''] ++ ((tag.toList ++ ['\'']) ++ behindTag parts) := by
  have inside := toList_intercalate_append ", " (ticked tag) [')'] parts
  rw [tupleOf, String.toList_append, String.toList_append, List.append_assoc]
  show ['('] ++ ((", ".intercalate (ticked tag :: parts)).toList ++ [')']) = _
  rw [inside]
  simp [ticked, behindTag]

/-- The kind of expression that a tag stands for. -/
inductive Expr.Head where
  | num
  | var
  | neg
  | binary (op : Operator)
deriving DecidableEq

/-- The kind of tree that a tag stands for. -/
inductive Head where
  | expr (head : Expr.Head)
  | assignment
  | relation (comparison : Relation)
  | conditional
  | loop
  | definition
  | call
deriving DecidableEq

namespace Head

def tag : Head → String
  | expr .num => "num"
  | expr .var => "var"
  | expr .neg => "neg"
  | expr (.binary op) => op.tag
  | assignment => "var_assign"
  | relation comparison => comparison.tag
  | conditional => "if_stmt"
  | loop => "for_loop"
  | definition => "fun_def"
  | call => "fun_call"

/-- All kinds of tree. -/
def all : List Head :=
  [expr .num, expr .var, expr .neg, expr (.binary .add), expr (.binary .sub), expr (.binary .mul),
    expr (.binary .div), assignment, relation .equal, relation .greater, relation .less,
    conditional, loop, definition, call]

theorem mem_all (head : Head) : head ∈ all := by
  cases head with
  | expr head =>
    cases head with
    | binary op => cases op <;> simp [all]
    | _ => simp [all]
  | relation comparison => cases comparison <;> simp [all]
  | _ => simp [all]

/-- Each kind has a tag of its own. -/
theorem tag_inj {first second : Head} (same : first.tag = second.tag) : first = second := by
  have onlyOne : ∀ first ∈ all, ∀ second ∈ all, first.tag = second.tag → first = second := by
    decide +kernel
  exact onlyOne _ first.mem_all _ second.mem_all same

theorem quote_notMem_tag (head : Head) : '\'' ∉ head.tag.toList := by
  have noQuote : ∀ head ∈ all, '\'' ∉ head.tag.toList := by decide +kernel
  exact noQuote _ head.mem_all

end Head

namespace Tells

variable {tag p q p' q' : String} {ps qs : List String} {P Q : Prop}

/-- A tuple does not agree with what starts otherwise. -/
theorem of_opening {x : Char} {a : List Char} (different : '(' ≠ x) :
    Tells (tupleOf tag ps).toList (x :: a) P := by
  rw [toList_tupleOf]
  exact of_ne different

/-- Tuples for different kinds of tree do not agree. -/
theorem of_head_ne {first second : Head} (different : first ≠ second) :
    Tells (tupleOf first.tag ps).toList (tupleOf second.tag qs).toList P := by
  have tags := upTo first.quote_notMem_tag second.quote_notMem_tag
  rw [toList_tupleOf, toList_tupleOf]
  refine ((tags.append fun same => ?_).prepend _).imp And.right
  exact absurd (Head.tag_inj (String.toList_inj.mp same)) different

theorem under (parts : Tells (behindTag ps) (behindTag qs) P) :
    Tells (tupleOf tag ps).toList (tupleOf tag qs).toList P := by
  rw [toList_tupleOf, toList_tupleOf]
  exact (parts.prepend _).prepend _

/-- Tuples of one part tell what the part tells. -/
theorem one (part : Tells p.toList q.toList P) :
    Tells (tupleOf tag [p]).toList (tupleOf tag [q]).toList P :=
  (part.part (.of_true trivial)).under.imp And.left

/-- Tuples of two parts tell what the parts tell. -/
theorem two (front : Tells p.toList q.toList P) (back : Tells p'.toList q'.toList Q) :
    Tells (tupleOf tag [p, p']).toList (tupleOf tag [q, q']).toList (P ∧ Q) :=
  (front.part (back.part (.of_true trivial))).under.imp fun ⟨isFirst, others, _⟩ =>
    ⟨isFirst, others⟩

theorem number (first second : Int64) :
    Tells (tupleOf tag [Token.decimal first]).toList (tupleOf tag [Token.decimal second]).toList
      (first = second) :=
  under ((tells_number (by decide) (by decide) first second).prepend [',', ' '])

end Tells

/-! ## Trees -/

namespace Expr

variable {first second : Expr}

def head : Expr → Head
  | num _ => .num
  | var _ => .var
  | neg _ => .neg
  | binary _ op _ => .binary op

theorem exists_tuple_eq (expr : Expr) :
    ∃ parts, expr.tuple = tupleOf (MiniBasic.Head.expr expr.head).tag parts := by
  cases expr <;> exact ⟨_, rfl⟩

theorem tells_of_head_ne {P : Prop} (different : first.head ≠ second.head) :
    Tells first.tuple.toList second.tuple.toList P := by
  obtain ⟨parts, isFirst⟩ := first.exists_tuple_eq
  obtain ⟨others, isSecond⟩ := second.exists_tuple_eq
  rw [isFirst, isSecond]
  exact .of_head_ne fun same => different (MiniBasic.Head.expr.inj same)

theorem tells (firstPlain : first.Plain) (secondPlain : second.Plain) :
    Tells first.tuple.toList second.tuple.toList (first = second) := by
  induction first generalizing second with
  | num value =>
    cases second with
    | num other => exact (Tells.number value other).imp (congrArg num)
    | _ => exact tells_of_head_ne nofun
  | var name =>
    cases second with
    | var other => exact (tells_name firstPlain secondPlain).one.imp (congrArg var)
    | _ => exact tells_of_head_ne nofun
  | neg operand ih =>
    cases second with
    | neg other =>
      have operands : Tells operand.tuple.toList other.tuple.toList (operand = other) :=
        ih firstPlain secondPlain
      exact operands.one.imp (congrArg neg)
    | _ => exact tells_of_head_ne nofun
  | binary left op right ihLeft ihRight =>
    cases second with
    | binary otherLeft otherOp otherRight =>
      by_cases sameOp : op = otherOp
      · subst sameOp
        refine ((ihLeft firstPlain.1 secondPlain.1).two (ihRight firstPlain.2 secondPlain.2)).imp ?_
        intro same
        obtain ⟨rfl, rfl⟩ := same
        rfl
      · exact tells_of_head_ne fun same => sameOp (Head.binary.inj same)
    | _ => exact tells_of_head_ne nofun

end Expr

/-- An expression is written as a tuple and a text is not. -/
theorem Value.tells {first second : Value} (firstPlain : first.Plain)
    (secondPlain : second.Plain) :
    Tells first.tuple.toList second.tuple.toList (first = second) := by
  have apart : ∀ (body : Expr) (text : String) (P : Prop),
      Tells body.tuple.toList (ticked ("\"" ++ text ++ "\"")).toList P := by
    intro body text P
    obtain ⟨parts, written⟩ := body.exists_tuple_eq
    rw [written, ticked, String.append_assoc, String.toList_append]
    exact .of_opening (by decide)
  cases first with
  | expr body =>
    cases second with
    | expr other => exact (Expr.tells firstPlain secondPlain).imp (congrArg expr)
    | str other => exact apart body other _
  | str text =>
    cases second with
    | expr other => exact (apart other text _).symm
    | str other => exact (tells_text firstPlain secondPlain).imp (congrArg str)

theorem Assignment.tells {first second : Assignment} (firstPlain : first.Plain)
    (secondPlain : second.Plain) :
    Tells first.tuple.toList second.tuple.toList (first = second) := by
  obtain ⟨name, value⟩ := first
  obtain ⟨otherName, otherValue⟩ := second
  refine ((tells_name firstPlain.1 secondPlain.1).two
    (Value.tells firstPlain.2 secondPlain.2)).imp ?_
  intro same
  obtain ⟨rfl, rfl⟩ := same
  rfl

theorem Condition.tells {first second : Condition} (firstPlain : first.Plain)
    (secondPlain : second.Plain) :
    Tells first.tuple.toList second.tuple.toList (first = second) := by
  obtain ⟨relation, left, right⟩ := first
  obtain ⟨otherRelation, otherLeft, otherRight⟩ := second
  by_cases sameRelation : relation = otherRelation
  · subst sameRelation
    refine ((Expr.tells firstPlain.1 secondPlain.1).two
      (Expr.tells firstPlain.2 secondPlain.2)).imp ?_
    intro same
    obtain ⟨rfl, rfl⟩ := same
    rfl
  · show Tells (tupleOf (Head.relation relation).tag _).toList
      (tupleOf (Head.relation otherRelation).tag _).toList _
    exact .of_head_ne fun same => sameRelation (Head.relation.inj same)

namespace Statement

variable {first second : Statement}

/-- The kind of a statement, if it is not the empty one. -/
def head? : Statement → Option Head
  | empty => none
  | expr body => some (.expr body.head)
  | assign _ => some .assignment
  | ifElse _ _ _ => some .conditional
  | forLoop _ _ _ => some .loop
  | funDef _ _ => some .definition
  | funCall _ => some .call

/-- The empty statement has no tuple. -/
theorem tuple_cases (whole : Statement) :
    (whole.head? = none ∧ whole.tuple = "None") ∨
      ∃ head parts, whole.head? = some head ∧ whole.tuple = tupleOf head.tag parts := by
  cases whole with
  | empty => exact .inl ⟨rfl, rfl⟩
  | expr body =>
    obtain ⟨parts, written⟩ := body.exists_tuple_eq
    exact .inr ⟨_, parts, rfl, written⟩
  | _ => exact .inr ⟨_, _, rfl, rfl⟩

theorem tells_of_head_ne {P : Prop} (different : first.head? ≠ second.head?) :
    Tells first.tuple.toList second.tuple.toList P := by
  obtain ⟨noHead, isFirst⟩ | ⟨head, parts, isHead, isFirst⟩ := first.tuple_cases <;>
    obtain ⟨noOther, isSecond⟩ | ⟨other, others, isOther, isSecond⟩ := second.tuple_cases <;>
    rw [isFirst, isSecond]
  · exact absurd (noHead.trans noOther.symm) different
  · exact (Tells.of_opening (by decide)).symm
  · exact .of_opening (by decide)
  · rw [isHead, isOther] at different
    exact .of_head_ne fun same => different (congrArg some same)

theorem tells (firstPlain : first.Plain) (secondPlain : second.Plain) :
    Tells first.tuple.toList second.tuple.toList (first = second) := by
  induction first generalizing second with
  | empty =>
    cases second with
    | empty => exact .of_true rfl
    | _ => exact tells_of_head_ne nofun
  | expr body =>
    cases second with
    | expr other => exact (Expr.tells firstPlain secondPlain).imp (congrArg expr)
    | _ => exact tells_of_head_ne nofun
  | assign setup =>
    cases second with
    | assign other => exact (Assignment.tells firstPlain secondPlain).imp (congrArg assign)
    | _ => exact tells_of_head_ne nofun
  | ifElse condition thenBranch elseBranch ihThen ihElse =>
    cases second with
    | ifElse otherCondition otherThen otherElse =>
      refine ((Condition.tells firstPlain.1 secondPlain.1).two
        ((ihThen firstPlain.2.1 secondPlain.2.1).two
          (ihElse firstPlain.2.2 secondPlain.2.2))).imp ?_
      intro same
      obtain ⟨rfl, rfl, rfl⟩ := same
      rfl
    | _ => exact tells_of_head_ne nofun
  | forLoop setup bound body ih =>
    cases second with
    | forLoop otherSetup otherBound otherBody =>
      refine (((Assignment.tells firstPlain.1 secondPlain.1).two
        (Expr.tells firstPlain.2.1 secondPlain.2.1)).two
          (ih firstPlain.2.2 secondPlain.2.2)).imp ?_
      intro same
      obtain ⟨⟨rfl, rfl⟩, rfl⟩ := same
      rfl
    | _ => exact tells_of_head_ne nofun
  | funDef name body ih =>
    cases second with
    | funDef otherName otherBody =>
      refine ((tells_name firstPlain.1 secondPlain.1).two (ih firstPlain.2 secondPlain.2)).imp ?_
      intro same
      obtain ⟨rfl, rfl⟩ := same
      rfl
    | _ => exact tells_of_head_ne nofun
  | funCall name =>
    cases second with
    | funCall other => exact (tells_name firstPlain secondPlain).one.imp (congrArg funCall)
    | _ => exact tells_of_head_ne nofun

/-- Plain statements that are written alike are the same. -/
theorem tuple_inj (firstPlain : first.Plain) (secondPlain : second.Plain)
    (same : first.tuple = second.tuple) : first = second :=
  (tells firstPlain secondPlain [] [] (by rw [same])).1

/-! Two statements that are not plain may be written alike. -/

example : tuple (.assign ⟨"a", .str "b', '\"c"⟩) = tuple (.assign ⟨"a', '\"b", .str "c"⟩) := by
  decide +kernel

end Statement

end MiniBasic
