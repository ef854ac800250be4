import MiniBasic.Proofs.Text.Quoted
import MiniBasic.Tree.Term

/-!
# Terms tell trees apart

Each part of a term shows where it ends, in either layout and at any depth: a quoted text at its
quote, a number at what is behind it, and a constructor with its arguments behind the last of them.
What stands between the arguments depends on the layout only, so terms with the same constructor
agree only if their arguments do (`Tells.applied`, `Tells.record`).  No constructor, with the
bracket behind it, starts another one (`Tells.of_opening_ne`).

So statements are the same if they are written alike (`Statement.tells_term`).  Unlike with tuples,
nothing is asked of their names and texts.
-/

namespace MiniBasic

/-! ## Layouts -/

namespace Layout

/-- The layout of what is inside a constructor. -/
def inner : Layout → Layout
  | line => line
  | block depth => block (depth + 1)

/-- What stands in front of an argument. -/
def beforeArgument : Layout → List Char
  | line => []
  | block depth => '\n' :: (indent (depth + 1)).toList

/-- What stands behind an argument and ends its constructor. -/
def behindArgument : Layout → List Char
  | line => [')']
  | block depth => ',' :: '\n' :: (indent depth).toList ++ [')']

/-- What stands in front of a field. -/
def beforeField : Layout → List Char
  | line => [' ']
  | block depth => '\n' :: (indent (depth + 1)).toList

/-- What stands behind the last field and ends its constructor. -/
def behindFields : Layout → List Char
  | line => [' ', '\x7d']
  | block depth => ',' :: '\n' :: (indent depth).toList ++ ['\x7d']

/-- A field as it stands in a layout. -/
def field (layout : Layout) (field : String × (Layout → String)) : String :=
  field.1 ++ ": " ++ field.2 layout.inner

/-- The fields behind another one, and what ends their constructor. -/
def otherFields (layout : Layout) (fields : List (String × (Layout → String))) : List Char :=
  listed (',' :: layout.beforeField) layout.behindFields (fields.map layout.field)

theorem toList_applied (layout : Layout) (head : String) (argument : Layout → String) :
    (layout.applied head argument).toList = (head ++ "(").toList ++
      (layout.beforeArgument ++ ((argument layout.inner).toList ++ layout.behindArgument)) := by
  cases layout <;> simp [applied, inner, beforeArgument, behindArgument]

/-- Lines that all end in the same way are the first of them and the others behind this end. -/
theorem toList_join_append (before behind : String) (stop : List Char) (part : String)
    (parts : List String) :
    (String.join ((part :: parts).map fun part => before ++ part ++ behind)).toList ++ stop =
      before.toList ++ (part.toList ++
        listed (behind ++ before).toList (behind.toList ++ stop) parts) := by
  induction parts generalizing part with
  | nil => simp [listed]
  | cons next parts ih =>
    rw [List.map_cons, String.join_cons, String.toList_append, List.append_assoc, ih]
    simp [listed]

theorem toList_record (layout : Layout) (head : String) (first : String × (Layout → String))
    (fields : List (String × (Layout → String))) :
    (layout.record head (first :: fields)).toList = (head ++ " \x7b").toList ++
      (layout.beforeField ++ ((layout.field first).toList ++ layout.otherFields fields)) := by
  cases layout with
  | line =>
    have inside := toList_intercalate_append ", " (line.field first) [' ', '\x7d']
      (fields.map line.field)
    show (head ++ " \x7b " ++ ", ".intercalate (line.field first :: fields.map line.field) ++
      " \x7d").toList = _
    rw [String.toList_append, String.toList_append, List.append_assoc]
    refine (congrArg ((head ++ " \x7b ").toList ++ ·) inside).trans ?_
    simp [otherFields, beforeField, behindFields]
  | block depth =>
    have inside := toList_join_append (indent (depth + 1)) ",\n"
      ((indent depth).toList ++ ['\x7d']) ((block depth).field first)
      (fields.map (block depth).field)
    have lines : ((first :: fields).map fun field =>
        indent (depth + 1) ++ field.1 ++ ": " ++ field.2 (block (depth + 1)) ++ ",\n") =
        ((block depth).field first :: fields.map (block depth).field).map fun part =>
          indent (depth + 1) ++ part ++ ",\n" := by
      simp [Layout.field, inner, String.append_assoc]
    have closing : (indent depth ++ "\x7d").toList = (indent depth).toList ++ ['\x7d'] := by simp
    rw [record, lines, String.append_assoc, String.toList_append, String.toList_append,
      List.append_assoc, closing]
    refine (congrArg ((head ++ " \x7b\n").toList ++ ·) inside).trans ?_
    simp [otherFields, beforeField, behindFields]

end Layout

/-! ## Constructors -/

/-- The constructors between which there is a choice, each with what follows it in every layout. -/
def openings : List String :=
  ["Num" ++ "(", "Var" ++ "(", "Neg" ++ "(", "BinaryOp" ++ " \x7b", "Str" ++ "(", "Empty",
    "Expr" ++ "(", "Assignment" ++ "(", "If" ++ " \x7b", "ForLoop" ++ " \x7b",
    "FunctionDef" ++ " \x7b", "FunctionCall" ++ " \x7b"]

/-- A text starts with one of the constructors. -/
structure Opens (opening : String) (text : List Char) : Prop where
  isOpening : opening ∈ openings
  isPrefix : opening.toList <+: text

namespace Layout

variable {layout : Layout} {head : String}

theorem opens_applied {argument : Layout → String} (isOpening : head ++ "(" ∈ openings) :
    Opens (head ++ "(") (layout.applied head argument).toList :=
  ⟨isOpening, layout.toList_applied head argument ▸ List.prefix_append _ _⟩

theorem opens_record {first : String × (Layout → String)}
    {fields : List (String × (Layout → String))} (isOpening : head ++ " \x7b" ∈ openings) :
    Opens (head ++ " \x7b") (layout.record head (first :: fields)).toList :=
  ⟨isOpening, layout.toList_record head first fields ▸ List.prefix_append _ _⟩

end Layout

namespace Tells

variable {layout : Layout} {head name : String} {P Q : Prop}
  {value other argument otherArgument : Layout → String}
  {fields others : List (String × (Layout → String))}

/-- Different constructors do not agree. -/
theorem of_opening_ne {opening otherOpening : String} {a b : List Char} (first : Opens opening a)
    (second : Opens otherOpening b) (different : opening ≠ otherOpening) : Tells a b P := by
  have apart : ∀ first ∈ openings, ∀ second ∈ openings, first.toList <+: second.toList →
      first = second := by
    decide +kernel
  refine .of_apart first.isPrefix second.isPrefix (fun isPrefix => ?_) (fun isPrefix => ?_)
  · exact different (apart _ first.isOpening _ second.isOpening isPrefix)
  · exact different (apart _ second.isOpening _ first.isOpening isPrefix).symm

/-- Constructors with one argument tell what the arguments tell together with what is behind. -/
theorem applied_of_behind
    (tells : Tells ((argument layout.inner).toList ++ layout.behindArgument)
      ((otherArgument layout.inner).toList ++ layout.behindArgument) P) :
    Tells (layout.applied head argument).toList (layout.applied head otherArgument).toList P := by
  rw [Layout.toList_applied, Layout.toList_applied]
  exact (tells.prepend _).prepend _

theorem applied
    (tells : Tells (argument layout.inner).toList (otherArgument layout.inner).toList P) :
    Tells (layout.applied head argument).toList (layout.applied head otherArgument).toList P :=
  applied_of_behind ((tells.append fun _ => of_true trivial).imp And.left)

theorem field (tells : Tells (value layout.inner).toList (other layout.inner).toList P) :
    Tells (layout.field (name, value)).toList (layout.field (name, other)).toList P := by
  have written : ∀ value, (layout.field (name, value)).toList =
      (name ++ ": ").toList ++ (value layout.inner).toList := fun _ => String.toList_append
  rw [written, written]
  exact tells.prepend _

/-- Constructors with fields tell what the fields tell. -/
theorem record (front : Tells (value layout.inner).toList (other layout.inner).toList P)
    (back : Tells (layout.otherFields fields) (layout.otherFields others) Q) :
    Tells (layout.record head ((name, value) :: fields)).toList
      (layout.record head ((name, other) :: others)).toList (P ∧ Q) := by
  rw [Layout.toList_record, Layout.toList_record]
  exact (((field front).append fun _ => back).prepend _).prepend _

theorem nextField (front : Tells (value layout.inner).toList (other layout.inner).toList P)
    (back : Tells (layout.otherFields fields) (layout.otherFields others) Q) :
    Tells (layout.otherFields ((name, value) :: fields))
      (layout.otherFields ((name, other) :: others)) (P ∧ Q) :=
  (field front).part back

theorem noFields : Tells (layout.otherFields []) (layout.otherFields []) True := .of_true trivial

end Tells

/-! ## Leaves -/

theorem tells_decimal (layout : Layout) (first second : Int64) :
    Tells ((Token.decimal first).toList ++ layout.behindArgument)
      ((Token.decimal second).toList ++ layout.behindArgument) (first = second) := by
  obtain ⟨stop, rest, isBehind, noSign, noDigit⟩ : ∃ stop rest,
      layout.behindArgument = [stop] ++ rest ∧ stop ≠ '-' ∧ stop.isDigit = false := by
    cases layout
    · exact ⟨')', [], rfl, by decide, by decide⟩
    · exact ⟨',', _, rfl, by decide, by decide⟩
  rw [isBehind, ← List.append_assoc, ← List.append_assoc]
  have numbers := tells_number noSign noDigit first second
  exact (numbers.append fun _ => .of_true (a := rest) trivial).imp And.left

theorem Operator.tells_term (first second : Operator) :
    Tells first.term.toList second.term.toList (first = second) := by
  by_cases same : first = second
  · exact same ▸ .of_true rfl
  · refine .of_apart List.prefix_rfl List.prefix_rfl ?_ ?_ <;>
      revert same <;> cases first <;> cases second <;> decide +kernel

theorem Relation.tells_term (first second : Relation) :
    Tells first.term.toList second.term.toList (first = second) := by
  by_cases same : first = second
  · exact same ▸ .of_true rfl
  · refine .of_apart List.prefix_rfl List.prefix_rfl ?_ ?_ <;>
      revert same <;> cases first <;> cases second <;> decide +kernel

/-! ## Trees -/

namespace Expr

variable {first second : Expr} {layout : Layout}

/-- The constructor of an expression. -/
def opening : Expr → String
  | num _ => "Num" ++ "("
  | var _ => "Var" ++ "("
  | neg _ => "Neg" ++ "("
  | binary _ _ _ => "BinaryOp" ++ " \x7b"

theorem opens_term (expr : Expr) (layout : Layout) :
    Opens expr.opening (expr.term layout).toList := by
  cases expr with
  | num | var | neg => exact Layout.opens_applied (by decide)
  | binary => exact Layout.opens_record (by decide)

theorem tells_of_opening_ne {P : Prop} (different : first.opening ≠ second.opening) :
    Tells (first.term layout).toList (second.term layout).toList P :=
  .of_opening_ne (first.opens_term layout) (second.opens_term layout) different

theorem tells_term (first second : Expr) (layout : Layout) :
    Tells (first.term layout).toList (second.term layout).toList (first = second) := by
  induction first generalizing second layout with
  | num value =>
    cases second with
    | num other => exact .imp (.applied_of_behind (tells_decimal layout value other)) (congrArg num)
    | _ => exact tells_of_opening_ne (by simp [opening])
  | var name =>
    cases second with
    | var other => exact .imp (.applied (Text.tells_quote name other)) (congrArg var)
    | _ => exact tells_of_opening_ne (by simp [opening])
  | neg operand ih =>
    cases second with
    | neg other => exact .imp (.applied (ih other layout.inner)) (congrArg neg)
    | _ => exact tells_of_opening_ne (by simp [opening])
  | binary left op right ihLeft ihRight =>
    cases second with
    | binary otherLeft otherOp otherRight =>
      refine .imp (.record (ihLeft otherLeft layout.inner)
        (.nextField (op.tells_term otherOp)
          (.nextField (ihRight otherRight layout.inner) .noFields))) ?_
      rintro ⟨rfl, rfl, rfl, -⟩
      rfl
    | _ => exact tells_of_opening_ne (by simp [opening])

end Expr

theorem Value.tells_term (first second : Value) (layout : Layout) :
    Tells (first.term layout).toList (second.term layout).toList (first = second) := by
  have apart : ∀ (body : Expr) (text : String) (P : Prop),
      Tells ((expr body).term layout).toList ((str text).term layout).toList P := by
    intro body text P
    refine .of_opening_ne (Layout.opens_applied ?_) (Layout.opens_applied ?_) ?_ <;> decide
  cases first with
  | expr body =>
    cases second with
    | expr other => exact .imp (.applied (body.tells_term other layout.inner)) (congrArg expr)
    | str other => exact apart body other _
  | str text =>
    cases second with
    | expr other => exact (apart other text _).symm
    | str other => exact .imp (.applied (Text.tells_quote text other)) (congrArg str)

theorem Assignment.tells_term (first second : Assignment) (layout : Layout) :
    Tells (first.term layout).toList (second.term layout).toList (first = second) := by
  obtain ⟨name, value⟩ := first
  obtain ⟨otherName, otherValue⟩ := second
  refine .imp (.record (Text.tells_quote name otherName)
    (.nextField (value.tells_term otherValue layout.inner) .noFields)) ?_
  rintro ⟨rfl, rfl, -⟩
  rfl

theorem Condition.tells_term (first second : Condition) (layout : Layout) :
    Tells (first.term layout).toList (second.term layout).toList (first = second) := by
  obtain ⟨relation, left, right⟩ := first
  obtain ⟨otherRelation, otherLeft, otherRight⟩ := second
  refine .imp (.record (relation.tells_term otherRelation)
    (.nextField (left.tells_term otherLeft layout.inner)
      (.nextField (right.tells_term otherRight layout.inner) .noFields))) ?_
  rintro ⟨rfl, rfl, rfl, -⟩
  rfl

namespace Statement

variable {first second : Statement} {layout : Layout}

/-- The constructor of a statement. -/
def opening : Statement → String
  | empty => "Empty"
  | expr _ => "Expr" ++ "("
  | assign _ => "Assignment" ++ "("
  | ifElse _ _ _ => "If" ++ " \x7b"
  | forLoop _ _ _ => "ForLoop" ++ " \x7b"
  | funDef _ _ => "FunctionDef" ++ " \x7b"
  | funCall _ => "FunctionCall" ++ " \x7b"

theorem opens_term (whole : Statement) (layout : Layout) :
    Opens whole.opening (whole.term layout).toList := by
  cases whole with
  | empty => exact ⟨by decide, List.prefix_rfl⟩
  | expr | assign => exact Layout.opens_applied (by decide)
  | ifElse | forLoop | funDef | funCall => exact Layout.opens_record (by decide)

theorem tells_of_opening_ne {P : Prop} (different : first.opening ≠ second.opening) :
    Tells (first.term layout).toList (second.term layout).toList P :=
  .of_opening_ne (first.opens_term layout) (second.opens_term layout) different

theorem tells_term (first second : Statement) (layout : Layout) :
    Tells (first.term layout).toList (second.term layout).toList (first = second) := by
  induction first generalizing second layout with
  | empty =>
    cases second with
    | empty => exact .of_true rfl
    | _ => exact tells_of_opening_ne (by simp [opening])
  | expr body =>
    cases second with
    | expr other => exact .imp (.applied (body.tells_term other layout.inner)) (congrArg expr)
    | _ => exact tells_of_opening_ne (by simp [opening])
  | assign setup =>
    cases second with
    | assign other => exact .imp (.applied (setup.tells_term other layout.inner)) (congrArg assign)
    | _ => exact tells_of_opening_ne (by simp [opening])
  | ifElse condition thenBranch elseBranch ihThen ihElse =>
    cases second with
    | ifElse otherCondition otherThen otherElse =>
      refine .imp (.record (condition.tells_term otherCondition layout.inner)
        (.nextField (ihThen otherThen layout.inner)
          (.nextField (ihElse otherElse layout.inner) .noFields))) ?_
      rintro ⟨rfl, rfl, rfl, -⟩
      rfl
    | _ => exact tells_of_opening_ne (by simp [opening])
  | forLoop setup bound body ih =>
    cases second with
    | forLoop otherSetup otherBound otherBody =>
      refine .imp (.record (setup.tells_term otherSetup layout.inner)
        (.nextField (bound.tells_term otherBound layout.inner)
          (.nextField (ih otherBody layout.inner) .noFields))) ?_
      rintro ⟨rfl, rfl, rfl, -⟩
      rfl
    | _ => exact tells_of_opening_ne (by simp [opening])
  | funDef name body ih =>
    cases second with
    | funDef otherName otherBody =>
      refine .imp (.record (Text.tells_quote name otherName)
        (.nextField (ih otherBody layout.inner) .noFields)) ?_
      rintro ⟨rfl, rfl, -⟩
      rfl
    | _ => exact tells_of_opening_ne (by simp [opening])
  | funCall name =>
    cases second with
    | funCall other =>
      exact .imp (.record (Text.tells_quote name other) .noFields) fun same =>
        congrArg funCall same.1
    | _ => exact tells_of_opening_ne (by simp [opening])

/-- In each layout, different statements are written differently. -/
theorem term_injective (layout : Layout) : Function.Injective (term · layout) := by
  intro first second same
  exact (tells_term first second layout [] [] (by rw [show first.term layout = _ from same])).1

/-- Both the form on one line and the form over many lines are faithful to all statements, whatever
names, texts and numbers they hold. -/
theorem compact_indented_injective :
    Function.Injective compact ∧ Function.Injective indented :=
  ⟨term_injective .line, term_injective (.block 0)⟩

/-! Two statements that have the same tuple have different terms. -/

example : compact (.assign ⟨"a", .str "b', '\"c"⟩) ≠ compact (.assign ⟨"a', '\"b", .str "c"⟩) := by
  decide +kernel

end Statement

end MiniBasic
