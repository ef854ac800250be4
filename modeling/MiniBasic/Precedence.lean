import MiniBasic.Token
import MiniBasic.Tree

/-!
# Precedence

How tightly an operator holds its operands: a level, larger for tighter, and the side to which a
run of operators of one level leans.

The levels stand in a table, `precedence`, and the binding of an operator is looked up there.  Sums
are weakest, products tighter, a change of sign tightest (`OperatorKey.binding?_eq`).  Every
operator is in the table, so a lookup never fails.
-/

namespace MiniBasic

/-- The side to which operators of one level lean. -/
inductive Associativity where
  | left
  | right
deriving DecidableEq

/-- The binding of an operator. -/
structure Binding where
  /-- How tight it is, from 1 for the weakest. -/
  level : Nat
  /-- Where a run of it leans. -/
  associativity : Associativity
deriving DecidableEq

/-- The least level an operator must have to belong to the right operand: in a run that leans left,
only a tighter one does. -/
def Binding.rightLevel (binding : Binding) : Nat :=
  match binding.associativity with
  | .left => binding.level + 1
  | .right => binding.level

/-! ## The table -/

/-- What has a binding: an operator between two expressions, or the minus in front of one. -/
inductive OperatorKey where
  | binary (op : Operator)
  | negation
deriving DecidableEq

/-- The operators of one level. -/
structure PrecedenceLevel where
  associativity : Associativity
  operators : List OperatorKey

/-- The levels of all operators, the weakest first. -/
def precedence : List PrecedenceLevel :=
  [⟨.left, [.binary .add, .binary .sub]⟩,
   ⟨.left, [.binary .mul, .binary .div]⟩,
   ⟨.right, [.negation]⟩]

namespace OperatorKey

/-- The binding of the first level that lists an operator.  Levels are counted from 1. -/
def binding? (key : OperatorKey) : Option Binding :=
  precedence.zipIdx.findSome? fun (level, index) =>
    if key ∈ level.operators then some ⟨index + 1, level.associativity⟩ else none

theorem binding?_eq (key : OperatorKey) :
    key.binding? = some (match key with
      | binary .add | binary .sub => ⟨1, .left⟩
      | binary .mul | binary .div => ⟨2, .left⟩
      | negation => ⟨3, .right⟩) := by
  cases key with
  | binary op => cases op <;> rfl
  | negation => rfl

/-- Every operator is in the table. -/
theorem isSome_binding? (key : OperatorKey) : key.binding?.isSome = true := by
  rw [binding?_eq]
  rfl

/-- The binding of an operator. -/
def binding (key : OperatorKey) : Binding := key.binding?.get key.isSome_binding?

end OperatorKey

/-- The binding of an operator between two expressions. -/
def Operator.binding (op : Operator) : Binding := OperatorKey.binding (.binary op)

/-- The binding of the minus in front of an expression. -/
def negationBinding : Binding := OperatorKey.binding .negation

theorem Operator.binding_eq (op : Operator) :
    op.binding = match op with
      | add | sub => ⟨1, .left⟩
      | mul | div => ⟨2, .left⟩ := by
  cases op <;> rfl

theorem negationBinding_eq : negationBinding = ⟨3, .right⟩ := rfl

/-! ## Operators and tokens -/

/-- The operator that a token stands for, between two expressions. -/
def Operator.ofToken? : Token → Option Operator
  | .plus => some add
  | .minus => some sub
  | .star => some mul
  | .slash => some div
  | _ => none

/-- The token of an operator. -/
def Operator.token : Operator → Token
  | add => .plus
  | sub => .minus
  | mul => .star
  | div => .slash

@[simp] theorem Operator.ofToken?_token (op : Operator) : ofToken? op.token = some op := by
  cases op <;> rfl

theorem Operator.ofToken?_eq_some_iff {token : Token} {op : Operator} :
    ofToken? token = some op ↔ token = op.token := by
  constructor
  · intro found
    cases token <;> cases found <;> rfl
  · rintro rfl
    exact ofToken?_token op

/-- All operators lean left, so a right operand is tighter than its operator. -/
theorem Operator.rightLevel_binding (op : Operator) :
    op.binding.rightLevel = op.binding.level + 1 := by
  cases op <;> rfl

/-- A sum is weaker than a product, and a product than a change of sign. -/
theorem Operator.level_lt_negation (op : Operator) :
    op.binding.level < negationBinding.level := by
  cases op <;> decide

end MiniBasic
