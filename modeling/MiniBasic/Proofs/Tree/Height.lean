import MiniBasic.Tree.Shape

/-!
# Height and need

The height of a tree adds up what its need only compares: the operators of a run, the minus signs
at its head and what its right operands are made of.  So a shaped tree may be higher than its need,
but no more than about three times.

*Bound.*  On a way down through a shaped expression there is at most one run of sums, one run of
products and one row of minus signs, since a right operand is tighter than its operator.  Each of
them is at most the need, which bounds the height (`Expr.height_le`).  A statement around it takes
a level of both (`Statement.height_le_heightBound`).

*Tower.*  A row of minus signs at the head of a run of products, as the first right operand of a
run of sums, has all three on one way down.  Its height is the bound (`Statement.height_tower`).
-/

namespace MiniBasic

/-! ## The bound -/

/-- A term under minus signs is as high as there are signs, and the term. -/
theorem Expr.height_of_tight {expr : Expr} (shaped : expr.Shaped)
    (tight : negationBinding.level ≤ expr.level) : expr.height = expr.signs + 1 := by
  induction expr with
  | num | var => rfl
  | neg operand ih =>
    rw [height, signs, ih shaped.1 (Nat.le_of_eq shaped.2.symm)]
  | binary left op right => exact absurd tight not_tight_binary

theorem Expr.runLength_of_tight {expr : Expr} (tight : negationBinding.level ≤ expr.level) :
    expr.runLength = 0 := by
  cases expr with
  | num | var | neg => rfl
  | binary left op right => exact absurd tight not_tight_binary

theorem Expr.innerNeed_of_tight {expr : Expr} (tight : negationBinding.level ≤ expr.level) :
    expr.innerNeed = expr.signs := by
  cases expr with
  | num | var | neg => rfl
  | binary left op right => exact absurd tight not_tight_binary

theorem Expr.need_of_tight {expr : Expr} (tight : negationBinding.level ≤ expr.level) :
    expr.need = expr.signs + 1 := by
  rw [need, runLength_of_tight tight, innerNeed_of_tight tight, Nat.zero_max]

/-- A product is no higher than its run and its highest operand. -/
theorem Expr.height_le_of_product {expr : Expr} (shaped : expr.Shaped)
    (product : Operator.mul.binding.level ≤ expr.level) :
    expr.height ≤ expr.runLength + expr.innerNeed + 1 := by
  induction expr with
  | num | var | neg =>
    rw [height_of_tight shaped (Nat.le_refl _), innerNeed_of_tight (Nat.le_refl _)]
    exact Nat.add_le_add_right (Nat.le_add_left ..) 1
  | binary left op right ihLeft ihRight =>
    obtain ⟨leftShaped, rightShaped, leftLevel, rightLevel⟩ := shaped
    have tight : negationBinding.level ≤ right.level := Nat.lt_of_le_of_lt product rightLevel
    have ofLeft := ihLeft leftShaped (Nat.le_trans product leftLevel)
    have ofRight := height_of_tight rightShaped tight
    rw [height, runLength, innerNeed_binary, need_of_tight tight]
    omega

/-- An expression is no higher than its run, and the run and the signs of its highest product. -/
theorem Expr.height_le {expr : Expr} (shaped : expr.Shaped) :
    expr.height ≤ expr.runLength + max (expr.innerNeed + 1) (2 * expr.innerNeed - 1) := by
  induction expr with
  | num | var | neg =>
    have ofProduct := height_le_of_product shaped (Nat.le_succ _)
    omega
  | binary left op right ihLeft ihRight =>
    obtain ⟨leftShaped, rightShaped, leftLevel, rightLevel⟩ := shaped
    have product : Operator.mul.binding.level ≤ right.level :=
      Nat.lt_of_le_of_lt (one_le_level (binary left op right)) rightLevel
    have ofLeft := ihLeft leftShaped
    have ofRight := height_le_of_product rightShaped product
    rw [height, runLength, innerNeed_binary, need]
    omega

/-- How high a shaped statement of a need may be. -/
def heightBound (need : Nat) : Nat := max need (max (2 * need - 2) (3 * need - 6))

theorem heightBound_mono {m n : Nat} (le : m ≤ n) : heightBound m ≤ heightBound n := by
  unfold heightBound
  omega

/-- A level more takes a level more. -/
theorem succ_le_heightBound {height need : Nat} (le : height ≤ heightBound need) :
    height + 1 ≤ heightBound (need + 1) := by
  unfold heightBound at le ⊢
  omega

/-- The bound holds above two parts if it holds above each. -/
theorem max_le_heightBound {height₁ height₂ need₁ need₂ : Nat}
    (le₁ : height₁ + 1 ≤ heightBound (need₁ + 1)) (le₂ : height₂ + 1 ≤ heightBound (need₂ + 1)) :
    max height₁ height₂ + 1 ≤ heightBound (max need₁ need₂ + 1) := by
  have mono₁ := heightBound_mono (Nat.add_le_add_right (Nat.le_max_left need₁ need₂) 1)
  have mono₂ := heightBound_mono (Nat.add_le_add_right (Nat.le_max_right need₁ need₂) 1)
  omega

theorem Expr.height_le_heightBound {expr : Expr} (shaped : expr.Shaped) :
    expr.height + 1 ≤ heightBound (expr.need + 1) := by
  have atMost := height_le shaped
  rw [need, heightBound]
  omega

theorem Value.height_le_heightBound {value : Value} (shaped : value.Shaped) :
    value.height + 1 ≤ heightBound (value.need + 1) := by
  cases value with
  | expr body => exact Expr.height_le_heightBound shaped
  | str text => exact Nat.le_max_left ..

theorem Condition.height_le_heightBound {condition : Condition} (shaped : condition.Shaped) :
    condition.height + 1 ≤ heightBound (condition.need + 1) :=
  max_le_heightBound (Expr.height_le_heightBound shaped.1) (Expr.height_le_heightBound shaped.2)

/-- A shaped statement is no higher than the bound for its need. -/
theorem Statement.height_le_heightBound {whole : Statement} (shaped : whole.Shaped) :
    whole.height ≤ heightBound whole.need := by
  induction whole with
  | empty | funCall => exact Nat.le_max_left ..
  | expr body => exact Expr.height_le_heightBound shaped
  | assign setup => exact Value.height_le_heightBound shaped
  | ifElse condition thenBranch elseBranch ihThen ihElse =>
    obtain ⟨conditionShaped, thenShaped, elseShaped⟩ := shaped
    have ofThen := succ_le_heightBound (ihThen thenShaped)
    have ofElse := succ_le_heightBound (ihElse elseShaped)
    exact max_le_heightBound (Condition.height_le_heightBound conditionShaped)
      (max_le_heightBound ofThen ofElse)
  | forLoop setup bound body ih =>
    obtain ⟨setupShaped, boundShaped, bodyShaped⟩ := shaped
    have ofBody := succ_le_heightBound (ih bodyShaped)
    exact max_le_heightBound (Value.height_le_heightBound setupShaped)
      (max_le_heightBound (Expr.height_le_heightBound boundShaped) ofBody)
  | funDef name body ih => exact succ_le_heightBound (ih shaped)

/-! ## The tower -/

/-- An expression under a row of minus signs. -/
def Expr.underSigns (operand : Expr) : Nat → Expr
  | 0 => operand
  | count + 1 => neg (operand.underSigns count)

/-- An expression at the head of a run of one operator over zeros. -/
def Expr.headOf (head : Expr) (op : Operator) : Nat → Expr
  | 0 => head
  | count + 1 => binary (head.headOf op count) op (num 0)

/-- A row of minus signs at the head of a run of products. -/
def Expr.productTower (count : Nat) : Expr := ((num 0).underSigns count).headOf .mul count

/-- The same as the first right operand of a run of sums. -/
def Expr.tower (count : Nat) : Expr := (binary (num 0) .add (productTower count)).headOf .add count

/-- The same as a statement. -/
def Statement.tower (count : Nat) : Statement := expr (.tower count)

/-- A zero under a row of minus signs, as a statement. -/
def Statement.signs (count : Nat) : Statement := expr ((Expr.num 0).underSigns count)

theorem Expr.height_pos (expr : Expr) : 0 < expr.height := by
  cases expr <;> exact Nat.succ_pos _

section Tower

variable {head : Expr} {op : Operator} {count : Nat}

theorem Expr.tight_underSigns_num :
    negationBinding.level ≤ ((num 0).underSigns count).level := by
  cases count with
  | zero => exact Nat.le_refl _
  | succ count => exact Nat.le_refl _

theorem Expr.shaped_underSigns_num : ((num 0).underSigns count).Shaped := by
  induction count with
  | zero => exact trivial
  | succ count ih => exact ⟨ih, Nat.le_antisymm (level_le _) tight_underSigns_num⟩

theorem Expr.signs_underSigns_num : ((num 0).underSigns count).signs = count := by
  induction count with
  | zero => rfl
  | succ count ih => rw [underSigns, signs, ih]

theorem Statement.shaped_signs : (signs count).Shaped :=
  Expr.shaped_underSigns_num

theorem Statement.need_signs : (signs count).need = count + 2 := by
  rw [signs, need, Expr.need_of_tight Expr.tight_underSigns_num, Expr.signs_underSigns_num]

theorem Expr.level_headOf (weaker : op.binding.level ≤ head.level) :
    op.binding.level ≤ (head.headOf op count).level := by
  cases count with
  | zero => exact weaker
  | succ count => exact Nat.le_refl _

theorem Expr.shaped_headOf (shaped : head.Shaped) (weaker : op.binding.level ≤ head.level) :
    (head.headOf op count).Shaped := by
  induction count with
  | zero => exact shaped
  | succ count ih => exact ⟨ih, trivial, level_headOf weaker, op.level_lt_negation⟩

theorem Expr.runLength_headOf : (head.headOf op count).runLength = head.runLength + count := by
  induction count with
  | zero => rfl
  | succ count ih => rw [headOf, runLength, ih, Nat.add_assoc]

theorem Expr.innerNeed_headOf (positive : 1 ≤ head.innerNeed) :
    (head.headOf op count).innerNeed = head.innerNeed := by
  induction count with
  | zero => rfl
  | succ count ih => rw [headOf, innerNeed_binary, ih]; exact Nat.max_eq_left positive

theorem Expr.height_headOf : (head.headOf op count).height = head.height + count := by
  induction count with
  | zero => rfl
  | succ count ih =>
    have positive : 1 ≤ head.height + count := Nat.le_add_right_of_le head.height_pos
    rw [headOf, height, ih, height, Nat.max_eq_left positive, Nat.add_assoc]

theorem Expr.product_le_level_underSigns_num :
    Operator.mul.binding.level ≤ ((num 0).underSigns count).level :=
  Nat.le_trans (Nat.le_succ _) tight_underSigns_num

theorem Expr.shaped_productTower : (productTower count).Shaped :=
  shaped_headOf shaped_underSigns_num product_le_level_underSigns_num

theorem Expr.shaped_tower : (tower count).Shaped := by
  have level : Operator.mul.binding.level ≤ (productTower count).level :=
    level_headOf product_le_level_underSigns_num
  exact shaped_headOf ⟨trivial, shaped_productTower, by decide, level⟩ (Nat.le_refl _)

theorem Expr.need_productTower (positive : 1 ≤ count) : (productTower count).need = count + 1 := by
  have isInner : ((num 0).underSigns count).innerNeed = count := by
    rw [innerNeed_of_tight tight_underSigns_num, signs_underSigns_num]
  rw [productTower, need, runLength_headOf, innerNeed_headOf (isInner.symm ▸ positive), isInner,
    runLength_of_tight tight_underSigns_num, Nat.zero_add, Nat.max_self]

theorem Expr.need_tower (positive : 1 ≤ count) : (tower count).need = count + 2 := by
  have isInner : (binary (num 0) .add (productTower count)).innerNeed = count + 1 := by
    rw [innerNeed_binary, need_productTower positive]
    exact Nat.zero_max _
  rw [tower, need, runLength_headOf, innerNeed_headOf (isInner.symm ▸ Nat.le_add_left ..), isInner]
  show max (0 + 1 + count) (count + 1) + 1 = count + 2
  omega

theorem Expr.height_tower : (tower count).height = 3 * count + 2 := by
  have ofSigns : ((num 0).underSigns count).height = count + 1 := by
    rw [height_of_tight shaped_underSigns_num tight_underSigns_num, signs_underSigns_num]
  rw [tower, height_headOf, height, productTower, height_headOf, ofSigns, height]
  omega

theorem Statement.shaped_tower : (tower count).Shaped :=
  Expr.shaped_tower

theorem Statement.need_tower (positive : 1 ≤ count) : (tower count).need = count + 3 := by
  rw [tower, need, Expr.need_tower positive]

/-- The bound is reached: a tower is as high as its need allows. -/
theorem Statement.height_tower (positive : 1 ≤ count) :
    (tower count).height = heightBound (tower count).need := by
  rw [need_tower positive, tower, height, Expr.height_tower, heightBound]
  omega

end Tower

end MiniBasic
