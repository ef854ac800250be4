import MiniBasic.Proofs.Lexical.Piece
import MiniBasic.Proofs.Lexical.Token

/-!
# Parts that show where they end

A tree is written as one text, so each part of it has to show where it ends.  Two written parts
*tell* something if, whatever comes after each of them, they agree only if it is so and both end at
the same place (`Tells`).  Parts one behind the other tell what each of them tells (`Tells.append`),
which is how it goes from the leaves of a tree to the whole.

What ends at the first of some character tells itself (`Tells.upTo`), and so does a number with
anything behind it that does not go on (`tells_number`).  A row of parts goes part by part
(`Tells.part`), since the separators are the same.
-/

namespace MiniBasic

/-! ## Telling two texts apart -/

/-- Two texts, whatever follows each of them, agree only if something is so, and then they end at
the same place. -/
def Tells (first second : List Char) (same : Prop) : Prop :=
  ∀ r s, first ++ r = second ++ s → same ∧ r = s

namespace Tells

variable {a b c d : List Char} {x y : Char} {P Q : Prop}

theorem imp (tells : Tells a b P) (conclude : P → Q) : Tells a b Q := by
  intro r s agree
  obtain ⟨holds, rest⟩ := tells r s agree
  exact ⟨conclude holds, rest⟩

theorem symm (tells : Tells a b P) : Tells b a P := by
  intro r s agree
  obtain ⟨holds, rest⟩ := tells s r agree.symm
  exact ⟨holds, rest.symm⟩

theorem of_true (holds : P) : Tells a a P := by
  intro r s agree
  exact ⟨holds, List.append_cancel_left agree⟩

theorem of_ne (different : x ≠ y) : Tells (x :: a) (y :: b) P := by
  intro r s agree
  exact absurd (List.cons.inj agree).1 different

/-- What the front tells may be used for the back. -/
theorem append (front : Tells a b P) (back : P → Tells c d Q) :
    Tells (a ++ c) (b ++ d) (P ∧ Q) := by
  intro r s agree
  rw [List.append_assoc, List.append_assoc] at agree
  obtain ⟨holds, agree⟩ := front _ _ agree
  obtain ⟨others, rest⟩ := back holds r s agree
  exact ⟨⟨holds, others⟩, rest⟩

theorem prepend (front : List Char) (back : Tells a b P) : Tells (front ++ a) (front ++ b) P :=
  ((of_true trivial).append fun _ => back).imp And.right

/-- Two texts never agree if neither of their beginnings starts with the other. -/
theorem of_apart (first : a <+: c) (second : b <+: d) (notFirst : ¬ a <+: b)
    (notSecond : ¬ b <+: a) : Tells c d P := by
  intro r s agree
  have isFirst : a <+: c ++ r := first.trans (List.prefix_append c r)
  have isSecond : b <+: c ++ r := agree ▸ second.trans (List.prefix_append d s)
  rcases List.prefix_or_prefix_of_prefix isFirst isSecond with isPrefix | isPrefix
  · exact absurd isPrefix notFirst
  · exact absurd isPrefix notSecond

/-- Two texts up to the first of some character agree only if they are the same. -/
theorem upTo (inFirst : x ∉ a) (inSecond : x ∉ b) : Tells (a ++ [x]) (b ++ [x]) (a = b) := by
  have cutOff : ∀ {text}, x ∉ text → ∀ rest, (text ++ x :: rest).takeWhile (· != x) = text := by
    intro text notIn rest
    refine (Lexical.takeWhile_append_of_stop ?_ ?_).1
    · intro y isIn
      exact bne_iff_ne.mpr (ne_of_mem_of_not_mem isIn notIn)
    · simp
  intro r s agree
  simp only [List.append_assoc, List.singleton_append] at agree
  have same : a = b := by rw [← cutOff inFirst r, agree, cutOff inSecond]
  subst same
  exact ⟨rfl, (List.cons.inj (List.append_cancel_left agree)).2⟩

end Tells

/-! ## Rows -/

/-- Parts behind another one, each with a separator in front of it, and what ends them. -/
def listed (separator stop : List Char) : List String → List Char
  | [] => stop
  | part :: parts => separator ++ (part.toList ++ listed separator stop parts)

theorem toList_intercalate_append (separator part : String) (stop : List Char)
    (parts : List String) :
    (separator.intercalate (part :: parts)).toList ++ stop =
      part.toList ++ listed separator.toList stop parts := by
  rw [String.toList_intercalate]
  induction parts generalizing part with
  | nil => simp [listed]
  | cons next parts ih =>
    rw [List.map_cons, List.map_cons, List.intercalate_cons_cons, ← List.map_cons,
      List.append_assoc, ih, List.append_assoc]
    rfl

/-- A row tells what its first part and the others tell. -/
theorem Tells.part {separator stop : List Char} {part other : String} {parts others : List String}
    {P Q : Prop} (front : Tells part.toList other.toList P)
    (back : Tells (listed separator stop parts) (listed separator stop others) Q) :
    Tells (listed separator stop (part :: parts)) (listed separator stop (other :: others))
      (P ∧ Q) :=
  (front.append fun _ => back).prepend separator

/-! ## Numbers -/

/-- The value of digits, with or without a sign in front. -/
def signedValue : List Char → Int
  | '-' :: digits => -(Lexical.decimalValue digits : Int)
  | digits => Lexical.decimalValue digits

theorem signedValue_of_isDigits {digits : List Char} (isDigits : Lexical.IsDigits digits) :
    signedValue digits = Lexical.decimalValue digits := by
  unfold signedValue
  split
  · exact absurd (isDigits.2 '-' List.mem_cons_self) (by decide)
  · rfl

theorem toList_decimal_of_neg {value : Int64} (isNegative : ¬ 0 ≤ value.toInt) :
    (Token.decimal value).toList = '-' :: Nat.toDigits 10 (-value.toInt).toNat := by
  rw [Token.decimal, Int.toString_eq_repr, Int.repr_eq_if, if_neg isNegative,
    String.toList_append, Nat.toList_repr]
  rfl

/-- A number is known from how it is written, which is with digits and a sign only. -/
theorem signedValue_decimal (value : Int64) :
    signedValue (Token.decimal value).toList = value.toInt ∧
      ∀ c ∈ (Token.decimal value).toList, c = '-' ∨ c.isDigit = true := by
  by_cases isNat : 0 ≤ value.toInt
  · obtain ⟨isDigits, isValue⟩ := Lexical.toList_decimal (Int64.le_iff_toInt_le.mpr isNat)
    rw [signedValue_of_isDigits isDigits]
    exact ⟨isValue, fun c isIn => .inr (isDigits.2 c isIn)⟩
  · rw [toList_decimal_of_neg isNat]
    constructor
    · rw [signedValue, Lexical.decimalValue, Nat.ofDigitChars_toDigits (by decide) (by decide)]
      omega
    · intro c isIn
      refine (List.mem_cons.mp isIn).imp id fun isIn => ?_
      exact Nat.isDigit_of_mem_toDigits (by decide) (by decide) isIn

/-- A number ends where anything but a digit or a sign comes. -/
theorem tells_number {stop : Char} (noSign : stop ≠ '-') (noDigit : stop.isDigit = false)
    (first second : Int64) :
    Tells ((Token.decimal first).toList ++ [stop]) ((Token.decimal second).toList ++ [stop])
      (first = second) := by
  have notIn : ∀ value : Int64, stop ∉ (Token.decimal value).toList := by
    intro value isIn
    rcases (signedValue_decimal value).2 stop isIn with isSign | isDigit
    · exact noSign isSign
    · exact absurd (noDigit.symm.trans isDigit) (by decide)
  refine (Tells.upTo (notIn first) (notIn second)).imp fun same => ?_
  rw [← Int64.toInt_inj, ← (signedValue_decimal first).1, same, (signedValue_decimal second).1]

end MiniBasic
