import MiniBasic.Proofs.Lexical.Piece
import MiniBasic.Text.Unstyled

/-!
# Styles can be taken out

Output whose texts hold no escape character is the same without its style sequences as when it is
written without styles (`Styled.unstyled_write`).  Each style sequence is recognised as one, since
the number in it is written with digits only (`styleLength_styleSequence`).  And nothing else is
taken for one, since all others start in no text (`unstyledFrom_append`).
-/

namespace MiniBasic.Text

variable {text : List Char}

/-! ## Taking out sequences -/

theorem unstyledFrom_eq_drop (skipped : Nat) (text : List Char) :
    unstyledFrom skipped text = unstyledFrom 0 (text.drop skipped) := by
  induction text generalizing skipped with
  | nil => cases skipped <;> rfl
  | cons c rest ih =>
    cases skipped with
    | zero => rfl
    | succ skipped => exact ih skipped

/-- What starts with a style sequence goes on behind it. -/
theorem unstyledFrom_of_styleLength_pos (starts : 0 < styleLength text) :
    unstyledFrom 0 text = unstyledFrom 0 (text.drop (styleLength text)) := by
  cases text with
  | nil => cases starts
  | cons c rest =>
    obtain ⟨skipped, isLength⟩ := Nat.exists_eq_add_one_of_ne_zero (Nat.ne_of_gt starts)
    rw [unstyledFrom, isLength]
    exact unstyledFrom_eq_drop skipped rest

theorem styleLength_of_ne {c : Char} (other : c ≠ '\x1b') (rest : List Char) :
    styleLength (c :: rest) = 0 := by
  unfold styleLength
  split
  next same => exact absurd (List.cons.inj same).1 other
  next => rfl

/-- A text without escape characters stays as it is, whatever follows. -/
theorem unstyledFrom_append (bare : '\x1b' ∉ text) (rest : List Char) :
    unstyledFrom 0 (text ++ rest) = text ++ unstyledFrom 0 rest := by
  induction text with
  | nil => rfl
  | cons c text ih =>
    obtain ⟨other, bare⟩ := not_or.mp (mt List.mem_cons.mpr bare)
    rw [List.cons_append, unstyledFrom, styleLength_of_ne (Ne.symm other), ih bare]
    rfl

theorem toList_styleSequence (code : Nat) :
    (styleSequence code).toList = '\x1b' :: '[' :: (Nat.toDigits 10 code ++ ['m']) := by
  simp [styleSequence, ← Nat.toList_repr]

theorem styleLength_styleSequence (code : Nat) (rest : List Char) :
    styleLength ((styleSequence code).toList ++ rest) = (styleSequence code).toList.length := by
  have run : (Nat.toDigits 10 code ++ 'm' :: rest).takeWhile Char.isDigit =
      Nat.toDigits 10 code := by
    refine (Lexical.takeWhile_append_of_stop (fun c isIn => ?_) ?_).1
    · exact Nat.isDigit_of_mem_toDigits (by decide) (by decide) isIn
    · simp
  rw [toList_styleSequence]
  show styleLength ('\x1b' :: '[' :: ((Nat.toDigits 10 code ++ ['m']) ++ rest)) = _
  rw [List.append_assoc, List.singleton_append, styleLength]
  simp [run, Nat.toDigits_ne_nil]

theorem unstyledFrom_styleSequence (code : Nat) (rest : List Char) :
    unstyledFrom 0 ((styleSequence code).toList ++ rest) = unstyledFrom 0 rest := by
  have isLength := styleLength_styleSequence code rest
  have starts : 0 < styleLength ((styleSequence code).toList ++ rest) := by
    rw [isLength, toList_styleSequence]
    exact Nat.succ_pos _
  rw [unstyledFrom_of_styleLength_pos starts, isLength, List.drop_left]

/-! ## Segments -/

theorem unstyledFrom_sequences (codes : List Nat) (rest : List Char) :
    unstyledFrom 0 ((String.join (codes.map styleSequence)).toList ++ rest) =
      unstyledFrom 0 rest := by
  induction codes with
  | nil => simp
  | cons code codes ih =>
    rw [List.map_cons, String.join_cons, String.toList_append, List.append_assoc,
      unstyledFrom_styleSequence, ih]

/-- Of a segment, its text is left. -/
theorem unstyledFrom_coloured {segment : Segment} (bare : Bare segment.text) (rest : List Char) :
    unstyledFrom 0 (segment.coloured.toList ++ rest) =
      segment.text.toList ++ unstyledFrom 0 rest := by
  unfold Segment.coloured
  split
  next => exact unstyledFrom_append bare rest
  next codes _ =>
    rw [String.toList_append, String.toList_append, List.append_assoc, List.append_assoc,
      unstyledFrom_sequences, unstyledFrom_append bare, unstyledFrom_styleSequence]

/-! ## Bare texts -/

section Bare

variable {first second : String} {texts : List String}

@[simp] theorem bare_append : Bare (first ++ second) ↔ Bare first ∧ Bare second := by
  simp [Bare]

@[simp] theorem bare_ofList : Bare (String.ofList text) ↔ '\x1b' ∉ text := by
  rw [Bare, String.toList_ofList]

/-- A text that is written out is looked through. -/
theorem bare_literal (free : text.contains '\x1b' = false) : Bare (String.ofList text) :=
  bare_ofList.mpr fun isIn => by simp [isIn] at free

@[simp] theorem bare_singleton {c : Char} : Bare (String.singleton c) ↔ c ≠ '\x1b' := by
  simp [Bare, eq_comm]

theorem bare_join (all : ∀ text ∈ texts, Bare text) : Bare (String.join texts) := by
  induction texts with
  | nil => decide
  | cons text texts ih =>
    obtain ⟨bare, others⟩ := List.forall_mem_cons.mp all
    rw [String.join_cons, bare_append]
    exact ⟨bare, ih others⟩

theorem bare_intercalate {separator : String} (between : Bare separator)
    (all : ∀ text ∈ texts, Bare text) : Bare (separator.intercalate texts) := by
  rw [Bare, String.toList_intercalate]
  induction texts with
  | nil => exact List.not_mem_nil
  | cons text texts ih =>
    obtain ⟨bare, others⟩ := List.forall_mem_cons.mp all
    cases texts with
    | nil => simpa [Bare] using bare
    | cons next texts =>
      rw [List.map_cons, List.map_cons, List.intercalate_cons_cons, ← List.map_cons,
        List.mem_append, List.mem_append]
      exact not_or.mpr ⟨not_or.mpr ⟨bare, between⟩, ih others⟩

theorem bare_pushn (bare : Bare first) {c : Char} (other : c ≠ '\x1b') (n : Nat) :
    Bare (first.pushn c n) := by
  induction n with
  | zero => exact bare
  | succ n ih =>
    show '\x1b' ∉ ((first.pushn c n).push c).toList
    rw [String.toList_push, List.mem_append, List.mem_singleton]
    exact not_or.mpr ⟨ih, other.symm⟩

/-- A number is written with digits. -/
theorem bare_toString (n : Nat) : Bare (toString n) := by
  show '\x1b' ∉ n.repr.toList
  rw [Nat.toList_repr]
  intro isIn
  exact absurd (Nat.isDigit_of_mem_toDigits (by decide) (by decide) isIn) (by decide)

end Bare

namespace Styled

/-- Do the texts of some output hold no escape character? -/
def Bare (styled : Styled) : Prop := ∀ segment ∈ styled, Text.Bare segment.text

section Bare

variable {text : String} {colour : Colour} {first second : Styled}

@[simp] theorem bare_nil : Bare [] := List.forall_mem_nil _

@[simp] theorem bare_append : (first ++ second).Bare ↔ first.Bare ∧ second.Bare :=
  List.forall_mem_append

@[simp] theorem bare_plain : (plain text).Bare ↔ Text.Bare text := List.forall_mem_singleton

@[simp] theorem bare_weighted {weight : Weight} : (weighted text weight).Bare ↔ Text.Bare text :=
  List.forall_mem_singleton

@[simp] theorem bare_tinted : (tinted text colour).Bare ↔ Text.Bare text :=
  List.forall_mem_singleton

@[simp] theorem bare_bold : (bold text colour).Bare ↔ Text.Bare text := List.forall_mem_singleton

@[simp] theorem bare_newline : newline.Bare := bare_plain.mpr (by decide)

theorem bare_flatMap {α : Type} {as : List α} {f : α → Styled} (all : ∀ a ∈ as, (f a).Bare) :
    Bare (as.flatMap f) := by
  intro segment isIn
  obtain ⟨a, isElement, isIn⟩ := List.mem_flatMap.mp isIn
  exact all a isElement segment isIn

end Bare

/-- Without its style sequences, output is as it is written without styles. -/
theorem unstyled_write {styled : Styled} (bare : styled.Bare) :
    unstyled (styled.write true) = styled.write false := by
  suffices whole : unstyledFrom 0 (styled.write true).toList = (styled.write false).toList by
    rw [unstyled, whole, String.ofList_toList]
  induction styled with
  | nil => rfl
  | cons segment styled ih =>
    obtain ⟨isBare, others⟩ := List.forall_mem_cons.mp bare
    show unstyledFrom 0 (String.join (segment.coloured :: _)).toList =
      (String.join (segment.text :: _)).toList
    rw [String.join_cons, String.join_cons, String.toList_append, String.toList_append,
      unstyledFrom_coloured isBare]
    exact congrArg (segment.text.toList ++ ·) (ih others)

end Styled

end MiniBasic.Text
