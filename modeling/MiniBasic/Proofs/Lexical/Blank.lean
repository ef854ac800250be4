import MiniBasic.Proofs.Lexical.Scan
import MiniBasic.Text.Blank

/-!
# Reading blank text

A blank text holds nothing but White_Space, and of this the reader of words passes over only the
space, the tab, the carriage return and the end of line.  Every other character of it is illegal: no
word, number, text or sign starts with one (`Piece.first_blank`).  So a blank text has no tokens, and
its errors are its characters other than those four, in their order (`errors_of_isBlank`).
-/

namespace MiniBasic.Lexical

open Text (isBlank isBlankChar)

variable {c : Char} {cs text : List Char}

/-! ## One character -/

theorem code_of_isBlankChar (blank : isBlankChar c = true) : c.toNat ≤ 32 ∨ 133 ≤ c.toNat := by
  simp only [isBlankChar, Text.inRanges, Text.blankRanges, List.any_cons, List.any_nil,
    Bool.or_false, Bool.or_eq_true, Bool.and_eq_true, decide_eq_true_eq] at blank
  omega

theorem code_of_between {first last : Char} (low : first.val ≤ c.val) (high : c.val ≤ last.val)
    (within : 48 ≤ first.toNat ∧ last.toNat ≤ 122) : 48 ≤ c.toNat ∧ c.toNat ≤ 122 :=
  ⟨Nat.le_trans within.1 (UInt32.le_iff_toNat_le.mp low),
    Nat.le_trans (UInt32.le_iff_toNat_le.mp high) within.2⟩

theorem code_of_isNamePart (part : isNamePart c = true) : 48 ≤ c.toNat ∧ c.toNat ≤ 122 := by
  rcases Bool.or_eq_true_iff.mp part with inWord | line
  · rcases Bool.or_eq_true_iff.mp inWord with letter | digit
    · rcases Bool.or_eq_true_iff.mp letter with upper | lower
      · obtain ⟨low, high⟩ := of_decide_eq_true upper
        exact code_of_between low high (by decide)
      · obtain ⟨low, high⟩ := Bool.and_eq_true_iff.mp lower
        exact code_of_between (of_decide_eq_true low) (of_decide_eq_true high) (by decide)
    · obtain ⟨low, high⟩ := Bool.and_eq_true_iff.mp digit
      exact code_of_between (of_decide_eq_true low) (of_decide_eq_true high) (by decide)
  · rw [beq_iff_eq.mp line]
    decide

/-- No blank character belongs to a word or a number. -/
theorem isNamePart_of_isBlankChar (blank : isBlankChar c = true) : isNamePart c = false := by
  rw [Bool.eq_false_iff]
  intro part
  have inWord := code_of_isNamePart part
  have inBlank := code_of_isBlankChar blank
  omega

theorem runOf_of_isBlankChar (blank : isBlankChar c = true) (noGap : isGapChar c = false) :
    runOf c = none := by
  have noPart := isNamePart_of_isBlankChar blank
  rw [runOf_eq_none_iff, isSkippedStart_eq_false_iff]
  refine ⟨⟨noGap, ?_⟩, ?_, ?_⟩
  · rintro rfl
    cases blank
  · rw [Bool.eq_false_iff]
    intro start
    rw [isNamePart_of_isNameStart start] at noPart
    cases noPart
  · rw [Bool.eq_false_iff]
    intro digit
    simp [isNamePart, Char.isAlphanum, digit] at noPart

/-- A blank character as a piece. -/
def Piece.ofBlank (c : Char) : Piece := if isGapChar c then gap [c] else illegal c

theorem Piece.first_blank (blank : isBlankChar c = true) (cs : List Char) :
    first c cs = (ofBlank c, cs) := by
  unfold ofBlank
  split
  next gap => exact first_gap gap cs
  next noGap =>
    have noSign : ∀ found, (c, found) ∉ signs := by
      have none : ∀ entry ∈ signs, isBlankChar entry.1 = false := by decide
      intro found isSign
      rw [none _ isSign] at blank
      cases blank
    have noQuote : c ≠ '"' := by
      rintro rfl
      cases blank
    rw [first_sign (runOf_of_isBlankChar blank (Bool.eq_false_iff.mpr noGap)) noQuote,
      sign_of_notMem_signs noSign]

/-! ## The whole text -/

theorem pieces_of_isBlank (blank : isBlank text = true) : pieces text = text.map Piece.ofBlank := by
  induction text with
  | nil => exact pieces_nil
  | cons c cs ih =>
    obtain ⟨first, others⟩ := Bool.and_eq_true_iff.mp blank
    rw [pieces_cons, Piece.first_blank first, ih others, List.map_cons]

theorem scanFrom_ofBlank (place : Place) (text : List Char) :
    (scanFrom place (text.map Piece.ofBlank)).tokens = [] ∧
    (scanFrom place (text.map Piece.ofBlank)).errors.map LexicalError.text =
      (text.filter fun c => !isGapChar c).map fun c => [c] := by
  induction text generalizing place with
  | nil => exact ⟨rfl, rfl⟩
  | cons c cs ih =>
    obtain ⟨noTokens, errors⟩ := ih (place.after (Piece.ofBlank c))
    by_cases gap : isGapChar c = true
    · have isPiece : Piece.ofBlank c = .gap [c] := if_pos gap
      rw [isPiece] at noTokens errors
      rw [List.map_cons, isPiece, scanFrom_gap, List.filter_cons_of_neg (by simp [gap])]
      exact ⟨noTokens, errors⟩
    · have isPiece : Piece.ofBlank c = .illegal c := if_neg gap
      rw [isPiece] at noTokens errors
      rw [List.map_cons, isPiece, List.filter_cons_of_pos (by simp [gap]), List.map_cons, ← errors]
      exact ⟨noTokens, rfl⟩

theorem tokens_of_isBlank {source : String} (blank : isBlank source.toList = true) :
    (lex source).tokens = [] := by
  show (scanFrom .start (pieces source.toList)).tokens = []
  rw [pieces_of_isBlank blank]
  exact (scanFrom_ofBlank .start _).1

/-- The errors of a blank text are its characters that are no gaps. -/
theorem errors_of_isBlank {source : String} (blank : isBlank source.toList = true) :
    (lex source).errors.map LexicalError.text =
      (source.toList.filter fun c => !isGapChar c).map fun c => [c] := by
  show (scanFrom .start (pieces source.toList)).errors.map _ = _
  rw [pieces_of_isBlank blank]
  exact (scanFrom_ofBlank .start _).2

end MiniBasic.Lexical
