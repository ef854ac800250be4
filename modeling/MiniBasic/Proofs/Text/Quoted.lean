import MiniBasic.Proofs.Text.Tells
import MiniBasic.Text.Quoted

/-!
# Quotes show where they end

A quoted text tells itself (`tells_quote`), whatever characters it holds.  Every escape tells its
character, and none starts with the quote that ends the text.  Which characters are written as
their numbers is of no account: a backslash opens every escape, and neither a backslash nor a quote
stands for itself.
-/

namespace MiniBasic.Text

/-! ## Hexadecimal digits -/

theorem digitChar_inj {n m : Nat} (isDigit : n < 16) (isOther : m < 16)
    (same : n.digitChar = m.digitChar) : n = m := by
  have onlyOne : ∀ n < 16, ∀ m < 16, Nat.digitChar n = Nat.digitChar m → n = m := by decide
  exact onlyOne n isDigit m isOther same

/-- A number is known from its digits: one digit is the number, and more are those of a smaller
number and a last one. -/
theorem toDigits_inj {n m : Nat} (same : Nat.toDigits 16 n = Nat.toDigits 16 m) : n = m := by
  have isDigit_iff : ∀ k, (Nat.toDigits 16 k).length ≤ 1 ↔ k < 16 :=
    fun k => Nat.length_toDigits_le_iff (by decide) (by decide)
  induction n using Nat.strongRecOn generalizing m with
  | ind n ih =>
    have alike : n < 16 ↔ m < 16 := by rw [← isDigit_iff n, same, isDigit_iff m]
    rcases Nat.lt_or_ge n 16 with isDigit | isMore
    · rw [Nat.toDigits_of_lt_base isDigit, Nat.toDigits_of_lt_base (alike.mp isDigit)] at same
      exact digitChar_inj isDigit (alike.mp isDigit) (List.cons.inj same).1
    · have isMoreToo : 16 ≤ m := by omega
      rw [Nat.toDigits_of_base_le (by decide) isMore,
        Nat.toDigits_of_base_le (by decide) isMoreToo] at same
      obtain ⟨front, last⟩ := List.append_inj' same rfl
      have high := ih (n / 16) (by omega) front
      have low := digitChar_inj (Nat.mod_lt n (by decide)) (Nat.mod_lt m (by decide))
        (List.cons.inj last).1
      omega

theorem notMem_toDigits {c : Char} (noDigit : ∀ k : Nat, k.digitChar ≠ c) (n : Nat) :
    c ∉ Nat.toDigits 16 n := by
  have notOnly : ∀ k : Nat, c ∉ [k.digitChar] := by
    intro k
    rw [List.mem_singleton]
    exact (noDigit k).symm
  induction n using Nat.strongRecOn with
  | ind n ih =>
    rcases Nat.lt_or_ge n 16 with isDigit | isMore
    · rw [Nat.toDigits_of_lt_base isDigit]
      exact notOnly n
    · rw [Nat.toDigits_of_base_le (by decide) isMore, List.mem_append]
      exact not_or.mpr ⟨ih (n / 16) (by omega), notOnly _⟩

theorem tells_numbered (c d : Char) : Tells (numbered c) (numbered d) (c = d) := by
  have noBrace := notMem_toDigits fun k => Nat.digitChar_ne '\x7d' (by decide)
  have numbers := Tells.upTo (noBrace c.toNat) (noBrace d.toNat)
  rw [numbered, numbered, List.append_assoc, List.append_assoc]
  exact (numbers.prepend _).imp fun same => Char.toNat_inj.mp (toDigits_inj same)

/-! ## Escapes -/

/-- The character for a letter behind a backslash. -/
def ofLetter? : Char → Option Char
  | '0' => some '\x00'
  | 't' => some '\t'
  | 'r' => some '\r'
  | 'n' => some '\n'
  | '"' => some '"'
  | '\\' => some '\\'
  | _ => none

/-- How a character stands between quotes. -/
inductive Escaped (c : Char) : List Char → Prop where
  | letter {letter : Char} (isLetter : ofLetter? letter = some c) : Escaped c ['\\', letter]
  | numbered : Escaped c (numbered c)
  | plain (noQuote : c ≠ '"') (noBackslash : c ≠ '\\') : Escaped c [c]

theorem escaped_escape (c : Char) : Escaped c (escape c) := by
  unfold escape
  split
  · exact .letter rfl
  · exact .letter rfl
  · exact .letter rfl
  · exact .letter rfl
  · exact .letter rfl
  · exact .letter rfl
  · rename_i noQuote noBackslash
    split
    · exact .numbered
    · exact .plain (fun same => noQuote same) noBackslash

namespace Escaped

variable {c d : Char} {text other : List Char}

/-- The escape of a number has a letter of its own. -/
theorem ne_u {letter : Char} (isLetter : ofLetter? letter = some c) : letter ≠ 'u' := by
  rintro rfl
  cases isLetter

theorem exists_cons (escaped : Escaped c text) :
    ∃ first rest, text = first :: rest ∧ first ≠ '"' := by
  cases escaped with
  | letter => exact ⟨_, _, rfl, by decide⟩
  | numbered => exact ⟨'\\', _, rfl, by decide⟩
  | plain noQuote => exact ⟨_, _, rfl, noQuote⟩

theorem tells (first : Escaped c text) (second : Escaped d other) : Tells text other (c = d) := by
  cases first with
  | @letter letter isLetter =>
    cases second with
    | @letter otherLetter isOther =>
      by_cases same : letter = otherLetter
      · subst same
        exact .of_true (Option.some.inj (isLetter.symm.trans isOther))
      · exact (Tells.of_ne same).prepend ['\\']
    | numbered => exact (Tells.of_ne (ne_u isLetter)).prepend ['\\']
    | plain _ noBackslash => exact .of_ne noBackslash.symm
  | numbered =>
    cases second with
    | letter isOther => exact (Tells.of_ne (ne_u isOther).symm).prepend ['\\']
    | numbered => exact tells_numbered c d
    | plain _ noBackslash => exact .of_ne noBackslash.symm
  | plain _ noBackslash =>
    cases second with
    | letter | numbered => exact .of_ne noBackslash
    | plain =>
      by_cases same : c = d
      · exact same ▸ .of_true rfl
      · exact .of_ne same

end Escaped

/-! ## Texts -/

/-- Between quotes, a text ends at the first quote that stands for itself. -/
theorem tells_escaped (first second : List Char) :
    Tells (first.flatMap escape ++ ['"']) (second.flatMap escape ++ ['"']) (first = second) := by
  induction first generalizing second with
  | nil =>
    cases second with
    | nil => exact .of_true rfl
    | cons d second =>
      obtain ⟨start, rest, isEscape, noQuote⟩ := (escaped_escape d).exists_cons
      rw [List.flatMap_cons, isEscape]
      exact .of_ne noQuote.symm
  | cons c first ih =>
    obtain ⟨start, rest, isEscape, noQuote⟩ := (escaped_escape c).exists_cons
    cases second with
    | nil =>
      rw [List.flatMap_cons, isEscape]
      exact .of_ne noQuote
    | cons d second =>
      rw [List.flatMap_cons, List.flatMap_cons, List.append_assoc, List.append_assoc]
      refine (((escaped_escape c).tells (escaped_escape d)).append fun _ => ih second).imp ?_
      intro same
      obtain ⟨rfl, rfl⟩ := same
      rfl

theorem tells_quote (first second : String) :
    Tells (quote first).toList (quote second).toList (first = second) := by
  rw [quote, quote, String.toList_ofList, String.toList_ofList]
  exact ((tells_escaped _ _).prepend ['"']).imp String.toList_inj.mp

end MiniBasic.Text
