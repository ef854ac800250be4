import MiniBasic.Text.Styled

/-!
# Text without styles

Whoever reads the output of a program may take the styles out again.  A style sequence is an escape
character, an opening bracket, decimal digits and an `m`.  It is recognised by this form alone and
not by the styles in use, so this works for the output of any program.

An escape character that starts no style sequence is left where it stands.
-/

namespace MiniBasic.Text

/-- The length of the style sequence that a text starts with, or `0` if it starts with none. -/
def styleLength : List Char → Nat
  | '\x1b' :: '[' :: rest =>
    let digits := rest.takeWhile Char.isDigit
    if digits ≠ [] ∧ rest[digits.length]? = some 'm' then digits.length + 3 else 0
  | _ => 0

/-- A text without its style sequences.  Some characters at its start still belong to one. -/
def unstyledFrom : (skipped : Nat) → List Char → List Char
  | _, [] => []
  | skipped + 1, _ :: rest => unstyledFrom skipped rest
  | 0, c :: rest =>
    match styleLength (c :: rest) with
    | 0 => c :: unstyledFrom 0 rest
    | skipped + 1 => unstyledFrom skipped rest

/-- A text without its style sequences. -/
def unstyled (text : String) : String := String.ofList (unstyledFrom 0 text.toList)

/-- Does a text hold no escape character? -/
def Bare (text : String) : Prop := '\x1b' ∉ text.toList

instance (text : String) : Decidable (Bare text) := inferInstanceAs (Decidable (¬ _))

example : unstyled "a\x1b[31m\x1b[1mb[0m\x1b[0m" = "ab[0m" := rfl
example : unstyled "\x1b[m\x1b[7\x1b[0mm" = "\x1b[m\x1b[7m" := rfl

end MiniBasic.Text
