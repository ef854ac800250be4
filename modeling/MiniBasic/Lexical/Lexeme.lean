import MiniBasic.Lexical.Piece

/-!
# Lexemes

The rules for words, each on its own and without regard to the others: which texts are words, and
which token each stands for.  Reading decides between them by length, and between a keyword and a
name of the same length for the keyword.

What stands between words is made of runs of blanks, runs of line ends, and comments.
-/

namespace MiniBasic.Lexical

/-- The signs of two characters. -/
def pairs : List (List Char × Token) := [(['-', '>'], .arrow), (['=', '='], .eqEq)]

/-- Is a text a word in the form of a name? -/
def IsWord (text : List Char) : Prop :=
  ∃ c rest, text = c :: rest ∧ isNameStart c = true ∧ ∀ d ∈ rest, isNamePart d = true

/-- Is a text a run of digits? -/
def IsDigits (text : List Char) : Prop := text ≠ [] ∧ ∀ d ∈ text, d.isDigit = true

/-- The texts that each token can be read from. -/
inductive Lexeme : List Char → Token → Prop where
  | keyword {text : List Char} {token : Token} : (text, token) ∈ keywords → Lexeme text token
  | pair {text : List Char} {token : Token} : (text, token) ∈ pairs → Lexeme text token
  | sign {c : Char} {token : Token} : (c, token) ∈ signs → Lexeme [c] token
  /-- A name, which is not a keyword. -/
  | name {text : List Char} : IsWord text → text ∉ keywords.map Prod.fst →
      Lexeme text (.name (String.ofList text))
  /-- A number that fits in 64 bits. -/
  | number {text : List Char} : IsDigits text → decimalValue text < numberBound →
      Lexeme text (.number (Int64.ofNat (decimalValue text)))
  /-- A text between quotes, on one line. -/
  | str {inside : List Char} : (∀ c ∈ inside, isQuotable c = true) →
      Lexeme ('"' :: inside ++ ['"']) (.str (String.ofList inside))

/-- The texts that stand between words. -/
inductive Skipped : List Char → Prop where
  /-- A run of blanks. -/
  | blanks {text : List Char} : text ≠ [] → (∀ c ∈ text, isGapChar c = true ∧ c ≠ '\n') →
      Skipped text
  /-- A run of line ends. -/
  | newlines {text : List Char} : text ≠ [] → (∀ c ∈ text, c = '\n') → Skipped text
  /-- A comment, up to the end of its line. -/
  | comment {text : List Char} : (∀ c ∈ text, isCommentPart c = true) → Skipped ('#' :: text)

/-- Does some rule take the whole text?  A run of digits is taken whatever its value. -/
def IsTaken (text : List Char) : Prop :=
  (∃ token, Lexeme text token) ∨ IsDigits text ∨ Skipped text

/-- Is no longer beginning of a source taken than `text`, when `rest` is what comes after it? -/
def IsLongest (text rest : List Char) : Prop :=
  ∀ longer, longer <+: text ++ rest → IsTaken longer → longer.length ≤ text.length

end MiniBasic.Lexical
