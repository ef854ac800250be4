/-!
# Blank text

The characters with the property White_Space.  A line that holds no other character is passed over
by every command.  The reader of words is stricter: between two words it allows only the space,
the tab and the carriage return.
-/

namespace MiniBasic.Text

/-- The ranges of White_Space, in order. -/
def blankRanges : List (Nat × Nat) :=
  [(0x0009, 0x000d), (0x0020, 0x0020), (0x0085, 0x0085), (0x00a0, 0x00a0), (0x1680, 0x1680),
   (0x2000, 0x200a), (0x2028, 0x2029), (0x202f, 0x202f), (0x205f, 0x205f), (0x3000, 0x3000)]

/-- Does a code point lie in one of the ranges? -/
def inRanges (ranges : List (Nat × Nat)) (code : Nat) : Bool :=
  ranges.any fun (low, high) => low ≤ code && code ≤ high

/-- Has the character the property White_Space? -/
def isBlankChar (c : Char) : Bool := inRanges blankRanges c.toNat

/-- Is nothing in the text but white space? -/
def isBlank (text : List Char) : Bool := text.all isBlankChar

example : isBlank [] = true := by decide
example : isBlank [' ', '\u00a0', '\u3000'] = true := by decide
example : isBlank ['\u200b'] = false := by decide

end MiniBasic.Text
