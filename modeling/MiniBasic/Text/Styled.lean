/-!
# Styled text

What a command prints is a sequence of segments, some of them with a colour, a weight or both.
Whether the styles are written is decided only when the text leaves the program: a styled segment
is then its colour, its weight, its text and a reset, even if the text is empty.  Nothing else of
the output depends on that choice.
-/

namespace MiniBasic.Text

/-- The colours in use. -/
inductive Colour where
  | red
  | green
  | yellow
  | cyan
  | white
deriving DecidableEq

/-- The terminal's number for a colour of the foreground. -/
def Colour.code : Colour → Nat
  | .red => 31
  | .green => 32
  | .yellow => 33
  | .cyan => 36
  | .white => 37

/-- The weights in use besides the normal one. -/
inductive Weight where
  | bold
  | dim
deriving DecidableEq

/-- The terminal's number for a weight. -/
def Weight.code : Weight → Nat
  | .bold => 1
  | .dim => 2

/-- A piece of output in one style. -/
structure Segment where
  text : String
  colour : Option Colour := none
  weight : Option Weight := none
deriving DecidableEq

/-- The control sequence that selects a style, or the plain style for `0`. -/
def styleSequence (code : Nat) : String := "\x1b[" ++ toString code ++ "m"

/-- The numbers of a segment's styles, the colour before the weight. -/
def Segment.codes (segment : Segment) : List Nat :=
  (segment.colour.map Colour.code).toList ++ (segment.weight.map Weight.code).toList

/-- The segment with its styles written out. -/
def Segment.coloured (segment : Segment) : String :=
  match segment.codes with
  | [] => segment.text
  | codes => String.join (codes.map styleSequence) ++ segment.text ++ styleSequence 0

/-- Output in segments. -/
abbrev Styled := List Segment

namespace Styled

/-- Text in no style. -/
def plain (text : String) : Styled := [{ text }]

/-- Text of a weight, in no colour. -/
def weighted (text : String) (weight : Weight) : Styled := [{ text, weight := some weight }]

/-- Text in a colour. -/
def tinted (text : String) (colour : Colour) : Styled := [{ text, colour := some colour }]

/-- Bold text in a colour. -/
def bold (text : String) (colour : Colour) : Styled :=
  [{ text, colour := some colour, weight := some .bold }]

/-- The end of a line. -/
def newline : Styled := plain "\n"

/-- The characters to write, with the styles or without. -/
def write (coloured : Bool) (styled : Styled) : String :=
  String.join (styled.map fun segment => if coloured then segment.coloured else segment.text)

@[simp] theorem write_nil (coloured : Bool) : write coloured [] = "" := rfl

@[simp] theorem write_append (coloured : Bool) (first second : Styled) :
    write coloured (first ++ second) = write coloured first ++ write coloured second := by
  simp [write]

/-- Without styles, only the texts are written. -/
theorem write_false (styled : Styled) :
    write false styled = String.join (styled.map Segment.text) := rfl

/-- Plain text is written the same either way. -/
@[simp] theorem write_plain (coloured : Bool) (text : String) :
    write coloured (plain text) = text := by
  cases coloured <;> simp [write, plain, Segment.coloured, Segment.codes]

end Styled

example : Styled.write true (Styled.bold "x" .red) = "\x1b[31m\x1b[1mx\x1b[0m" := rfl
example : Styled.write true (Styled.weighted "" .dim) = "\x1b[2m\x1b[0m" := rfl
example : Styled.write false (Styled.bold "x" .red) = "x" := rfl

end MiniBasic.Text
