import MiniBasic.Text.Styled

/-!
# Outcomes

A run of the program prints on two streams and ends with a code.  Outputs of parts that run one
after the other are joined stream by stream.
-/

namespace MiniBasic.CommandLine

open Text (Styled)

/-- What a part of a run prints. -/
structure Output where
  stdout : Styled := []
  stderr : Styled := []
deriving DecidableEq

namespace Output

/-- One output after another. -/
def append (first second : Output) : Output :=
  ⟨first.stdout ++ second.stdout, first.stderr ++ second.stderr⟩

instance : Append Output := ⟨append⟩

/-- Many outputs, one after the other. -/
def join (outputs : List Output) : Output :=
  ⟨outputs.flatMap (·.stdout), outputs.flatMap (·.stderr)⟩

@[simp] theorem stdout_append (first second : Output) :
    (first ++ second).stdout = first.stdout ++ second.stdout := rfl

@[simp] theorem stderr_append (first second : Output) :
    (first ++ second).stderr = first.stderr ++ second.stderr := rfl

/-- Text for the answers. -/
def answer (text : Styled) : Output := ⟨text, []⟩

/-- Text about what is wrong. -/
def complaint (text : Styled) : Output := ⟨[], text⟩

end Output

/-- How a run ends. -/
structure Outcome where
  /-- The code, `0` when all is well. -/
  code : Nat
  output : Output
deriving DecidableEq

/-- The characters that leave the program at its end, and the code. -/
structure Written where
  code : Nat
  stdout : String
  stderr : String
deriving DecidableEq

/-- How a run ends, written with styles or without. -/
def Outcome.write (outcome : Outcome) (coloured : Bool) : Written :=
  ⟨outcome.code, outcome.output.stdout.write coloured, outcome.output.stderr.write coloured⟩

/-- Lines of plain text, each ended. -/
def plainLines (lines : List String) : Styled :=
  Styled.plain (String.join (lines.map (· ++ "\n")))

end MiniBasic.CommandLine
