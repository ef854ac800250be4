import MiniBasic.CommandLine.Ending

/-!
# Switches

An argument with a dash in front is a switch: a word after two dashes, or letters after one.  A
word can carry a value after `=`.  Letters can be joined, as in `-hV`; the first of them ends the
program or is not known, so it alone decides.  A single dash is no switch but the name of a file,
and `--` is none either.
-/

namespace MiniBasic.CommandLine

/-- What an argument with a dash in front stands for. -/
inductive Switch where
  | noColor
  /-- A format is named, here or by the next argument. -/
  | format (name : Option String)
  | request (ending : Ending)
  /-- Nothing that the topic knows. -/
  | unknown (option : String)
deriving DecidableEq

namespace Switch

/-- The switch of a letter. -/
def ofLetter (topic : Topic) (letter : Char) : Switch :=
  if letter = 'h' then .request (.help topic false)
  else if letter = 'V' ∧ topic = .program then .request .version
  else .unknown (String.ofList ['-', letter])

/-- A word and the value after its `=`. -/
def splitValue (word : List Char) : List Char × Option (List Char) :=
  match word.dropWhile (· != '=') with
  | [] => (word, none)
  | _ :: value => (word.takeWhile (· != '='), some value)

/-- The switch of a word.  Only a format takes a value. -/
def ofWord (topic : Topic) (word : List Char) : Switch :=
  let (name, value) := splitValue word
  let name := String.ofList name
  if name = "format" ∧ topic = .parse then .format (value.map String.ofList)
  else if name = "no-color" ∧ value = none then .noColor
  else if name = "help" ∧ value = none then .request (.help topic true)
  else if name = "version" ∧ value = none ∧ topic = .program then .request .version
  else .unknown ("--" ++ name)

/-- The switch that an argument is, if it is one. -/
def ofArgument? (topic : Topic) (argument : String) : Option Switch :=
  match argument.toList with
  | '-' :: '-' :: c :: word => some (ofWord topic (c :: word))
  | '-' :: c :: _ => if c = '-' then none else some (ofLetter topic c)
  | _ => none

end Switch

end MiniBasic.CommandLine
