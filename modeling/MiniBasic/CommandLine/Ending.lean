import MiniBasic.CommandLine.Help
import MiniBasic.CommandLine.Outcome

/-!
# Endings without a command

Some arguments are answered without running a command: requests for help or for the version, and
mistakes.  An ending holds the cause alone; the wording is in `Ending.complaint`.  Help goes to the
answers, except where nothing is asked for at all.
-/

namespace MiniBasic.CommandLine

/-- Why a program ends without running a command. -/
inductive Ending where
  | help (topic : Topic) (inFull : Bool)
  | version
  /-- There is neither a command nor an option. -/
  | nothingAsked
  /-- There are options, but no command. -/
  | noCommand
  /-- The name of a command stands after `--`. -/
  | commandAfterDashes (name : String)
  | unknownCommand (topic : Topic) (name : String)
  | unknownOption (topic : Topic) (option : String)
  | secondFile (topic : Topic) (name : String)
  | repeatedOption (topic : Topic) (option : String)
  /-- There is no file where one is needed; these are the options that are given. -/
  | noFile (options : List String)
  | emptyFile (topic : Topic)
  | unknownFormat (name : String)
  | noFormat
deriving DecidableEq

namespace Ending

/-- The option that names a format. -/
def formatOption : String := "'--format <FORMAT>'"

/-- The formats that can be named. -/
def formatNames : String := "  [possible values: tuple, debug]"

/-- Where to read on after a mistake in the arguments. -/
def readOn : List String := ["", "For more information, try '--help'."]

/-- The headline of an argument that nothing takes. -/
def unexpected (argument : String) : String :=
  "error: unexpected argument '" ++ argument ++ "' found"

/-- Advice for an option that is not known: where there are files, it might be one. -/
def dashAdvice (topic : Topic) (option : String) : List String :=
  match topic with
  | .program | .help => []
  | .lex | .parse | .check =>
    ["", "  tip: to pass '" ++ option ++ "' as a value, use '-- " ++ option ++ "'"]

/-- The complaint about a mistake in the arguments, without where to read on. -/
def complaint : Ending → List String
  | noCommand =>
    ["error: 'basic' requires a subcommand but one was not provided",
     "  [subcommands: lex, parse, check, help]", "", Topic.program.usage]
  | commandAfterDashes name =>
    [unexpected name, "",
     "  tip: subcommand '" ++ name ++ "' exists; to use it, remove the '--' before it", "",
     Topic.program.usage]
  | unknownCommand topic name =>
    ["error: unrecognized subcommand '" ++ name ++ "'", "", topic.usage]
  | unknownOption topic option =>
    [unexpected option] ++ dashAdvice topic option ++ ["", topic.usage]
  | secondFile topic name => [unexpected name, "", topic.usage]
  | repeatedOption topic option =>
    ["error: the argument '" ++ option ++ "' cannot be used multiple times", "", topic.usage]
  | noFile options =>
    ["error: the following required arguments were not provided:", "  <FILE>", "",
     " ".intercalate (["Usage: basic check"] ++ options ++ ["<FILE>"])]
  | emptyFile topic =>
    ["error: a value is required for '" ++ topic.fileName ++ "' but none was supplied"]
  | unknownFormat name =>
    ["error: invalid value '" ++ name ++ "' for " ++ formatOption, formatNames]
  | noFormat =>
    ["error: a value is required for " ++ formatOption ++ " but none was supplied", formatNames]
  | help .. | version | nothingAsked => []

/-- What is printed in place of a command's output, and the code. -/
def outcome : Ending → Outcome
  | help topic inFull => ⟨0, .answer (plainLines (topic.text inFull))⟩
  | version => ⟨0, .answer (plainLines [versionLine])⟩
  | nothingAsked => ⟨2, .complaint (plainLines (Topic.program.text false))⟩
  | mistake => ⟨2, .complaint (plainLines (mistake.complaint ++ readOn))⟩

end Ending

end MiniBasic.CommandLine
