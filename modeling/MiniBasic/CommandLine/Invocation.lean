import MiniBasic.CommandLine.Switch

/-!
# Invocations

The arguments of the program name one command, with its file and its options.  They are read from
left to right, and the first that asks for help or does not fit decides.  After `--` every
argument is a file.  A single `-` is a file of that name.  A run with neither a command nor an
option is answered with help.
-/

namespace MiniBasic.CommandLine

/-! ## Commands -/

/-- How a tree is printed. -/
inductive Format where
  | tuple
  /-- As a constructor term over many lines. -/
  | debug
deriving DecidableEq

/-- The name of a format among the arguments. -/
def Format.ofName? (name : String) : Option Format :=
  if name = "tuple" then some .tuple else if name = "debug" then some .debug else none

/-- What the program is asked to do.  Without a file, a command reads its standard input. -/
inductive Command where
  | lex (file : Option String)
  | parse (file : Option String) (format : Format)
  /-- Report the lines that cannot be read. -/
  | check (file : String)
deriving DecidableEq

/-- The file that a command reads. -/
def Command.file? : Command → Option String
  | lex file => file
  | parse file _ => file
  | check file => some file

/-- A command and whether its output may be coloured. -/
structure Invocation where
  command : Command
  noColor : Bool
deriving DecidableEq

/-! ## Arguments of a command -/

/-- The arguments of a command, as far as they are read. -/
structure Arguments where
  noColor : Bool := false
  format : Option Format := none
  file : Option String := none
deriving DecidableEq

namespace Arguments

/-- Takes an argument as the file. -/
def addFile (args : Arguments) (topic : Topic) (name : String) : Except Ending Arguments :=
  if args.file.isSome then .error (.secondFile topic name)
  else if name = "" then .error (.emptyFile topic)
  else .ok { args with file := some name }

/-- Takes the name of a format. -/
def addFormat (args : Arguments) (name : String) : Except Ending Arguments :=
  if args.format.isSome then .error (.repeatedOption .parse "--format <FORMAT>")
  else if name = "" then .error .noFormat
  else
    match Format.ofName? name with
    | some format => .ok { args with format := some format }
    | none => .error (.unknownFormat name)

/-- Takes the option that forbids colours. -/
def addNoColor (args : Arguments) (topic : Topic) : Except Ending Arguments :=
  if args.noColor then .error (.repeatedOption topic "--no-color")
  else .ok { args with noColor := true }

/-- Reads the arguments of a command after `--`. -/
def readFiles (topic : Topic) (args : Arguments) : List String → Except Ending Arguments
  | [] => .ok args
  | name :: rest => do readFiles topic (← args.addFile topic name) rest

/-- Takes the argument after a switch that waits for the name of a format.  A switch is no name, and
one that is not known is the greater mistake. -/
def addAwaited (args : Arguments) (topic : Topic) (name : String) : Except Ending Arguments :=
  match Switch.ofArgument? topic name with
  | some (.unknown option) => .error (.unknownOption topic option)
  | some _ => .error .noFormat
  | none => if name = "--" then .error .noFormat else args.addFormat name

/-- Reads the arguments of a command. -/
def read (topic : Topic) (args : Arguments) : List String → Except Ending Arguments
  | [] => .ok args
  | argument :: rest =>
    if argument = "--" then readFiles topic args rest
    else
      match Switch.ofArgument? topic argument with
      | none => do read topic (← args.addFile topic argument) rest
      | some .noColor => do read topic (← args.addNoColor topic) rest
      | some (.request ending) => .error ending
      | some (.unknown option) => .error (.unknownOption topic option)
      | some (.format (some name)) => do read topic (← args.addFormat name) rest
      | some (.format none) =>
        match rest with
        | [] => .error .noFormat
        | name :: later => do read topic (← args.addAwaited topic name) later

end Arguments

/-- The topic that has this name as a command. -/
def Topic.ofName? (name : String) : Option Topic :=
  if name = "lex" then some .lex
  else if name = "parse" then some .parse
  else if name = "check" then some .check
  else if name = "help" then some .help
  else none

/-- The help that is asked for by naming commands. -/
def helpOn (topic : Topic) : List String → Ending
  | [] => .help topic true
  | name :: rest =>
    match topic, Topic.ofName? name with
    | .program, some inner => helpOn inner rest
    | _, _ => .unknownCommand topic name

/-- The command of a topic with its arguments. -/
def Command.ofArguments (topic : Topic) (args : Arguments) : Except Ending Command :=
  match topic with
  | .lex => .ok (.lex args.file)
  | .parse => .ok (.parse args.file (args.format.getD .tuple))
  | .check =>
    match args.file with
    | some file => .ok (.check file)
    | none => .error (.noFile (if args.noColor then ["--no-color"] else []))
  | .program | .help => .error .noCommand

namespace Invocation

/-- Reads the arguments of a named command.  The switch in front forbids colours as well. -/
def readCommand (noColor : Bool) (topic : Topic) (rest : List String) :
    Except Ending Invocation := do
  if topic = .help then throw (helpOn .program rest)
  let args ← Arguments.read topic {} rest
  let command ← Command.ofArguments topic args
  return { command, noColor := noColor || args.noColor }

/-- Reads the arguments from the start, or after the switch that forbids colours. -/
def read (noColor : Bool) : List String → Except Ending Invocation
  | [] | ["--"] => .error (if noColor then .noCommand else .nothingAsked)
  | "--" :: name :: _ =>
    .error (if (Topic.ofName? name).isSome then .commandAfterDashes name
      else .unknownCommand .program name)
  | argument :: rest =>
    match Topic.ofName? argument, Switch.ofArgument? .program argument with
    | some topic, _ => readCommand noColor topic rest
    | none, none => .error (.unknownCommand .program argument)
    | none, some .noColor =>
      if noColor then .error (.repeatedOption .program "--no-color") else read true rest
    | none, some (.request ending) => .error ending
    | none, some (.unknown option) => .error (.unknownOption .program option)
    | none, some (.format _) => .error (.unknownOption .program argument)

/-- What the arguments of the program ask for. -/
def ofArguments (args : List String) : Except Ending Invocation := read false args

end Invocation

end MiniBasic.CommandLine
