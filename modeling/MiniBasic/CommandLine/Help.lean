/-!
# Help texts

What the program tells about itself, line by line.  Every topic but the program's own has a short
text too, which differs only for `parse`.
-/

namespace MiniBasic.CommandLine

/-- What help can be asked for. -/
inductive Topic where
  | program
  | lex
  | parse
  | check
  | help
deriving DecidableEq

namespace Topic

/-- How a topic is used. -/
def usage : Topic → String
  | program => "Usage: basic [OPTIONS] <COMMAND>"
  | lex => "Usage: basic lex [OPTIONS] [FILE]"
  | parse => "Usage: basic parse [OPTIONS] [FILE]"
  | check => "Usage: basic check [OPTIONS] <FILE>"
  | help => "Usage: basic help [COMMAND]..."

/-- The name of the file in the usage of a topic. -/
def fileName : Topic → String
  | check => "<FILE>"
  | _ => "[FILE]"

/-- What a topic is about. -/
def about : Topic → String
  | program => "Tokenizer and parser for BASIC-style statements"
  | lex => "Print the tokens of each input line"
  | parse => "Print the syntax tree of each input line"
  | check => "Parse every line of a file and report the ones that fail"
  | help => "Print this message or the help of the given subcommand(s)"

/-- The options that every command has. -/
def commonOptions : List String :=
  ["Options:",
   "      --no-color  Disable colored output",
   "  -h, --help      Print help"]

/-- The part of a help text after the usage. -/
def details : Topic → List String
  | program =>
    ["Commands:",
     "  lex    Print the tokens of each input line",
     "  parse  Print the syntax tree of each input line",
     "  check  Parse every line of a file and report the ones that fail",
     "  help   Print this message or the help of the given subcommand(s)",
     ""] ++ commonOptions ++
    ["  -V, --version   Print version"]
  | lex =>
    ["Arguments:",
     "  [FILE]  Source file, read line by line from stdin when omitted",
     ""] ++ commonOptions
  | parse =>
    ["Arguments:",
     "  [FILE]",
     "          Source file, one statement per line; stdin when omitted",
     "",
     "Options:",
     "      --format <FORMAT>",
     "          Possible values:",
     "          - tuple: ('add', ('num', 1), ('num', 2))",
     "          - debug: Rust debug form",
     "          ",
     "          [default: tuple]",
     "",
     "      --no-color",
     "          Disable colored output",
     "",
     "  -h, --help",
     "          Print help (see a summary with '-h')"]
  | check =>
    ["Arguments:",
     "  <FILE>  ",
     ""] ++ commonOptions
  | help =>
    ["Arguments:",
     "  [COMMAND]...  Print help for the subcommand(s)"]

/-- The part of a short help text after the usage. -/
def summary : Topic → List String
  | parse =>
    ["Arguments:",
     "  [FILE]  Source file, one statement per line; stdin when omitted",
     "",
     "Options:",
     "      --format <FORMAT>  [default: tuple] [possible values: tuple, debug]",
     "      --no-color         Disable colored output",
     "  -h, --help             Print help (see more with '--help')"]
  | topic => topic.details

/-- The help text of a topic, in full or in short. -/
def text (topic : Topic) (inFull : Bool) : List String :=
  [topic.about, "", topic.usage, ""] ++ if inFull then topic.details else topic.summary

end Topic

/-- The name and the version of the program. -/
def versionLine : String := "basic 0.0.1"

end MiniBasic.CommandLine
