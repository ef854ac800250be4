import MiniBasic.CommandLine.Invocation
import MiniBasic.Diagnostic
import MiniBasic.Text.Blank
import MiniBasic.Text.Lines
import MiniBasic.Tree.Term
import MiniBasic.Tree.Tuple

/-!
# Running commands

A command reads the bytes of its file, or of the standard input, and prints.  `lex` takes a file
as one text; everything else goes line by line, and blank lines are passed over.  A file is
refused as a whole if it is not UTF-8.  The standard input is decoded line by line, so what stands
before a bad line is still answered.

Errors of a line are shown in blocks: one for the reading of words, one for the reading of the
statement, each under a heading and only if it has something to show.

Left out is what only somebody at a terminal sees: the prompt in front of each line of the standard
input, which is shown when the standard output is a terminal, and the bar of a check, which is drawn
on the standard error when that is one.  Neither changes what else is written.
-/

namespace MiniBasic.CommandLine

open Lexical (lex)
open Text (Styled)

/-! ## Failures -/

/-- Why the bytes of a file cannot be used. -/
inductive FileError where
  | notFound
  | isDirectory
  /-- The name leads through something that is no directory. -/
  | notDirectory
  /-- A part of the name, or the whole of it, is longer than the system allows. -/
  | nameTooLong
  | notAllowed
  | notText
  /-- Something else, in the words of the system. -/
  | other (reason : String)
deriving DecidableEq

/-- The wording of a failure. -/
def FileError.text : FileError → String
  | notFound => "No such file or directory (os error 2)"
  | isDirectory => "Is a directory (os error 21)"
  | notDirectory => "Not a directory (os error 20)"
  | nameTooLong => "File name too long (os error 36)"
  | notAllowed => "Permission denied (os error 13)"
  | notText => "stream did not contain valid UTF-8"
  | other reason => reason

/-- The end of a run whose file cannot be used. -/
def unreadable (path : String) (error : FileError) : Outcome :=
  ⟨1, .complaint (plainLines ["Error: Source not found: " ++ path, "", "Caused by:",
    "    " ++ error.text])⟩

/-! ## Blocks -/

/-- Diagnostics under the heading of a stage, or nothing if there are none. -/
def block (stage : String) (diagnostics : List Diagnostic) (source : String) : Styled :=
  if diagnostics.isEmpty then []
  else
    Styled.bold "✘" .red ++ Styled.plain " Stage: " ++ Styled.bold stage .red ++ Styled.newline ++
      diagnostics.flatMap fun diagnostic => diagnostic.render source ++ Styled.newline

/-- What is wrong with the words of a source. -/
def lexBlock (errors : List Lexical.LexicalError) (source : String) : Styled :=
  block "Lexer" (errors.map (·.diagnostic)) source

/-- All that is wrong with a source that was read. -/
def readingBlocks (reading : Reading) (source : String) : Styled :=
  lexBlock reading.lexErrors source ++
    block "Parser" (reading.error?.map (·.diagnostic)).toList source

/-! ## One source -/

/-- The listing of a source's tokens, a line for each. -/
def lexSource (source : String) : Output :=
  let scan := lex source
  ⟨plainLines (scan.tokens.map (·.listed)), lexBlock scan.errors source⟩

/-- A tree in a format. -/
def Format.print : Format → Statement → String
  | tuple, tree => tree.tuple
  | debug, tree => tree.indented

/-- The tree of a source, or what is wrong. -/
def parseSource (format : Format) (source : String) : Output :=
  let reading := Reading.ofSource source
  let tree :=
    match reading.result with
    | .ok tree => plainLines [format.print tree]
    | .error _ => []
  ⟨tree, readingBlocks reading source⟩

/-! ## Many lines -/

/-- The lines of a text with their numbers, from 1 on. -/
def numberedLines (text : String) : List (Nat × String) :=
  (Text.lines text.toList).mapIdx fun index line => (index + 1, String.ofList line)

/-- Is there anything on a line? -/
def isWritten (line : String) : Bool := !Text.isBlank line.toList

/-- The lines of a text that are not blank, with their numbers. -/
def writtenLines (text : String) : List (Nat × String) :=
  (numberedLines text).filter fun line => isWritten line.2

/-- Runs a command on every line of a text that is not blank. -/
def onLines (handle : String → Output) (text : String) : Output :=
  .join ((writtenLines text).map fun line => handle line.2)

/-- The text of some bytes, if they are UTF-8. -/
def decode? (bytes : List UInt8) : Option String := String.fromUTF8? ⟨bytes.toArray⟩

/-- Runs a command on lines as they come in, up to the first that is not UTF-8. -/
def onRawLines (handle : String → Output) : List (List UInt8) → Outcome
  | [] => ⟨0, {}⟩
  | line :: rest =>
    match decode? line with
    | none => ⟨1, .complaint (plainLines ["Error: " ++ FileError.notText.text])⟩
    | some text =>
      let later := onRawLines handle rest
      ⟨later.code, (if isWritten text then handle text else {}) ++ later.output⟩

/-! ## Checking -/

/-- The heading of a check. -/
def checkHeading (path : String) : Styled :=
  Styled.bold "basic check" .cyan ++ Styled.plain " " ++ Styled.bold "•" .white ++
    Styled.plain " " ++ Styled.bold path .yellow ++ Styled.newline

/-- What is shown of a line that fails. -/
def checkLine (path : String) (line : Nat × String) : Styled :=
  let reading := Reading.ofSource line.2
  if reading.isClean then []
  else
    Styled.weighted (path ++ ":" ++ toString line.1) .bold ++ Styled.newline ++
      readingBlocks reading line.2

/-- The count at the end of a check. -/
def checkSummary (failed total : Nat) : Styled :=
  (if failed = 0 then
    Styled.bold "✔" .green ++
      Styled.plain (" " ++ toString total ++ " statements parsed successfully!")
  else
    Styled.bold "✘" .red ++
      Styled.plain (" " ++ toString failed ++ " of " ++ toString total ++ " statements failed")) ++
    Styled.newline

/-- Reports the lines of a text that fail. -/
def checkText (path text : String) : Outcome :=
  let lines := writtenLines text
  let failed := lines.countP fun line => !(Reading.ofSource line.2).isClean
  ⟨if failed = 0 then 0 else 1,
   ⟨checkHeading path ++ Styled.newline ++ checkSummary failed lines.length,
    lines.flatMap (checkLine path)⟩⟩

/-! ## Commands -/

/-- Runs something on the text of a file. -/
def onFile (path : String) (contents : Except FileError ByteArray) (handle : String → Outcome) :
    Outcome :=
  match contents with
  | .error error => unreadable path error
  | .ok bytes =>
    match String.fromUTF8? bytes with
    | some text => handle text
    | none => unreadable path .notText

/-- Runs something on every line of the standard input. -/
def onInput (contents : Except FileError ByteArray) (handle : String → Output) : Outcome :=
  match contents with
  | .error error => ⟨1, .complaint (plainLines ["Error: " ++ error.text])⟩
  | .ok bytes => onRawLines handle (Text.byteLines bytes.data.toList)

/-- Runs a command on the bytes of its file, or of the standard input. -/
def Command.run (command : Command) (contents : Except FileError ByteArray) : Outcome :=
  match command with
  | .lex (some path) => onFile path contents fun text => ⟨0, lexSource text⟩
  | .lex none => onInput contents lexSource
  | .parse (some path) format =>
    onFile path contents fun text => ⟨0, onLines (parseSource format) text⟩
  | .parse none format => onInput contents (parseSource format)
  | .check path => onFile path contents (checkText path)

/-- Are styles written?  Only where the output is fit for them, and never when they are
forbidden. -/
def Invocation.isColoured (invocation : Invocation) (capable : Bool) : Bool :=
  capable && !invocation.noColor

/-- What is written when a command runs. -/
def Invocation.write (invocation : Invocation) (capable : Bool)
    (contents : Except FileError ByteArray) : Written :=
  (invocation.command.run contents).write (invocation.isColoured capable)

end MiniBasic.CommandLine
