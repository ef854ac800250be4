import MiniBasic.Proofs.CommandLine.Check
import MiniBasic.Proofs.Lexical.Blank
import MiniBasic.Proofs.Lexical.Numbered
import MiniBasic.Proofs.Lexical.Printing

/-!
# Listings of a file and of its lines

The command that lists tokens takes a file as one text, but the standard input line by line, and it
passes over blank lines.  The two agree: the listing of a file is that of its lines one after the
other, with the number of the line in place of the 1 that each row ends in (`lex_file_eq`).

Both are rows for the same tokens.  A file has the tokens of its lines, each with the number of its
line (`Lexical.map_tokens_pieces`), and a row holds of a token only what it is and the number
(`row`).  A blank line has no tokens.
-/

namespace MiniBasic.CommandLine

open Lexical (words tokens lex)

variable {bytes : ByteArray} {text : String} {line : List Char} {token : Token}

/-! ## Rows -/

/-- The row of a listing for a token on the line with a number. -/
def row (token : Token) (number : Nat) : String := Token.Located.listed ⟨token, ⟨0, 0⟩, number⟩

/-- The listing of a line with a number. -/
def listing (number : Nat) (line : List Char) : String :=
  String.join ((words line).map fun token => row token number ++ "\n")

/-- A row with another number in place of the 1 at its end. -/
def renumberedRow (number : Nat) (row : List Char) : List Char :=
  match row.reverse with
  | ')' :: '1' :: ' ' :: ',' :: front => front.reverse ++ (", " ++ toString number ++ ")").toList
  | _ => row

/-- A listing with another number in place of the 1 at the end of each row. -/
def renumbered (number : Nat) (listing : String) : String :=
  String.join ((Text.lines listing.toList).map fun row =>
    String.ofList (renumberedRow number row) ++ "\n")

/-- What the command that lists tokens writes when a line comes in alone. -/
def lineListing (coloured : Bool) (line : String) : String :=
  ((Command.lex none).run (.ok line.toUTF8)).output.stdout.write coloured

/-- What a row shows of a token itself. -/
def rowFront (token : Token) : List Char := ("(" ++ token.kind ++ ", " ++ token.text).toList

theorem toList_row (token : Token) (number : Nat) :
    (row token number).toList = rowFront token ++ (", " ++ toString number ++ ")").toList := by
  simp [row, rowFront, Token.Located.listed]

theorem toList_row_one (token : Token) :
    (row token 1).toList = rowFront token ++ [',', ' ', '1', ')'] :=
  toList_row token 1

theorem renumberedRow_row (token : Token) (number : Nat) :
    renumberedRow number (row token 1).toList = (row token number).toList := by
  rw [toList_row_one, toList_row, renumberedRow, List.reverse_append]
  show (rowFront token).reverse.reverse ++ _ = _
  rw [List.reverse_reverse]

theorem feed_notMem_kind (token : Token) : '\n' ∉ token.kind.toList := by
  cases token <;> simp [Token.kind, Token.lexeme]

theorem feed_notMem_row (isRead : token ∈ words line) : '\n' ∉ (row token 1).toList := by
  have isToken : token ∈ tokens (String.ofList line) := by
    rwa [Lexical.tokens_eq_words, String.toList_ofList]
  have oneLine : '\n' ∉ token.text.toList :=
    (Lexical.lexeme_text_of_isReadable (Lexical.isReadable_of_mem_tokens isToken)).feed_notMem
  rw [toList_row_one]
  simp [rowFront, oneLine, feed_notMem_kind]

/-- A row and its end are one line. -/
theorem lines_row (isRow : '\n' ∉ (row token 1).toList) (rest : List Char) :
    Text.lines ((row token 1).toList ++ '\n' :: rest) =
      (row token 1).toList :: Text.lines rest := by
  obtain ⟨first, isLines, same | same⟩ :=
    Text.exists_linesWith_append (show '\r' ≠ '\n' by decide) isRow rest
  · rw [Text.lines, isLines, ← same]
    rfl
  · -- a row ends in a bracket
    have last := congrArg List.getLast? same
    rw [toList_row_one] at last
    simp at last

/-- The rows of a listing are its lines. -/
theorem lines_listing (line : List Char) :
    Text.lines (listing 1 line).toList = (words line).map fun token => (row token 1).toList := by
  have oneLine : ∀ token ∈ words line, '\n' ∉ (row token 1).toList := fun _ => feed_notMem_row
  unfold listing
  generalize words line = read at oneLine
  induction read with
  | nil => rfl
  | cons token rest ih =>
    obtain ⟨isRow, others⟩ := List.forall_mem_cons.mp oneLine
    rw [List.map_cons, String.join_cons, String.toList_append, String.toList_append,
      List.append_assoc, List.map_cons, ← ih others]
    exact lines_row isRow _

/-- The listing of a line with another number. -/
theorem renumbered_listing (number : Nat) (line : List Char) :
    renumbered number (listing 1 line) = listing number line := by
  rw [renumbered, lines_listing, List.map_map, listing]
  refine congrArg String.join (List.map_congr_left fun token _ => ?_)
  show String.ofList (renumberedRow number (row token 1).toList) ++ "\n" = _
  rw [renumberedRow_row, String.ofList_toList]

/-! ## One line -/

theorem write_lexSource (coloured : Bool) (source : String) :
    (lexSource source).stdout.write coloured =
      String.join ((lex source).tokens.map fun located =>
        row located.token located.line ++ "\n") := by
  show (plainLines _).write coloured = _
  rw [plainLines, Text.Styled.write_plain, List.map_map]
  rfl

theorem numberedLines_eq (text : String) : numberedLines text =
    ((Text.lines text.toList).zipIdx 1).map fun line => (line.2, String.ofList line.1) := by
  refine List.ext_getElem? fun index => ?_
  simp [numberedLines, List.getElem?_mapIdx, List.getElem?_zipIdx, Nat.add_comm, Function.comp_def]

theorem join_flatMap {α : Type} (as : List α) (f : α → List String) :
    String.join (as.flatMap f) = String.join (as.map fun a => String.join (f a)) := by
  induction as with
  | nil => rfl
  | cons a as ih => rw [List.flatMap_cons, String.join_append, ih, List.map_cons, String.join_cons]

/-- A text is listed line by line, each line with its number. -/
theorem write_lexSource_lines (coloured : Bool) (text : String) :
    (lexSource text).stdout.write coloured =
      String.join ((numberedLines text).map fun line => listing line.1 line.2.toList) := by
  have isMap := congrArg (List.map fun entry => row entry.1 entry.2 ++ "\n")
    (Lexical.map_tokens_pieces .start text.toList)
  rw [List.map_map, List.map_flatMap] at isMap
  rw [write_lexSource, numberedLines_eq, List.map_map]
  refine (congrArg String.join isMap).trans ?_
  rw [join_flatMap]
  refine congrArg String.join (List.map_congr_left fun line _ => ?_)
  rw [List.map_map, Function.comp, String.toList_ofList]
  rfl

/-! ## Line by line -/

theorem notMem_of_mem_numberedLines {line : Nat × String} (isLine : line ∈ numberedLines text) :
    '\n' ∉ line.2.toList := by
  rw [numberedLines_eq, List.mem_map] at isLine
  obtain ⟨⟨line, number⟩, isLine, rfl⟩ := isLine
  rw [String.toList_ofList]
  exact Text.feed_notMem_of_mem_linesWith (List.fst_mem_of_mem_zipIdx isLine)

/-- A blank line has no rows. -/
theorem listing_blank {line : String} (blank : isWritten line = false) (number : Nat) :
    listing number line.toList = "" := by
  have isBlank : Text.isBlank line.toList = true := by simpa [isWritten] using blank
  rw [listing, ← Lexical.tokens_eq_words, tokens, Lexical.tokens_of_isBlank isBlank]
  rfl

/-- A line that comes in alone is listed with the number 1. -/
theorem lineListing_eq (coloured : Bool) {line : String} (noFeed : '\n' ∉ line.toList) :
    lineListing coloured line = listing 1 line.toList := by
  rw [lineListing, Command.run, onInput_text (fromUTF8?_toUTF8 line)]
  cases written : isWritten line with
  | true =>
    rw [onLines_line written noFeed, write_lexSource_lines, numberedLines,
      lines_of_isWritten written noFeed]
    simp
  | false =>
    rw [onLines_blank written noFeed, listing_blank written]
    rfl

/-- What writes nothing may be passed over. -/
theorem join_filter {α : Type} {as : List α} {keeps : α → Bool} {f : α → String}
    (silent : ∀ a ∈ as, keeps a = false → f a = "") :
    String.join ((as.filter keeps).map f) = String.join (as.map f) := by
  induction as with
  | nil => rfl
  | cons a as ih =>
    obtain ⟨isSilent, others⟩ := List.forall_mem_cons.mp silent
    cases kept : keeps a with
    | true => rw [List.filter_cons_of_pos kept, List.map_cons, String.join_cons, ih others,
        List.map_cons, String.join_cons]
    | false => rw [List.filter_cons_of_neg (by simp [kept]), ih others, List.map_cons,
        String.join_cons, isSilent kept, String.empty_append]

/-- Lines that come in are listed one after the other. -/
theorem write_lex_input (isText : String.fromUTF8? bytes = some text) (coloured : Bool) :
    ((Command.lex none).run (.ok bytes)).output.stdout.write coloured =
      String.join ((writtenLines text).map fun line => lineListing coloured line.2) := by
  rw [Command.run, onInput_text isText]
  show Text.Styled.write coloured
    (((writtenLines text).map fun line => lexSource line.2).flatMap (·.stdout)) = _
  rw [Text.Styled.write_flatMap, List.map_map]
  refine congrArg String.join (List.map_congr_left fun line isIn => ?_)
  obtain ⟨written, noFeed⟩ := isWritten_of_mem_writtenLines isIn
  rw [lineListing, Command.run, onInput_text (fromUTF8?_toUTF8 line.2), onLines_line written noFeed]
  rfl

/-- The listing of a file is that of its lines as they come in, one after the other, with the number
of the line in place of the 1 in each row.  With the 1 left in place, it is the listing of the whole
text as it comes in.  Blank lines have no rows. -/
theorem lex_file_eq (isText : String.fromUTF8? bytes = some text) (path : String)
    (coloured : Bool) :
    ((Command.lex (some path)).run (.ok bytes)).output.stdout.write coloured =
      String.join ((numberedLines text).map fun line =>
        renumbered line.1 (lineListing coloured line.2)) ∧
    ((Command.lex none).run (.ok bytes)).output.stdout.write coloured =
      String.join ((numberedLines text).map fun line => lineListing coloured line.2) ∧
    ∀ line ∈ numberedLines text, isWritten line.2 = false → lineListing coloured line.2 = "" := by
  have blankLines : ∀ line ∈ numberedLines text, isWritten line.2 = false →
      lineListing coloured line.2 = "" := by
    intro line isLine blank
    rw [lineListing_eq coloured (notMem_of_mem_numberedLines isLine), listing_blank blank]
  refine ⟨?_, ?_, blankLines⟩
  · rw [Command.run, onFile_text isText, write_lexSource_lines]
    refine congrArg String.join (List.map_congr_left fun line isLine => ?_)
    rw [lineListing_eq coloured (notMem_of_mem_numberedLines isLine), renumbered_listing]
  · rw [write_lex_input isText, writtenLines]
    exact join_filter blankLines

/-- A text with a carriage return in a string, with others in the ends of lines, and with a second line
that holds nothing but a no-break space. -/
def returns : String := "a \"b\r\"\r\n\u00a0\nc # d\r\n"

/-- The third line is listed with its number, and the second has no rows. -/
theorem lex_file_eq_returns :
    String.fromUTF8? returns.toUTF8 = some returns ∧
    ((Command.lex (some "a.bas")).run (.ok returns.toUTF8)).output.stdout.write false =
      "(NAME, a, 1)\n(STRING, \"b\r\", 1)\n(NAME, c, 3)\n" ∧
    ((Command.lex none).run (.ok returns.toUTF8)).output.stdout.write false =
      "(NAME, a, 1)\n(STRING, \"b\r\", 1)\n(NAME, c, 1)\n" ∧
    ((2, "\u00a0") ∈ numberedLines returns ∧ isWritten "\u00a0" = false ∧
      lineListing false "\u00a0" = "") := by
  have isText := fromUTF8?_toUTF8 returns
  obtain ⟨inFile, comesIn, blankLines⟩ := lex_file_eq isText "a.bas" false
  have isLine : (2, "\u00a0") ∈ numberedLines returns := by decide +kernel
  have blank : isWritten "\u00a0" = false := by decide +kernel
  refine ⟨isText, inFile.trans ?_, comesIn.trans ?_, isLine, blank, blankLines _ isLine blank⟩ <;>
    decide +kernel

end MiniBasic.CommandLine
