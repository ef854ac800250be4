import MiniBasic.Proofs.CommandLine.Input

/-!
# What a check reports

A check goes over the lines of a file like the command that parses them, but it counts and numbers
what it complains about.  The two complain about the same lines in the same words
(`check_reports_parse`).

Both show the same blocks of a line, and these are empty exactly if the reading is clean
(`write_readingBlocks_eq_empty_iff`).  So the lines that a check counts as failed are those for which
parsing writes a complaint (`failingLines_eq`), and everything else follows line by line.
-/

namespace MiniBasic

/-- What is written for many parts is written part by part. -/
theorem Text.Styled.write_flatMap {α : Type} (coloured : Bool) (as : List α) (f : α → Styled) :
    write coloured (as.flatMap f) = String.join (as.map fun a => write coloured (f a)) := by
  induction as with
  | nil => rfl
  | cons a as ih => rw [List.flatMap_cons, write_append, ih, List.map_cons, String.join_cons]

namespace CommandLine

open Text (Styled)

variable {bytes : ByteArray} {text path source : String} {format : Format}

/-! ## Blocks -/

theorem join_eq_empty_iff {texts : List String} :
    String.join texts = "" ↔ ∀ text ∈ texts, text = "" := by
  induction texts with
  | nil => simp
  | cons text texts ih => rw [String.join_cons, String.append_eq_empty_iff, ih, List.forall_mem_cons]

theorem write_block_eq_empty_iff {stage : String} {diagnostics : List Diagnostic} :
    (block stage diagnostics source).write false = "" ↔ diagnostics = [] := by
  cases diagnostics with
  | nil => simp [block]
  | cons first others => simp [block, Styled.write_false, Styled.bold]

/-- Something is shown of a reading exactly if it is not clean. -/
theorem write_readingBlocks_eq_empty_iff {reading : Reading} :
    (readingBlocks reading source).write false = "" ↔ reading.isClean = true := by
  rw [readingBlocks, lexBlock, Styled.write_append, String.append_eq_empty_iff, write_block_eq_empty_iff,
    write_block_eq_empty_iff, Reading.isClean, Bool.and_eq_true, List.map_eq_nil_iff,
    List.isEmpty_iff]
  cases reading.error? <;> simp

/-! ## Lines -/

/-- What parsing writes on the second stream, without styles, when a line comes in alone. -/
def lineBlock (format : Format) (line : String) : String :=
  ((Command.parse none format).run (.ok line.toUTF8)).output.stderr.write false

/-- The lines of a text about which parsing complains, with their numbers. -/
def failingLines (format : Format) (text : String) : List (Nat × String) :=
  (writtenLines text).filter fun line => lineBlock format line.2 ≠ ""

theorem isWritten_of_mem_writtenLines {line : Nat × String} (isIn : line ∈ writtenLines text) :
    isWritten line.2 = true ∧ '\n' ∉ line.2.toList := by
  have isLine := List.mem_map_of_mem (f := Prod.snd) isIn
  rw [map_snd_writtenLines, List.mem_filter, List.mem_map] at isLine
  obtain ⟨⟨line', isLine, same⟩, written⟩ := isLine
  rw [← same, String.toList_ofList]
  exact ⟨same ▸ written, Text.feed_notMem_of_mem_linesWith isLine⟩

theorem lineBlock_eq {line : Nat × String} (isIn : line ∈ writtenLines text) :
    lineBlock format line.2 =
      (readingBlocks (Reading.ofSource line.2) line.2).write false := by
  obtain ⟨written, noFeed⟩ := isWritten_of_mem_writtenLines isIn
  rw [lineBlock, Command.run, onInput_text (fromUTF8?_toUTF8 line.2), onLines_line written noFeed]
  rfl

/-- Parsing complains about a line exactly if its reading is not clean. -/
theorem lineBlock_eq_empty_iff {line : Nat × String} (isIn : line ∈ writtenLines text) :
    lineBlock format line.2 = "" ↔ (Reading.ofSource line.2).isClean = true := by
  rw [lineBlock_eq isIn, write_readingBlocks_eq_empty_iff]

theorem failingLines_eq (format : Format) (text : String) : failingLines format text =
    (writtenLines text).filter fun line => !(Reading.ofSource line.2).isClean := by
  refine List.filter_congr fun line isIn => ?_
  rw [Bool.eq_iff_iff, decide_eq_true_eq, ne_eq, lineBlock_eq_empty_iff isIn, Bool.not_eq_true,
    Bool.not_eq_true']

/-! ## The two commands -/

/-- Parsing writes the blocks of all lines. -/
theorem write_stderr_parse (isText : String.fromUTF8? bytes = some text) :
    ((Command.parse (some path) format).run (.ok bytes)).output.stderr.write false =
      String.join ((writtenLines text).map fun line => lineBlock format line.2) := by
  rw [Command.run, onFile_text isText]
  show Styled.write false
    (((writtenLines text).map fun line => parseSource format line.2).flatMap (·.stderr)) = _
  rw [Styled.write_flatMap, List.map_map]
  refine congrArg String.join (List.map_congr_left fun line isIn => ?_)
  exact (lineBlock_eq isIn).symm

theorem run_check (isText : String.fromUTF8? bytes = some text) :
    (Command.check path).run (.ok bytes) = checkText path text := by
  rw [Command.run, onFile_text isText]

/-- A check shows the lines that fail, and of the others nothing. -/
theorem flatMap_checkLine (path : String) (lines : List (Nat × String)) :
    lines.flatMap (checkLine path) =
      (lines.filter fun line => !(Reading.ofSource line.2).isClean).flatMap (checkLine path) := by
  induction lines with
  | nil => rfl
  | cons line lines ih =>
    rw [List.flatMap_cons, ih]
    by_cases clean : (Reading.ofSource line.2).isClean = true
    · have nothing : checkLine path line = [] := if_pos clean
      rw [List.filter_cons_of_neg (by simp [clean]), nothing]
      rfl
    · rw [List.filter_cons_of_pos (by simp [clean]), List.flatMap_cons]

theorem write_checkLine {line : Nat × String} (isIn : line ∈ failingLines format text) :
    (checkLine path line).write false =
      path ++ ":" ++ toString line.1 ++ "\n" ++ lineBlock format line.2 := by
  have fails := isIn
  rw [failingLines_eq, List.mem_filter, Bool.not_eq_true'] at fails
  rw [lineBlock_eq fails.1, checkLine, if_neg (by simp [fails.2]), Styled.write_append,
    Styled.write_append, Styled.newline, Styled.write_plain]
  simp [Styled.write_false, Styled.weighted]

/-- A check writes the failing lines, each under its number. -/
theorem write_stderr_checkText (path text : String) (format : Format) :
    (checkText path text).output.stderr.write false =
      String.join ((failingLines format text).map fun line =>
        path ++ ":" ++ toString line.1 ++ "\n" ++ lineBlock format line.2) := by
  show Styled.write false ((writtenLines text).flatMap (checkLine path)) = _
  rw [flatMap_checkLine, ← failingLines_eq format, Styled.write_flatMap]
  exact congrArg String.join (List.map_congr_left fun line isIn => write_checkLine isIn)

/-- The number of the lines that a check counts as failed. -/
theorem length_failingLines (format : Format) (text : String) :
    (failingLines format text).length =
      (writtenLines text).countP fun line => !(Reading.ofSource line.2).isClean := by
  rw [failingLines_eq, List.countP_eq_length_filter]

theorem write_stdout_checkText (path text : String) (format : Format) :
    (checkText path text).output.stdout.write false =
      "basic check • " ++ path ++ "\n\n" ++
        if (failingLines format text).length = 0 then
          "✔ " ++ toString (writtenLines text).length ++ " statements parsed successfully!\n"
        else
          "✘ " ++ toString (failingLines format text).length ++ " of " ++
            toString (writtenLines text).length ++ " statements failed\n" := by
  show Styled.write false (checkHeading path ++ Styled.newline ++
    checkSummary ((writtenLines text).countP _) (writtenLines text).length) = _
  rw [← length_failingLines format, checkSummary]
  split <;> simp [checkHeading, Styled.newline, Styled.write_false, Styled.bold, Styled.plain,
    ← String.toList_inj]

theorem code_checkText (path text : String) (format : Format) :
    (checkText path text).code = if (failingLines format text).length = 0 then 0 else 1 := by
  rw [length_failingLines]
  rfl

/-- A check succeeds exactly if every line that is not blank reads clean. -/
theorem code_checkText_eq_zero_iff : (checkText path text).code = 0 ↔
    ∀ line ∈ writtenLines text, (Reading.ofSource line.2).isClean = true := by
  have isCount : (checkText path text).code = if (writtenLines text).countP
      (fun line => !(Reading.ofSource line.2).isClean) = 0 then 0 else 1 := rfl
  rw [isCount, ite_eq_left_iff, List.countP_eq_zero]
  simp

/-! ## The whole file -/

/-- Parsing a file complains about its lines in order.  A check of the file writes the same, for
exactly the lines with a complaint, and each under its number; it counts these lines, and it fails
if there are any. -/
theorem check_reports_parse (isText : String.fromUTF8? bytes = some text) (path : String)
    (format : Format) :
    let parsed := (Command.parse (some path) format).run (.ok bytes)
    let checked := (Command.check path).run (.ok bytes)
    let failed := (failingLines format text).length
    let total := (writtenLines text).length
    parsed.output.stderr.write false =
      String.join ((writtenLines text).map fun line => lineBlock format line.2) ∧
    checked.output.stderr.write false =
      String.join ((failingLines format text).map fun line =>
        path ++ ":" ++ toString line.1 ++ "\n" ++ lineBlock format line.2) ∧
    checked.output.stdout.write false =
      "basic check • " ++ path ++ "\n\n" ++
        (if failed = 0 then "✔ " ++ toString total ++ " statements parsed successfully!\n"
        else "✘ " ++ toString failed ++ " of " ++ toString total ++ " statements failed\n") ∧
    checked.code = (if failed = 0 then 0 else 1) ∧
    (checked.code = 0 ↔ parsed.output.stderr.write false = "") := by
  intro parsed checked failed total
  have isChecked : checked = checkText path text := run_check isText
  have isParsed : parsed.output.stderr.write false =
      String.join ((writtenLines text).map fun line => lineBlock format line.2) :=
    write_stderr_parse isText
  rw [isParsed, isChecked]
  refine ⟨rfl, write_stderr_checkText path text format, write_stdout_checkText path text format,
    code_checkText path text format, ?_⟩
  rw [code_checkText_eq_zero_iff, join_eq_empty_iff, List.forall_mem_map]
  exact forall₂_congr fun line isIn => (lineBlock_eq_empty_iff isIn).symm

/-- Of the lines `x = 1`, nothing, `1 +` and `@ y`, the third and the fourth fail. -/
theorem check_reports_parse_lines :
    String.fromUTF8? "x = 1\n\n1 +\n@ y\r\n".toUTF8 = some "x = 1\n\n1 +\n@ y\r\n" ∧
    failingLines .tuple "x = 1\n\n1 +\n@ y\r\n" = [(3, "1 +"), (4, "@ y")] ∧
    ((Command.check "a.bas").run (.ok "x = 1\n\n1 +\n@ y\r\n".toUTF8)).output.stdout.write false =
      "basic check • a.bas\n\n✘ 2 of 3 statements failed\n" ∧
    ((Command.check "a.bas").run (.ok "x = 1\n\n1 +\n@ y\r\n".toUTF8)).code = 1 := by
  have isText := fromUTF8?_toUTF8 "x = 1\n\n1 +\n@ y\r\n"
  have failing : failingLines .tuple "x = 1\n\n1 +\n@ y\r\n" = [(3, "1 +"), (4, "@ y")] := by
    rw [failingLines_eq]
    decide +kernel
  have total : (writtenLines "x = 1\n\n1 +\n@ y\r\n").length = 3 := by decide +kernel
  obtain ⟨-, -, isReport, isCode, -⟩ := check_reports_parse isText "a.bas" .tuple
  rw [failing] at isReport isCode
  rw [total] at isReport
  exact ⟨isText, failing, isReport, isCode⟩

end CommandLine

end MiniBasic
