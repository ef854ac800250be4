import MiniBasic.Proofs.CommandLine.Check
import MiniBasic.Proofs.Lexical.Blank

/-!
# What a check passes over

A check looks at the lines that are not blank, and it succeeds exactly if each of these reads clean
(`check_succeeds_iff`).

A blank line is passed over unread.  It would be read as the empty statement, but not always without
errors: a line is blank if it holds nothing but White_Space, and the reader of words allows only some
of it.  So a check may succeed although reading one of the lines would report an error
(`check_passes_no_break_space`).  What would be reported are the characters of blank lines other than
the space, the tab and the carriage return, and nothing else.
-/

namespace MiniBasic

open Text (isBlank)

variable {bytes : ByteArray} {text path : String} {line : List Char}

/-- A blank source is the empty statement. -/
theorem result_of_isBlank {source : String} (blank : isBlank source.toList = true) :
    (Reading.ofSource source).result = .ok .empty := by
  rw [Reading.result_ofSource, Lexical.tokens_of_isBlank blank]
  rfl

namespace CommandLine

/-- What would be reported of a blank line are its characters that separate no words. -/
theorem lexErrors_of_isBlank (isLine : line ∈ Text.lines text.toList)
    (blank : isBlank line = true) :
    (Reading.ofSource (String.ofList line)).lexErrors.map (·.text) =
      (line.filter fun c => c ∉ [' ', '\t', '\r']).map fun c => [c] := by
  have noFeed := Text.feed_notMem_of_mem_linesWith isLine
  have blank' : isBlank (String.ofList line).toList = true := by rwa [String.toList_ofList]
  refine (Lexical.errors_of_isBlank blank').trans ?_
  rw [String.toList_ofList]
  refine congrArg (List.map _) (List.filter_congr fun c isIn => ?_)
  have other : c ≠ '\n' := fun feed => noFeed (feed ▸ isIn)
  rw [Bool.eq_iff_iff]
  simp [Lexical.isGapChar, other, and_assoc]

/-- A check succeeds exactly if every line that is not blank reads clean. -/
theorem code_checkText_eq_zero_iff_lines : (checkText path text).code = 0 ↔
    ∀ line ∈ Text.lines text.toList, isBlank line = false →
      (Reading.ofSource (String.ofList line)).isClean = true := by
  have onLine : (∀ line ∈ writtenLines text, (Reading.ofSource line.2).isClean = true) ↔
      ∀ line ∈ (writtenLines text).map Prod.snd, (Reading.ofSource line).isClean = true := by
    rw [List.forall_mem_map]
  rw [code_checkText_eq_zero_iff, onLine, map_snd_writtenLines]
  simp [isWritten]

/-- A check of a text succeeds exactly if every line that is not blank is read as a statement,
without errors.  The blank lines would be read as empty statements, and of these the white space
other than space, tab and carriage return would be reported. -/
theorem check_succeeds_iff (isText : String.fromUTF8? bytes = some text) (path : String) :
    (((Command.check path).run (.ok bytes)).code = 0 ↔
      ∀ line ∈ Text.lines text.toList, isBlank line = false →
        (Reading.ofSource (String.ofList line)).lexErrors = [] ∧
          ∃ tree, (Reading.ofSource (String.ofList line)).result = .ok tree) ∧
    ∀ line ∈ Text.lines text.toList, isBlank line = true →
      (Reading.ofSource (String.ofList line)).result = .ok .empty ∧
        (Reading.ofSource (String.ofList line)).lexErrors.map (·.text) =
          (line.filter fun c => c ∉ [' ', '\t', '\r']).map fun c => [c] := by
  constructor
  · rw [run_check isText, code_checkText_eq_zero_iff_lines]
    simp only [Reading.isClean_iff]
  · intro line isLine blank
    refine ⟨result_of_isBlank ?_, lexErrors_of_isBlank isLine blank⟩
    rwa [String.toList_ofList]

/-- A check succeeds on an assignment and a second line that holds a tab and a no-break space; the
latter would be reported. -/
theorem check_succeeds_iff_no_break_space :
    String.fromUTF8? "x = 1\n\t\u00a0\n".toUTF8 = some "x = 1\n\t\u00a0\n" ∧
    ((Command.check "a.bas").run (.ok "x = 1\n\t\u00a0\n".toUTF8)).code = 0 ∧
    (['\t', '\u00a0'] ∈ Text.lines "x = 1\n\t\u00a0\n".toList ∧
      isBlank ['\t', '\u00a0'] = true ∧
      (Reading.ofSource (String.ofList ['\t', '\u00a0'])).lexErrors.map (·.text) =
        [['\u00a0']]) := by
  have isText := fromUTF8?_toUTF8 "x = 1\n\t\u00a0\n"
  have isLine : ['\t', '\u00a0'] ∈ Text.lines "x = 1\n\t\u00a0\n".toList := by decide +kernel
  have blank : isBlank ['\t', '\u00a0'] = true := by decide
  refine ⟨isText, (check_succeeds_iff isText "a.bas").1.mpr ?_, isLine, blank,
    ((check_succeeds_iff isText "a.bas").2 _ isLine blank).2⟩
  simp only [← Reading.isClean_iff]
  decide +kernel

/-- A check passes over a line with a no-break space, which reading would report. -/
theorem check_passes_no_break_space :
    ¬ (((Command.check "a.bas").run (.ok "\u00a0\n".toUTF8)).code = 0 ↔
      ∀ line ∈ Text.lines "\u00a0\n".toList,
        (Reading.ofSource (String.ofList line)).lexErrors = [] ∧
          ∃ tree, (Reading.ofSource (String.ofList line)).result = .ok tree) := by
  rw [run_check (fromUTF8?_toUTF8 "\u00a0\n"), code_checkText_eq_zero_iff]
  simp only [← Reading.isClean_iff]
  decide +kernel

end CommandLine

end MiniBasic
