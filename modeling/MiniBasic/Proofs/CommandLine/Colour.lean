import MiniBasic.Proofs.CommandLine.Input
import MiniBasic.Proofs.CommandLine.Switches
import MiniBasic.Proofs.Diagnostic.Bare

/-!
# Colours change nothing but colours

Whoever takes the style sequences out of what a run writes gets what the same run writes without
colours, on both streams, and with the same code (`write_noColor_eq_unstyled`).

A run decides on its output and its code before it is known whether there are styles.  So what is to
show is that its texts hold no escape character, if neither the contents of the file nor its name do
(`Command.bare_run`); they would be taken out with the styles otherwise.  This goes from the parts
to the whole: blocks, what is printed of one source, of many lines, of a check.
-/

namespace MiniBasic.CommandLine

open Lexical (lex)
open Text (Bare Styled bare_append bare_join bare_literal bare_ofList bare_toString)

/-! ## Parts -/

/-- Nothing that is printed holds an escape character. -/
structure Output.Bare (output : Output) : Prop where
  stdout : output.stdout.Bare
  stderr : output.stderr.Bare

namespace Output

variable {first second : Output} {text : Styled}

theorem bare_empty : ({} : Output).Bare := ⟨Styled.bare_nil, Styled.bare_nil⟩

theorem bare_append (bare : first.Bare) (bare' : second.Bare) : (first ++ second).Bare :=
  ⟨Styled.bare_append.mpr ⟨bare.stdout, bare'.stdout⟩,
    Styled.bare_append.mpr ⟨bare.stderr, bare'.stderr⟩⟩

theorem bare_join {outputs : List Output} (all : ∀ output ∈ outputs, output.Bare) :
    (join outputs).Bare :=
  ⟨Styled.bare_flatMap fun output isIn => (all output isIn).stdout,
    Styled.bare_flatMap fun output isIn => (all output isIn).stderr⟩

theorem bare_complaint (bare : text.Bare) : (complaint text).Bare := ⟨Styled.bare_nil, bare⟩

end Output

variable {path source text stage : String}

theorem bare_plainLines {lines : List String} (all : ∀ line ∈ lines, Bare line) :
    (plainLines lines).Bare :=
  Styled.bare_plain.mpr <| bare_join <| List.forall_mem_map.mpr fun line isLine =>
    bare_append.mpr ⟨all line isLine, bare_literal rfl⟩

theorem bare_block {diagnostics : List Diagnostic} (bare : Bare stage)
    (all : ∀ diagnostic ∈ diagnostics, diagnostic.Bare) (bareSource : Bare source) :
    (block stage diagnostics source).Bare := by
  unfold block
  split
  next => exact Styled.bare_nil
  next =>
    simp only [Styled.bare_append, Styled.bare_bold, Styled.bare_plain, and_assoc]
    refine ⟨bare_literal rfl, bare_literal rfl, bare, Styled.bare_newline, ?_⟩
    refine Styled.bare_flatMap fun diagnostic isIn => Styled.bare_append.mpr ⟨?_, ?_⟩
    · exact Diagnostic.bare_render (all diagnostic isIn) bareSource
    · exact Styled.bare_newline

/-! ## One source -/

theorem bare_lexBlock (bare : Bare source) : (lexBlock (lex source).errors source).Bare :=
  bare_block (bare_literal rfl) (fun _ isIn => Reading.bare_of_mem_diagnostics bare
    (List.mem_append_left _ isIn)) bare

theorem bare_readingBlocks (bare : Bare source) :
    (readingBlocks (Reading.ofSource source) source).Bare := by
  refine Styled.bare_append.mpr ⟨bare_lexBlock bare, bare_block (bare_literal rfl) ?_ bare⟩
  exact fun _ isIn => Reading.bare_of_mem_diagnostics bare (List.mem_append_right _ isIn)

theorem bare_listed {located : Token.Located} (bare : Bare located.token.text) :
    Bare located.listed := by
  simp only [Token.Located.listed, bare_append, and_assoc]
  exact ⟨bare_literal rfl, located.token.bare_kind, bare_literal rfl, bare, bare_literal rfl,
    bare_toString _, bare_literal rfl⟩

theorem bare_lexSource (bare : Bare source) : (lexSource source).Bare where
  stdout := bare_plainLines <| List.forall_mem_map.mpr fun _ isToken =>
    bare_listed (Lexical.bare_of_mem_tokens bare isToken)
  stderr := bare_lexBlock bare

theorem Format.bare_print {format : Format} {tree : Statement} (bare : Bare source)
    (read : (Reading.ofSource source).result = .ok tree) : Bare (format.print tree) := by
  cases format with
  | tuple => exact Reading.bare_tuple bare read
  | debug => exact tree.bare_term _

theorem bare_parseSource (format : Format) (bare : Bare source) :
    (parseSource format source).Bare where
  stdout := by
    unfold parseSource
    dsimp only
    split
    next tree read =>
      exact bare_plainLines (List.forall_mem_singleton.mpr (Format.bare_print bare read))
    next => exact Styled.bare_nil
  stderr := bare_readingBlocks bare

/-! ## Many lines -/

theorem bare_of_mem_writtenLines {line : Nat × String} (bare : Bare text)
    (isLine : line ∈ writtenLines text) : Bare line.2 := by
  have isText := List.mem_map_of_mem (f := Prod.snd) isLine
  rw [map_snd_writtenLines, List.mem_filter, List.mem_map] at isText
  obtain ⟨⟨chars, isLine, same⟩, -⟩ := isText
  rw [← same, bare_ofList]
  exact fun isIn => bare (Text.subset_of_mem_linesWith isLine isIn)

/-- A text without escape characters is written in bytes without theirs. -/
theorem bare_of_fromUTF8? {bytes : ByteArray} (isText : String.fromUTF8? bytes = some text)
    (bare : 27 ∉ bytes.data.toList) : Bare text := by
  intro isIn
  refine bare ?_
  rw [toUTF8_of_fromUTF8? isText, Lexical.toList_toUTF8]
  exact List.mem_flatMap.mpr ⟨'\x1b', isIn, by decide⟩

section Lines

variable {handle : String → Output} (all : ∀ line, Bare line → (handle line).Bare)

include all

theorem bare_onLines (bare : Bare text) : (onLines handle text).Bare :=
  Output.bare_join <| List.forall_mem_map.mpr fun _ isLine =>
    all _ (bare_of_mem_writtenLines bare isLine)

theorem bare_onRawLines {lines : List (List UInt8)} (bare : ∀ line ∈ lines, 27 ∉ line) :
    (onRawLines handle lines).output.Bare := by
  induction lines with
  | nil => exact Output.bare_empty
  | cons line rest ih =>
    obtain ⟨inLine, others⟩ := List.forall_mem_cons.mp bare
    rw [onRawLines]
    split
    next =>
      refine Output.bare_complaint (bare_plainLines (List.forall_mem_singleton.mpr ?_))
      exact bare_append.mpr ⟨bare_literal rfl, bare_literal rfl⟩
    next text isText =>
      refine Output.bare_append ?_ (ih others)
      split
      next => exact all text (bare_of_fromUTF8? isText inLine)
      next => exact Output.bare_empty

end Lines

/-! ## Checking -/

theorem bare_checkHeading (bare : Bare path) : (checkHeading path).Bare := by
  simp only [checkHeading, Styled.bare_append, Styled.bare_bold, Styled.bare_plain, and_assoc]
  exact ⟨bare_literal rfl, bare_literal rfl, bare_literal rfl, bare_literal rfl, bare,
    Styled.bare_newline⟩

theorem bare_checkLine {line : Nat × String} (bare : Bare path) (bareLine : Bare line.2) :
    (checkLine path line).Bare := by
  unfold checkLine
  dsimp only
  split
  next => exact Styled.bare_nil
  next =>
    simp only [Styled.bare_append, Styled.bare_weighted, bare_append, and_assoc]
    exact ⟨bare, bare_literal rfl, bare_toString _, Styled.bare_newline,
      bare_readingBlocks bareLine⟩

theorem bare_checkSummary (failed total : Nat) : (checkSummary failed total).Bare := by
  unfold checkSummary
  split <;>
    simp only [Styled.bare_append, Styled.bare_bold, Styled.bare_plain, bare_append, and_assoc]
  next =>
    exact ⟨bare_literal rfl, bare_literal rfl, bare_toString _, bare_literal rfl,
      Styled.bare_newline⟩
  next =>
    exact ⟨bare_literal rfl, bare_literal rfl, bare_toString _, bare_literal rfl, bare_toString _,
      bare_literal rfl, Styled.bare_newline⟩

theorem bare_checkText (bare : Bare path) (bareText : Bare text) :
    (checkText path text).output.Bare where
  stdout := by
    refine Styled.bare_append.mpr ⟨Styled.bare_append.mpr ⟨bare_checkHeading bare, ?_⟩, ?_⟩
    · exact Styled.bare_newline
    · exact bare_checkSummary _ _
  stderr := Styled.bare_flatMap fun _ isLine =>
    bare_checkLine bare (bare_of_mem_writtenLines bareText isLine)

/-! ## Commands -/

/-- No escape character comes in: not in the bytes, and not in the system's words for why there are
none. -/
def BareContents : Except FileError ByteArray → Prop
  | .ok bytes => 27 ∉ bytes.data.toList
  | .error error => Bare error.text

section Commands

variable {contents : Except FileError ByteArray} {error : FileError}

theorem bare_unreadable (bare : Bare path) (bareError : Bare error.text) :
    (unreadable path error).output.Bare := by
  refine Output.bare_complaint (bare_plainLines ?_)
  rw [List.forall_mem_cons, List.forall_mem_cons, List.forall_mem_cons, List.forall_mem_singleton]
  exact ⟨bare_append.mpr ⟨bare_literal rfl, bare⟩, bare_literal rfl, bare_literal rfl,
    bare_append.mpr ⟨bare_literal rfl, bareError⟩⟩

theorem bare_onFile {handle : String → Outcome}
    (all : ∀ text, Bare text → (handle text).output.Bare) (bare : Bare path)
    (bareContents : BareContents contents) :
    (onFile path contents handle).output.Bare := by
  unfold onFile
  split
  next => exact bare_unreadable bare bareContents
  next =>
    split
    next text isText => exact all text (bare_of_fromUTF8? isText bareContents)
    next => exact bare_unreadable bare (bare_literal rfl)

theorem bare_onInput {handle : String → Output} (all : ∀ line, Bare line → (handle line).Bare)
    (bareContents : BareContents contents) : (onInput contents handle).output.Bare := by
  unfold onInput
  split
  next =>
    refine Output.bare_complaint (bare_plainLines (List.forall_mem_singleton.mpr ?_))
    exact bare_append.mpr ⟨bare_literal rfl, bareContents⟩
  next =>
    refine bare_onRawLines all fun line isLine isIn => ?_
    exact bareContents (Text.subset_of_mem_linesWith isLine isIn)

/-- What a command prints holds no escape character if none comes in. -/
theorem Command.bare_run {command : Command} (bare : ∀ path ∈ command.file?, Bare path)
    (bareContents : BareContents contents) : (command.run contents).output.Bare := by
  unfold run
  split
  next path => exact bare_onFile (fun _ => bare_lexSource) (bare path rfl) bareContents
  next => exact bare_onInput (fun _ => bare_lexSource) bareContents
  next path format =>
    refine bare_onFile (fun _ => ?_) (bare path rfl) bareContents
    exact bare_onLines fun _ => bare_parseSource format
  next format => exact bare_onInput (fun _ => bare_parseSource format) bareContents
  next path =>
    exact bare_onFile (fun _ => bare_checkText (bare path rfl)) (bare path rfl) bareContents

end Commands

/-! ## Runs -/

/-- What a run writes, without style sequences. -/
def Written.unstyled (written : Written) : Written :=
  { written with
    stdout := Text.unstyled written.stdout
    stderr := Text.unstyled written.stderr }

theorem Outcome.unstyled_write {outcome : Outcome} (bare : outcome.output.Bare) :
    (outcome.write true).unstyled = outcome.write false := by
  unfold write Written.unstyled
  rw [Styled.unstyled_write bare.stdout, Styled.unstyled_write bare.stderr]

theorem Invocation.unstyled_write {invocation : Invocation}
    {contents : Except FileError ByteArray} (colours : invocation.noColor = false)
    (bare : ∀ path ∈ invocation.command.file?, Bare path) (bareContents : BareContents contents)
    (capable : Bool) : invocation.plain.write capable contents =
      (invocation.write true contents).unstyled := by
  have isColoured : invocation.isColoured true = true := by simp [isColoured, colours]
  have isPlain : invocation.plain.isColoured capable = false := Bool.and_false capable
  rw [write, write, isColoured, isPlain]
  exact (Outcome.unstyled_write (Command.bare_run bare bareContents)).symm

/-- Colours change nothing but colours.  To the arguments of a run in colours, the switch that
forbids them can be added, in front at least.  Wherever it is added, the run then ends with the same
code, and on both streams it writes what it wrote in colours, without the style sequences, provided
that no escape character came in.  The same holds for what is shown of a diagnostic. -/
theorem write_noColor_eq_unstyled :
    (∀ front back styled contents, "--" ∉ front →
      Invocation.ofArguments (front ++ back) = .ok styled → styled.noColor = false →
      (∀ path ∈ styled.command.file?, Bare path) → BareContents contents →
      (∃ plain, Invocation.ofArguments ("--no-color" :: (front ++ back)) = .ok plain) ∧
      ∀ plain, Invocation.ofArguments (front ++ "--no-color" :: back) = .ok plain →
        ∀ capable, plain.write capable contents = (styled.write true contents).unstyled) ∧
    ∀ (diagnostic : Diagnostic) (source : String), diagnostic.Bare → Bare source →
      (diagnostic.render source).write false =
        Text.unstyled ((diagnostic.render source).write true) := by
  constructor
  · intro front back styled contents noDashes isRead colours bare bareContents
    refine ⟨⟨styled.plain, Invocation.ofArguments_noColor isRead colours⟩, ?_⟩
    intro plain isPlain capable
    obtain rfl := Invocation.plain_of_read_insert noDashes isRead isPlain
    exact Invocation.unstyled_write colours bare bareContents capable
  · intro diagnostic source bare bareSource
    exact (Styled.unstyled_write (Diagnostic.bare_render bare bareSource)).symm

/-- A check of a line with an illegal character, and the error that it reports. -/
theorem write_noColor_eq_unstyled_check :
    let contents : Except FileError ByteArray := .ok "x = @\n".toUTF8
    let styled : Invocation := ⟨.check "a.bas", false⟩
    let diagnostic : Diagnostic := (Lexical.LexicalError.illegalCharacter '@' 4 1).diagnostic
    ("--" ∉ ["check"] ∧ Invocation.ofArguments (["check"] ++ ["a.bas"]) = .ok styled ∧
      styled.noColor = false ∧ (∀ path ∈ styled.command.file?, Bare path) ∧
      BareContents contents ∧
      Invocation.ofArguments (["check"] ++ "--no-color" :: ["a.bas"]) = .ok styled.plain) ∧
    styled.plain.write true contents = (styled.write true contents).unstyled ∧
    styled.plain.write true contents ≠ styled.write true contents ∧
    (diagnostic.Bare ∧ Bare "x = @") ∧
    (diagnostic.render "x = @").write false =
      Text.unstyled ((diagnostic.render "x = @").write true) := by
  intro contents styled diagnostic
  have noDashes : "--" ∉ ["check"] := by decide
  have isRead : Invocation.ofArguments (["check"] ++ ["a.bas"]) = .ok styled := rfl
  have isPlain : Invocation.ofArguments (["check"] ++ "--no-color" :: ["a.bas"]) =
      .ok styled.plain := rfl
  have barePath : ∀ path ∈ styled.command.file?, Bare path := by
    rintro path ⟨⟩
    exact bare_literal rfl
  have bareContents : BareContents contents := by
    show 27 ∉ "x = @\n".toUTF8.data.toList
    decide +kernel
  have bare : diagnostic.Bare := Lexical.LexicalError.bare_diagnostic (by decide +kernel)
  have bareSource : Bare "x = @" := bare_literal rfl
  have same := (write_noColor_eq_unstyled.1 _ _ _ _ noDashes isRead rfl barePath bareContents).2
  exact ⟨⟨noDashes, isRead, rfl, barePath, bareContents, isPlain⟩, same _ isPlain true,
    by decide +kernel, ⟨bare, bareSource⟩, write_noColor_eq_unstyled.2 _ _ bare bareSource⟩

end MiniBasic.CommandLine
