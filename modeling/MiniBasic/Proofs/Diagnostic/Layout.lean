import MiniBasic.Diagnostic.Slices
import MiniBasic.Proofs.Diagnostic.Carets

/-!
# What a diagnostic shows

Whatever the span of a diagnostic, all slices of the source that are asked for exist, and the
excerpt that is put together from them is the one that is shown (`Excerpt.bySlices?_eq`).  A source
is cut around the start of the span, which needs no more than a start on a boundary.  Around it the
text has four parts: what is above the line, the line before and behind the start, and what is
below the line.  The offsets of the line feeds next to the start are those of the parts
(`LineParts.lineStart_eq`, `LineParts.lineEnd_eq`), so each slice is one part or two of them.

From the same parts the layout is told (`Diagnostic.layout_of_render`).
-/

namespace MiniBasic

open Text (Span Styled LineParts)

/-! ## The line around an offset -/

namespace Text

variable {text above before behind below front back : List Char} {offset : Nat}

theorem firstFeed?_append (noFeed : '\n' ∉ front) (rest : List Char) :
    firstFeed? (front ++ rest) = (firstFeed? rest).map (byteLength front + ·) := by
  induction front with
  | nil => simp
  | cons c front ih =>
    obtain ⟨other, others⟩ := not_or.mp (mt List.mem_cons.mpr noFeed)
    rw [List.cons_append, firstFeed?, if_neg (Ne.symm other), ih others, Option.map_map]
    exact congrArg (Option.map · _) (funext fun _ => (Nat.add_assoc ..).symm)

theorem lastFeed?_of_notMem (noFeed : '\n' ∉ text) : lastFeed? text = none := by
  induction text with
  | nil => rfl
  | cons c text ih =>
    obtain ⟨other, others⟩ := not_or.mp (mt List.mem_cons.mpr noFeed)
    rw [lastFeed?, ih others]
    exact if_neg (Ne.symm other)

theorem lastFeed?_append_feed (front : List Char) (noFeed : '\n' ∉ back) :
    lastFeed? (front ++ '\n' :: back) = some (byteLength front) := by
  induction front with
  | nil =>
    rw [List.nil_append, lastFeed?, lastFeed?_of_notMem noFeed]
    rfl
  | cons c front ih =>
    rw [List.cons_append, lastFeed?, ih]
    rfl

/-- Around a boundary, a text has a line. -/
theorem OnBoundary.exists_lineParts (boundary : OnBoundary text offset) :
    ∃ above before behind below, LineParts text ⟨offset, offset⟩ above before [] behind below := by
  obtain ⟨front, back, joined, start⟩ := boundary
  have parts : Parts text ⟨offset, offset⟩ front [] back := ⟨joined, start, start⟩
  obtain ⟨above, before, behind, below, -, lineParts⟩ :=
    Text.exists_lineParts parts List.not_mem_nil
  exact ⟨above, before, behind, below, lineParts⟩

namespace LineParts

section

variable (lineParts : LineParts text ⟨offset, offset⟩ above before [] behind below)

include lineParts

/-- The line starts behind the last line feed in front of the offset, or with the text. -/
theorem lineStart_eq : ((lastFeed? (above ++ before)).map (· + 1)).getD 0 = byteLength above := by
  have top := lineParts.top
  rcases List.eq_nil_or_concat above with rfl | ⟨front, d, rfl⟩
  · rw [List.nil_append, lastFeed?_of_notMem lineParts.notMem_before]
    rfl
  · rw [List.concat_eq_append] at top ⊢
    cases top d List.getLast?_concat
    rw [List.append_assoc, List.singleton_append,
      lastFeed?_append_feed front lineParts.notMem_before, byteLength_append]
    rfl

/-- The line ends at the next line feed from the offset on, or with the text. -/
theorem lineEnd_eq : ((firstFeed? (behind ++ below)).map (offset + ·)).getD (byteLength text) =
    offset + byteLength behind := by
  have bottom := lineParts.bottom
  rw [firstFeed?_append lineParts.notMem_behind]
  cases below with
  | nil =>
    obtain ⟨joined, start, -⟩ := lineParts.parts
    rw [← joined, byteLength_append, start, List.append_nil]
    rfl
  | cons d below =>
    cases bottom d rfl
    rfl

theorem slice?_front : slice? text ⟨0, offset⟩ = some (above ++ before) := by
  obtain ⟨joined, start, -⟩ := lineParts.parts
  exact slice?_eq_some_iff.mpr ⟨[], behind ++ below, joined, rfl, by simpa using start⟩

theorem slice?_back : slice? text ⟨offset, byteLength text⟩ = some (behind ++ below) := by
  obtain ⟨joined, start, -⟩ := lineParts.parts
  refine slice?_eq_some_iff.mpr ⟨above ++ before, [], ?_, start, ?_⟩
  · rw [List.append_nil]
    exact joined
  · rw [← byteLength_append]
    exact congrArg byteLength joined

theorem slice?_head : slice? text ⟨byteLength above, offset⟩ = some before := by
  obtain ⟨joined, start, -⟩ := lineParts.parts
  refine slice?_eq_some_iff.mpr ⟨above, behind ++ below, ?_, rfl, ?_⟩
  · rw [← List.append_assoc]
    exact joined
  · rw [← byteLength_append]
    exact start

theorem slice?_line :
    slice? text ⟨byteLength above, offset + byteLength behind⟩ = some (before ++ behind) := by
  obtain ⟨joined, start, -⟩ := lineParts.parts
  refine slice?_eq_some_iff.mpr ⟨above, below, ?_, rfl, ?_⟩
  · rw [← joined]
    simp
  · rw [← byteLength_append, ← List.append_assoc, byteLength_append]
    exact congrArg (· + byteLength behind) start

end

end LineParts

end Text

/-! ## Excerpts by slices -/

variable {text above before behind below : List Char} {span : Span}

/-- The number of carets, asked for by a slice or by cutting. -/
theorem caretWidth_eq {front back : List Char}
    (isCut : Text.cut? text span.start = some (front, back)) :
    ((Text.slice? text ⟨span.start, max span.stop span.start⟩).map fun marked =>
      max marked.length 1).getD 1 = caretWidth back (span.stop - span.start) := by
  have ordered : ¬ max span.stop span.start < span.start := Nat.not_lt.mpr (Nat.le_max_right _ _)
  have width : max span.stop span.start - span.start = span.stop - span.start := by omega
  have isSlice : Text.slice? text ⟨span.start, max span.stop span.start⟩ =
      (Text.cut? back (span.stop - span.start)).map (·.1) := by
    rw [Text.slice?, if_neg ordered, isCut, width]
    exact (Option.map_eq_bind ..).symm
  rw [isSlice, caretWidth]
  cases Text.cut? back (span.stop - span.start) with
  | none => rfl
  | some marked => exact Nat.max_comm _ _

/-- Around the start of a span that is shown, the text has a line, and the excerpt shows it. -/
theorem Excerpt.of?_of_shows (isShown : Text.Shows text span) :
    ∃ above before behind below,
      LineParts text ⟨span.start, span.start⟩ above before [] behind below ∧
      of? text span = some ⟨1 + (above ++ before).count '\n', before ++ behind, before.length,
        caretWidth (behind ++ below) (span.stop - span.start)⟩ := by
  obtain ⟨-, within, boundary⟩ := isShown
  obtain ⟨above, before, behind, below, lineParts⟩ := boundary.exists_lineParts
  exact ⟨above, before, behind, below, lineParts, of?_of_start lineParts within⟩

theorem Excerpt.of?_of_not_shows (notShown : ¬ Text.Shows text span) : of? text span = none := by
  rw [of?]
  split
  · rfl
  · rename_i within
    cases isCut : Text.cut? text span.start with
    | none => rfl
    | some parts =>
      obtain ⟨joined, start⟩ := Text.cut?_eq_some_iff.mp isCut
      refine absurd ⟨?_, Nat.not_lt.mp within, _, _, joined, start⟩ notShown
      rw [← start, ← joined, Text.byteLength_append]
      exact Nat.le_add_right _ _

/-- The slices of an excerpt exist, and make up the excerpt. -/
theorem Excerpt.bySlices?_eq (text : List Char) (span : Span) :
    bySlices? text span = some (of? text span) := by
  by_cases isShown : Text.Shows text span
  · obtain ⟨above, before, behind, below, lineParts, isExcerpt⟩ := of?_of_shows isShown
    rw [isExcerpt, bySlices?, if_pos isShown]
    simp only [lineParts.slice?_front, lineParts.slice?_back, lineParts.lineStart_eq,
      lineParts.lineEnd_eq, lineParts.slice?_head, lineParts.slice?_line, Option.bind_eq_bind,
      Option.bind_some, caretWidth_eq lineParts.cut?_eq, Nat.add_comm 1]
    rfl
  · rw [of?_of_not_shows isShown, bySlices?, if_neg isShown]
    rfl

/-! ## Carets -/

/-- The carets for a span are as many as its characters, if it is not empty and ends on a boundary,
and one otherwise. -/
structure Text.CaretsFor (text : List Char) (span : Span) (carets : Nat) : Prop where
  marked : span.start < span.stop → OnBoundary text span.stop →
    ∃ front inside back, Parts text span front inside back ∧ carets = inside.length
  single : ¬ (span.start < span.stop ∧ OnBoundary text span.stop) → carets = 1

/-- Of two boundaries, the second cuts what is behind the first. -/
theorem Text.OnBoundary.exists_parts {front back : List Char} (holds : span.start < span.stop)
    (isCut : cut? text span.start = some (front, back)) (boundary : OnBoundary text span.stop) :
    ∃ inside rest, back = inside ++ rest ∧ Parts text span front inside rest := by
  obtain ⟨joined, start⟩ := cut?_eq_some_iff.mp isCut
  obtain ⟨before, after, joinedToo, stop⟩ := boundary
  obtain ⟨inside, rfl, rfl⟩ | ⟨extra, rfl, rfl⟩ :=
    List.append_eq_append_iff.mp (joined.trans joinedToo.symm)
  · exact ⟨inside, after, rfl, joined, start, by rw [← byteLength_append]; exact stop⟩
  · rw [byteLength_append] at start
    omega

theorem caretsFor_caretWidth {front back : List Char}
    (isCut : Text.cut? text span.start = some (front, back)) :
    Text.CaretsFor text span (caretWidth back (span.stop - span.start)) := by
  constructor
  · intro holds boundary
    obtain ⟨inside, rest, rfl, parts⟩ := boundary.exists_parts holds isCut
    refine ⟨front, inside, rest, parts, ?_⟩
    rw [← parts.byteLength_inside, caretWidth_append]
    exact Nat.max_eq_right (List.length_pos_iff.mpr (parts.inside_ne_nil holds))
  · intro noMark
    by_cases holds : span.start < span.stop
    · obtain ⟨joined, start⟩ := Text.cut?_eq_some_iff.mp isCut
      cases isCutBack : Text.cut? back (span.stop - span.start) with
      | none => rw [caretWidth, isCutBack]
      | some parts =>
        obtain ⟨rfl, bytes⟩ := Text.cut?_eq_some_iff.mp isCutBack
        refine absurd ⟨holds, front ++ parts.1, parts.2, ?_, ?_⟩ noMark
        · rw [List.append_assoc]
          exact joined
        · rw [Text.byteLength_append]
          omega
    · rw [Nat.sub_eq_zero_of_le (Nat.not_lt.mp holds)]
      exact caretWidth_append [] back

/-! ## Diagnostics -/

namespace Diagnostic

open Text (Shows CaretsFor)
open Text.Styled (plain weighted bold)

/-- Does a diagnostic show the line of a source on which its span starts?  Under its headline stand
the number and the line; under the line a blank for each character in front of the span, and the
carets. -/
def ShowsLine (diagnostic : Diagnostic) (source : String) : Prop :=
  ∃ above before behind below carets,
    LineParts source.toList ⟨diagnostic.span.start, diagnostic.span.start⟩ above before []
      behind below ∧
    CaretsFor source.toList diagnostic.span carets ∧
    diagnostic.render source = diagnostic.headline ++
      (plain ("\n" ++ rightAligned 4 (1 + (above ++ before).count '\n') ++ " | ") ++
        weighted (String.ofList (before ++ behind)) .dim ++
        plain ("\n     | " ++ "".pushn ' ' before.length) ++ bold ("".pushn '^' carets) .red) ++
      (diagnostic.suggestion.map advice).getD []

/-- The slices that a diagnostic is put together from exist, whatever its span.  It shows a line
exactly if its span has one to show, and otherwise only its headline and advice. -/
theorem layout_of_render (diagnostic : Diagnostic) (source : String) :
    diagnostic.renderBySlices? source = some (diagnostic.render source) ∧
    (Shows source.toList diagnostic.span → diagnostic.ShowsLine source) ∧
    (¬ Shows source.toList diagnostic.span → diagnostic.render source =
      diagnostic.headline ++ (diagnostic.suggestion.map advice).getD []) := by
  refine ⟨?_, fun isShown => ?_, fun notShown => ?_⟩
  · rw [renderBySlices?, Excerpt.bySlices?_eq]
    rfl
  · obtain ⟨above, before, behind, below, lineParts, isExcerpt⟩ := Excerpt.of?_of_shows isShown
    refine ⟨above, before, behind, below, _, lineParts, caretsFor_caretWidth lineParts.cut?_eq, ?_⟩
    rw [render, isExcerpt]
    rfl
  · rw [render, Excerpt.of?_of_not_shows notShown]
    exact congrArg (· ++ _) (List.append_nil _)

/-- A span that ends inside the `é` is shown with its line, and one that starts inside is not. -/
theorem layout_of_render_accent :
    (Shows "a\né!".toList ⟨2, 3⟩ ∧ (mk "E" "m" ⟨2, 3⟩ none).ShowsLine "a\né!") ∧
    ¬ Shows "a\né!".toList ⟨3, 5⟩ ∧
      (mk "E" "m" ⟨3, 5⟩ none).render "a\né!" = (mk "E" "m" ⟨3, 5⟩ none).headline ++ [] := by
  have isShown : Shows "a\né!".toList ⟨2, 3⟩ := by decide +kernel
  have notShown : ¬ Shows "a\né!".toList ⟨3, 5⟩ := by decide +kernel
  exact ⟨⟨isShown, (layout_of_render _ _).2.1 isShown⟩,
    notShown, (layout_of_render _ _).2.2 notShown⟩

example : ((mk "E" "m" ⟨2, 3⟩ none).render "a\né!").write false =
    "[E] m\n   2 | é!\n     | ^" := by decide +kernel

end Diagnostic

end MiniBasic
