import MiniBasic.Diagnostic
import MiniBasic.Proofs.Lexical.Piece

/-!
# The line around a span

A span that holds no end of line stands on one line of its text.  The text has then five parts: what
is above the line, the line before the span, under it and behind it, and what is below the line
(`Text.LineParts`).  There are always such parts (`exists_lineParts`), and the excerpt for the span
is put together from them (`of?_of_lineParts`).
-/

namespace MiniBasic

namespace Text

/-- A text in five parts around a span on one of its lines. -/
structure LineParts (text : List Char) (span : Span)
    (above before inside behind below : List Char) : Prop where
  parts : Parts text span (above ++ before) inside (behind ++ below)
  /-- The line is the first, or another one ends above it. -/
  top : ∀ d ∈ above.getLast?, d = '\n'
  oneLine : '\n' ∉ before ++ (inside ++ behind)
  /-- The line is the last, or it ends. -/
  bottom : ∀ d ∈ below.head?, d = '\n'

namespace LineParts

variable {text above before inside behind below : List Char} {span : Span}
  (lineParts : LineParts text span above before inside behind below)

include lineParts

theorem notMem_before : '\n' ∉ before :=
  fun isIn => lineParts.oneLine (List.mem_append_left _ isIn)

theorem notMem_behind : '\n' ∉ behind :=
  fun isIn => lineParts.oneLine (List.mem_append_right _ (List.mem_append_right _ isIn))

/-- The empty span at the start of a span is on the same line. -/
theorem atStart :
    LineParts text ⟨span.start, span.start⟩ above before [] (inside ++ behind) below where
  parts := by
    refine ⟨?_, lineParts.parts.start, lineParts.parts.start⟩
    rw [List.nil_append, List.append_assoc inside]
    exact lineParts.parts.joined
  top := lineParts.top
  oneLine := lineParts.oneLine
  bottom := lineParts.bottom

omit lineParts in
theorem cut?_eq {offset : Nat}
    (lineParts : LineParts text ⟨offset, offset⟩ above before [] behind below) :
    cut? text offset = some (above ++ before, behind ++ below) :=
  cut?_eq_some_iff.mpr ⟨lineParts.parts.joined, lineParts.parts.start⟩

end LineParts

theorem forall_inLine_of_notMem {line : List Char} (noFeed : '\n' ∉ line) :
    ∀ d ∈ line, inLine d = true := by
  intro d isIn
  refine bne_iff_ne.mpr ?_
  intro feed
  exact noFeed (feed ▸ isIn)

theorem notMem_takeWhile_inLine (text : List Char) : '\n' ∉ text.takeWhile inLine := by
  intro isIn
  exact absurd (Lexical.forall_mem_takeWhile inLine text _ isIn) (by decide)

theorem eq_feed_of_head?_dropWhile (text : List Char) :
    ∀ d ∈ (text.dropWhile inLine).head?, d = '\n' := by
  intro d isNext
  simpa [inLine] using Lexical.stop_dropWhile inLine text d isNext

/-- A text is what is above its last line, and this line. -/
theorem exists_lastLine (text : List Char) : ∃ above last, above ++ last = text ∧
    (∀ d ∈ above.getLast?, d = '\n') ∧ '\n' ∉ last := by
  refine ⟨(text.reverse.dropWhile inLine).reverse, (text.reverse.takeWhile inLine).reverse,
    ?_, ?_, ?_⟩
  · rw [← List.reverse_append, List.takeWhile_append_dropWhile, List.reverse_reverse]
  · rw [List.getLast?_reverse]
    exact eq_feed_of_head?_dropWhile _
  · rw [List.mem_reverse]
    exact notMem_takeWhile_inLine _

/-- A span that holds no end of line is on one line. -/
theorem exists_lineParts {text front inside back : List Char} {span : Span}
    (parts : Parts text span front inside back) (oneLine : '\n' ∉ inside) :
    ∃ above before behind below, front = above ++ before ∧
      LineParts text span above before inside behind below := by
  obtain ⟨above, before, rfl, top, noFeed⟩ := exists_lastLine front
  refine ⟨above, before, back.takeWhile inLine, back.dropWhile inLine, rfl, ?_, top, ?_, ?_⟩
  · rw [List.takeWhile_append_dropWhile]
    exact parts
  · simp [noFeed, oneLine, notMem_takeWhile_inLine]
  · exact eq_feed_of_head?_dropWhile back

end Text

open Text (Span LineParts)

variable {text above before inside behind below : List Char} {span : Span}

/-! ## Excerpts -/

/-- Read backwards, a text starts with its last line. -/
theorem takeWhile_lastLine (top : ∀ d ∈ above.getLast?, d = '\n') (noFeed : '\n' ∉ before) :
    (before.reverse ++ above.reverse).takeWhile inLine = before.reverse := by
  have run : ∀ d ∈ before.reverse, inLine d = true := by
    refine Text.forall_inLine_of_notMem ?_
    rw [List.mem_reverse]
    exact noFeed
  have stop : ∀ d ∈ above.reverse.head?, inLine d = false := by
    intro d isNext
    rw [List.head?_reverse] at isNext
    rw [top d isNext]
    rfl
  exact (Lexical.takeWhile_append_of_stop run stop).1

/-- The excerpt for a span that ends within the text shows the line around its start. -/
theorem Excerpt.of?_of_start
    (lineParts : LineParts text ⟨span.start, span.start⟩ above before [] behind below)
    (within : span.stop ≤ Text.byteLength text) :
    of? text span = some ⟨1 + (above ++ before).count '\n', before ++ behind, before.length,
      caretWidth (behind ++ below) (span.stop - span.start)⟩ := by
  have stop : ∀ d ∈ below.head?, inLine d = false := by
    intro d isNext
    rw [lineParts.bottom d isNext]
    rfl
  have line := (Lexical.takeWhile_append_of_stop
    (Text.forall_inLine_of_notMem lineParts.notMem_behind) stop).1
  rw [of?, if_neg (Nat.not_lt.mpr within), lineParts.cut?_eq]
  simp [takeWhile_lastLine lineParts.top lineParts.notMem_before, line]

theorem caretWidth_append (inside back : List Char) :
    caretWidth (inside ++ back) (Text.byteLength inside) = max 1 inside.length := by
  rw [caretWidth, Text.cut?_eq_some_iff.mpr ⟨rfl, rfl⟩]

/-- The excerpt for a span on one line shows this line, and as many carets as the span has
characters, but at least one. -/
theorem Excerpt.of?_of_lineParts
    (lineParts : LineParts text span above before inside behind below) :
    Excerpt.of? text span = some ⟨1 + above.count '\n', before ++ (inside ++ behind),
      before.length, max 1 inside.length⟩ := by
  rw [of?_of_start lineParts.atStart lineParts.parts.stop_le,
    ← lineParts.parts.byteLength_inside, List.append_assoc,
    caretWidth_append, List.count_append, List.count_eq_zero_of_not_mem lineParts.notMem_before,
    Nat.add_zero]

/-- An excerpt without styles: the number and the line, and below them blanks and carets. -/
theorem Excerpt.write_render (excerpt : Excerpt) :
    excerpt.render.write false =
      "\n" ++ rightAligned 4 excerpt.line ++ " | " ++ String.ofList excerpt.text ++
      "\n     | " ++ "".pushn ' ' excerpt.column ++ "".pushn '^' excerpt.width := by
  simp [Excerpt.render, Text.Styled.write_false, Text.Styled.plain, Text.Styled.weighted,
    Text.Styled.bold, String.append_assoc]

end MiniBasic
