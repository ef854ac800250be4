import MiniBasic.Diagnostic

/-!
# Diagnostics by slices

An excerpt may also be cut out of its source by byte offsets: the text in front of the span, the
text from its start on, the line between the line feeds around it, and the front of this line.
Such a slice exists only if its ends are in order, within the source and on boundaries of
characters.  What is put together from slices is nothing where one of them does not exist
(`Excerpt.bySlices?`, `Diagnostic.renderBySlices?`).

Only the number of carets asks for a slice that may be missing, and takes one caret then.
-/

namespace MiniBasic

open Text (Span Styled)

/-! ## Boundaries -/

/-- Does a character begin at an offset, or the text end there? -/
def Text.OnBoundary (text : List Char) (offset : Nat) : Prop :=
  ∃ before after, before ++ after = text ∧ byteLength before = offset

theorem Text.isSome_cut?_iff {text : List Char} {offset : Nat} :
    (cut? text offset).isSome ↔ OnBoundary text offset := by
  simp only [Option.isSome_iff_exists, Prod.exists, cut?_eq_some_iff, OnBoundary]

instance (text : List Char) (offset : Nat) : Decidable (Text.OnBoundary text offset) :=
  decidable_of_iff _ Text.isSome_cut?_iff

/-! ## Line feeds by offset -/

/-- The offset of the first line feed of a text. -/
def Text.firstFeed? : List Char → Option Nat
  | [] => none
  | c :: cs => if c = '\n' then some 0 else (firstFeed? cs).map (c.utf8Size + ·)

/-- The offset of the last line feed of a text. -/
def Text.lastFeed? : List Char → Option Nat
  | [] => none
  | c :: cs =>
    match lastFeed? cs with
    | some offset => some (c.utf8Size + offset)
    | none => if c = '\n' then some 0 else none

/-! ## Excerpts and diagnostics -/

/-- Does a span have a line to show?  Its ends are not outside the text, and it starts on a boundary
of characters. -/
def Text.Shows (text : List Char) (span : Span) : Prop :=
  span.start ≤ byteLength text ∧ span.stop ≤ byteLength text ∧ OnBoundary text span.start

instance (text : List Char) (span : Span) : Decidable (Text.Shows text span) :=
  inferInstanceAs (Decidable (_ ∧ _ ∧ _))

/-- The excerpt for a span, if it has one, put together from slices of the text. -/
def Excerpt.bySlices? (text : List Char) (span : Span) : Option (Option Excerpt) :=
  if Text.Shows text span then do
    let before ← Text.slice? text ⟨0, span.start⟩
    let lineStart := ((Text.lastFeed? before).map (· + 1)).getD 0
    let after ← Text.slice? text ⟨span.start, Text.byteLength text⟩
    let lineEnd := ((Text.firstFeed? after).map (span.start + ·)).getD (Text.byteLength text)
    let above ← Text.slice? text ⟨0, span.start⟩
    let head ← Text.slice? text ⟨lineStart, span.start⟩
    let marked? := Text.slice? text ⟨span.start, max span.stop span.start⟩
    let line ← Text.slice? text ⟨lineStart, lineEnd⟩
    return some
      { line := above.count '\n' + 1
        text := line
        column := head.length
        width := (marked?.map fun marked => max marked.length 1).getD 1 }
  else return none

/-- The diagnostic as it is shown for a source, put together from slices of the source. -/
def Diagnostic.renderBySlices? (diagnostic : Diagnostic) (source : String) : Option Styled := do
  let excerpt? ← Excerpt.bySlices? source.toList diagnostic.span
  return diagnostic.headline ++ (excerpt?.map Excerpt.render).getD [] ++
    (diagnostic.suggestion.map advice).getD []

example : Text.firstFeed? ['é', '\n', '\n'] = some 2 := by decide
example : Text.lastFeed? ['é', '\n', '\n', 'é'] = some 3 := by decide
example : Excerpt.bySlices? ['a', '\n', 'é', 'b'] ⟨2, 4⟩ = some (some ⟨2, ['é', 'b'], 0, 1⟩) := by
  decide

end MiniBasic
