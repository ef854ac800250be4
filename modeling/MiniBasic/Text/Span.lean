/-!
# Offsets into a text

A text is a list of characters, and a place in it is an offset in bytes of its UTF-8 form.  An
offset may fall outside the text or inside a character, so cutting a text at an offset is partial:
`cut?` answers exactly where a character begins or the text ends (`cut?_eq_some_iff`).
-/

namespace MiniBasic.Text

/-- A stretch of a text, from the byte offset `start` up to and without `stop`.  Nothing forbids an
offset outside the text, or an end before the start. -/
structure Span where
  /-- Offset of the first byte. -/
  start : Nat
  /-- Offset just past the last byte. -/
  stop : Nat
deriving DecidableEq

/-- Does a byte lie under a span? -/
def Span.covers (span : Span) (offset : Nat) : Bool := span.start ≤ offset && offset < span.stop

/-- The length of a text in bytes. -/
def byteLength : List Char → Nat
  | [] => 0
  | c :: cs => c.utf8Size + byteLength cs

@[simp] theorem byteLength_nil : byteLength [] = 0 := rfl

@[simp] theorem byteLength_cons (c : Char) (cs : List Char) :
    byteLength (c :: cs) = c.utf8Size + byteLength cs := rfl

@[simp] theorem byteLength_append (as bs : List Char) :
    byteLength (as ++ bs) = byteLength as + byteLength bs := by
  induction as with
  | nil => simp
  | cons a as ih => simp [ih, Nat.add_assoc]

theorem byteLength_pos {cs : List Char} (some_text : cs ≠ []) : 0 < byteLength cs := by
  obtain ⟨c, rest, rfl⟩ := List.exists_cons_of_ne_nil some_text
  exact Nat.add_pos_left c.utf8Size_pos _

/-- The two parts of a text before and after a byte offset, or nothing when the offset cuts a
character or lies past the end. -/
def cut? : List Char → Nat → Option (List Char × List Char)
  | cs, 0 => some ([], cs)
  | [], _ + 1 => none
  | c :: cs, n + 1 =>
    if c.utf8Size ≤ n + 1 then
      (cut? cs (n + 1 - c.utf8Size)).map fun (before, after) => (c :: before, after)
    else none

/-- A text is cut into two parts exactly when they join to it and the first has the given length. -/
theorem cut?_eq_some_iff {cs : List Char} {n : Nat} {before after : List Char} :
    cut? cs n = some (before, after) ↔ before ++ after = cs ∧ byteLength before = n := by
  fun_induction cut? cs n generalizing before with
  | case1 cs =>
    constructor
    · rintro ⟨⟩
      exact ⟨rfl, rfl⟩
    · rintro ⟨rfl, h⟩
      cases before with
      | nil => rfl
      | cons c before =>
        have := c.utf8Size_pos
        simp only [byteLength_cons] at h
        omega
  | case2 n =>
    constructor
    · rintro ⟨⟩
    · rintro ⟨h, hn⟩
      simp_all
  | case3 c cs n fits ih =>
    cases before with
    | nil => simp
    | cons d before =>
      simp only [Option.map_eq_some_iff, Prod.mk.injEq, List.cons.injEq, Prod.exists,
        List.cons_append, byteLength_cons]
      constructor
      · rintro ⟨b, a, h, ⟨rfl, rfl⟩, rfl⟩
        obtain ⟨rfl, len⟩ := ih.1 h
        exact ⟨⟨rfl, rfl⟩, by omega⟩
      · rintro ⟨⟨rfl, rfl⟩, len⟩
        exact ⟨before, after, ih.2 ⟨rfl, by omega⟩, ⟨rfl, rfl⟩, rfl⟩
  | case4 c cs n long =>
    constructor
    · rintro ⟨⟩
    · rintro ⟨h, len⟩
      cases before with
      | nil => simp at len
      | cons d before =>
        simp only [List.cons_append, List.cons.injEq] at h
        obtain ⟨rfl, _⟩ := h
        simp only [byteLength_cons] at len
        omega

/-- The text under a span, where both ends are on boundaries and in order. -/
def slice? (cs : List Char) (span : Span) : Option (List Char) := do
  if span.stop < span.start then none
  let (_, after) ← cut? cs span.start
  let (inside, _) ← cut? after (span.stop - span.start)
  return inside

/-- What ordered spans leave of the stretch between two offsets: the stretches before, between and
after them, empty ones included. -/
def uncovered (start : Nat) : List Span → Nat → List Span
  | [], stop => [⟨start, stop⟩]
  | span :: spans, stop => ⟨start, span.start⟩ :: uncovered span.stop spans stop

/-- A text in three parts: before a span, under it, and after it. -/
structure Parts (text : List Char) (span : Span) (before inside after : List Char) : Prop where
  joined : before ++ (inside ++ after) = text
  start : byteLength before = span.start
  stop : byteLength before + byteLength inside = span.stop

/-- A span that parts a text ends within it. -/
theorem Parts.stop_le {text before inside after : List Char} {span : Span}
    (parts : Parts text span before inside after) : span.stop ≤ byteLength text := by
  have length := congrArg byteLength parts.joined
  simp only [byteLength_append] at length
  have stop := parts.stop
  omega

theorem Parts.byteLength_inside {text before inside after : List Char} {span : Span}
    (parts : Parts text span before inside after) :
    byteLength inside = span.stop - span.start := by
  have start := parts.start
  have stop := parts.stop
  omega

theorem Parts.inside_ne_nil {text before inside after : List Char} {span : Span}
    (parts : Parts text span before inside after) (holds : span.start < span.stop) :
    inside ≠ [] := by
  rintro rfl
  exact absurd (parts.start.symm.trans parts.stop) (Nat.ne_of_lt holds)

/-- A text has only one rest after an offset. -/
theorem Parts.ahead_unique {text before inside after before' inside' after' : List Char}
    {span span' : Span} (first : Parts text span before inside after)
    (second : Parts text span' before' inside' after') (same : span.start = span'.start) :
    inside ++ after = inside' ++ after' := by
  have isCut := cut?_eq_some_iff.mpr ⟨first.joined, first.start⟩
  rw [same, cut?_eq_some_iff.mpr ⟨second.joined, second.start⟩] at isCut
  exact (Prod.mk.inj (Option.some.inj isCut)).2.symm

/-- A text has only one beginning up to an offset. -/
theorem Parts.before_unique {text before inside after before' inside' after' : List Char}
    {span span' : Span} (first : Parts text span before inside after)
    (second : Parts text span' before' inside' after') (same : span.start = span'.start) :
    before = before' := by
  have isCut := cut?_eq_some_iff.mpr ⟨first.joined, first.start⟩
  rw [same, cut?_eq_some_iff.mpr ⟨second.joined, second.start⟩] at isCut
  exact (Prod.mk.inj (Option.some.inj isCut)).1.symm

/-- A span parts a text in only one way. -/
theorem Parts.unique {text before inside after before' inside' after' : List Char} {span : Span}
    (first : Parts text span before inside after)
    (second : Parts text span before' inside' after') : inside = inside' ∧ after = after' := by
  have length : byteLength inside = byteLength inside' := by
    have start := first.start.trans second.start.symm
    have stop := first.stop.trans second.stop.symm
    omega
  have isCut := cut?_eq_some_iff.mpr ⟨first.ahead_unique second rfl, length⟩
  rw [cut?_eq_some_iff.mpr ⟨rfl, rfl⟩] at isCut
  obtain ⟨rfl, rfl⟩ := Prod.mk.inj (Option.some.inj isCut)
  exact ⟨rfl, rfl⟩

/-- What lies under a span is the middle one of three parts. -/
theorem slice?_eq_some_iff {cs : List Char} {span : Span} {inside : List Char} :
    slice? cs span = some inside ↔ ∃ before after, Parts cs span before inside after := by
  have unfolded : slice? cs span = some inside ↔ ¬ span.stop < span.start ∧
      ∃ before ahead, cut? cs span.start = some (before, ahead) ∧
        ∃ after, cut? ahead (span.stop - span.start) = some (inside, after) := by
    simp [slice?, Option.bind_eq_some_iff]
  rw [unfolded]
  constructor
  · rintro ⟨ordered, before, ahead, first, after, second⟩
    obtain ⟨joined, start⟩ := cut?_eq_some_iff.mp first
    obtain ⟨rfl, length⟩ := cut?_eq_some_iff.mp second
    exact ⟨before, after, joined, start, by omega⟩
  · rintro ⟨before, after, joined, start, stop⟩
    refine ⟨by omega, before, inside ++ after, cut?_eq_some_iff.mpr ⟨joined, start⟩, after, ?_⟩
    exact cut?_eq_some_iff.mpr ⟨rfl, by omega⟩

example : slice? ['a', 'é', 'b'] ⟨1, 3⟩ = some ['é'] := by decide
example : slice? ['a', 'é', 'b'] ⟨2, 3⟩ = none := by decide
example : slice? ['a', 'é', 'b'] ⟨4, 4⟩ = some [] := by decide
example : uncovered 0 [⟨1, 2⟩, ⟨2, 4⟩] 7 = [⟨0, 1⟩, ⟨2, 2⟩, ⟨4, 7⟩] := by decide

end MiniBasic.Text
