import MiniBasic.Proofs.Lexical.Scan

/-!
# Every byte of a source is accounted for

The spans of the tokens and of the errors, taken together by where they start, stand one after the
other in the source, and between two of them lies nothing but what is passed over (`lex_accounts`).

A scan keeps tokens and errors apart, so the two lists are merged first.  The merged spans follow
the pieces one by one: a gap adds nothing, and any other piece adds its own span in front
(`spansFrom_gap`, `spansFrom_mark`).  What lies between two spans is then collected piece by piece.
The invariant of that walk is that what was passed over since the last span is a stretch in front of
the pieces still to come (`stretch_of_mem_uncovered`).
-/

namespace MiniBasic.Lexical

open Text (Span Parts byteLength slice? uncovered)

/-! ## Stretches -/

/-- Is a text made of texts that are passed over, each in front of all that comes after it? -/
inductive Stretch (rest : List Char) : List Char → Prop where
  | nil : Stretch rest []
  | cons {text more : List Char} : Passed (more ++ rest) text → Stretch rest more →
      Stretch rest (text ++ more)

/-- A stretch goes on with what is passed over after it. -/
theorem Stretch.concat {filler text rest : List Char} (stretch : Stretch (text ++ rest) filler)
    (passed : Passed rest text) : Stretch rest (filler ++ text) := by
  induction stretch with
  | nil =>
    rw [List.nil_append, ← List.append_nil text]
    exact .cons passed .nil
  | cons first _ ih =>
    rw [List.append_assoc]
    refine .cons ?_ ih
    rw [List.append_assoc]
    exact first

/-! ## The order of spans -/

variable {place : Place} {ps : List Piece} {placed : Placed} {span : Span}

theorem le_start_of_mem_placePieces (isPlaced : placed ∈ placePieces place ps) :
    place.offset ≤ placed.span.start := by
  obtain ⟨before, piece, after, -, rfl⟩ := mem_placePieces_iff.mp isPlaced
  show place.offset ≤ (place.afterAll before).offset
  rw [Place.offset_afterAll]
  exact Nat.le_add_right _ _

theorem pairwise_placePieces (place : Place) (ps : List Piece) :
    (placePieces place ps).Pairwise fun a b => a.span.stop ≤ b.span.start := by
  induction ps generalizing place with
  | nil => exact .nil
  | cons piece rest ih => exact .cons (fun _ => le_start_of_mem_placePieces) (ih _)

/-- The span of an error is that of its piece. -/
theorem span_of_error? {error : LexicalError} (isPlaced : placed ∈ placePieces place ps)
    (isError : placed.error? = some error) : placed.span = error.span := by
  obtain ⟨before, piece, after, -, rfl⟩ := mem_placePieces_iff.mp isPlaced
  exact (piece_of_error? isError).2.1

section Picked

-- What is picked from the pieces, tokens or errors, and where each of it stands.
variable {α : Type} {pick : Placed → Option α} {spanOf : α → Span}
  (keeps : ∀ placed ∈ placePieces place ps, ∀ a, pick placed = some a → placed.span = spanOf a)

include keeps

theorem le_start_of_mem_picked {a : α} (isIn : a ∈ (placePieces place ps).filterMap pick) :
    place.offset ≤ (spanOf a).start := by
  obtain ⟨placed, isPlaced, isPicked⟩ := List.mem_filterMap.mp isIn
  rw [← keeps placed isPlaced a isPicked]
  exact le_start_of_mem_placePieces isPlaced

theorem pairwise_picked :
    ((placePieces place ps).filterMap pick).Pairwise fun a b =>
      (spanOf a).stop ≤ (spanOf b).start := by
  refine List.pairwise_filterMap.mpr ((pairwise_placePieces place ps).imp_of_mem ?_)
  intro first second isIn isIn' before a isFirst b isSecond
  rw [← keeps first isIn a isFirst, ← keeps second isIn' b isSecond]
  exact before

end Picked

theorem le_start_of_mem_tokens {located : Token.Located}
    (isToken : located ∈ (scanFrom place ps).tokens) : place.offset ≤ located.span.start :=
  le_start_of_mem_picked (fun _ _ _ isToken => (piece_of_token? isToken).2.1) isToken

theorem le_start_of_mem_errors {error : LexicalError}
    (isError : error ∈ (scanFrom place ps).errors) : place.offset ≤ error.span.start :=
  le_start_of_mem_picked (fun _ isPlaced _ => span_of_error? isPlaced) isError

theorem pairwise_tokens (place : Place) (ps : List Piece) :
    (scanFrom place ps).tokens.Pairwise fun a b => a.span.stop ≤ b.span.start :=
  pairwise_picked fun _ _ _ isToken => (piece_of_token? isToken).2.1

theorem pairwise_errors (place : Place) (ps : List Piece) :
    (scanFrom place ps).errors.Pairwise fun a b => a.span.stop ≤ b.span.start :=
  pairwise_picked fun _ isPlaced _ => span_of_error? isPlaced

/-! ## Merged spans -/

theorem merge_cons_left {α : Type} {le : α → α → Bool} {a : α} {as bs : List α}
    (first : ∀ b ∈ bs, le a b = true) : List.merge (a :: as) bs le = a :: List.merge as bs le := by
  cases bs with
  | nil => rw [List.merge_right, List.merge_right]
  | cons b bs => exact List.cons_merge_cons_pos _ _ _ (first b (List.mem_cons_self ..))

theorem merge_cons_right {α : Type} {le : α → α → Bool} {b : α} {as bs : List α}
    (first : ∀ a ∈ as, le a b = false) :
    List.merge as (b :: bs) le = b :: List.merge as bs le := by
  cases as with
  | nil => rw [List.nil_merge, List.nil_merge]
  | cons a as =>
    refine List.cons_merge_cons_neg _ _ _ ?_
    rw [first a (List.mem_cons_self ..)]
    exact Bool.false_ne_true

/-- The spans of the tokens and errors among some pieces, from a place on. -/
def spansFrom (place : Place) (ps : List Piece) : List Span :=
  (scanFrom place ps).spans

theorem le_start_of_mem_spansFrom (isSpan : span ∈ spansFrom place ps) :
    place.offset ≤ span.start := by
  rcases List.mem_merge.mp isSpan with ofToken | ofError
  · obtain ⟨located, isToken, rfl⟩ := List.mem_map.mp ofToken
    exact le_start_of_mem_tokens isToken
  · obtain ⟨error, isError, rfl⟩ := List.mem_map.mp ofError
    exact le_start_of_mem_errors isError

theorem spansFrom_nil : spansFrom place [] = [] := List.nil_merge _

theorem spansFrom_gap (text : List Char) :
    spansFrom place (.gap text :: ps) = spansFrom (place.after (.gap text)) ps := rfl

theorem errors_after {piece : Piece} (isSpan : span ∈
    (scanFrom (place.after piece) ps).errors.map (·.span)) :
    decide (place.offset ≤ span.start) = true := by
  obtain ⟨error, isError, rfl⟩ := List.mem_map.mp isSpan
  have later : place.offset + byteLength piece.text ≤ error.span.start :=
    le_start_of_mem_errors isError
  exact decide_eq_true (Nat.le_trans (Nat.le_add_right _ _) later)

theorem tokens_after {piece : Piece} (some_text : piece.text ≠ []) (isSpan : span ∈
    (scanFrom (place.after piece) ps).tokens.map (·.span)) :
    decide (span.start ≤ place.offset) = false := by
  obtain ⟨located, isToken, rfl⟩ := List.mem_map.mp isSpan
  have later : place.offset + byteLength piece.text ≤ located.span.start :=
    le_start_of_mem_tokens isToken
  have holds := Text.byteLength_pos some_text
  exact decide_eq_false (by omega)

/-- The span of a piece that is no gap goes before all spans of the pieces after it. -/
theorem spansFrom_mark {piece : Piece} (isMark : ∀ text, piece ≠ .gap text)
    (some_text : piece.text ≠ []) : spansFrom place (piece :: ps) =
      ⟨place.offset, place.offset + byteLength piece.text⟩ ::
        spansFrom (place.after piece) ps := by
  cases piece with
  | gap text => exact absurd rfl (isMark text)
  | token text token => exact merge_cons_left fun _ => errors_after
  | oversized digits => exact merge_cons_right fun _ => tokens_after some_text
  | illegal ch => exact merge_cons_right fun _ => tokens_after some_text

theorem pairwise_spansFrom (allFirst : AllFirst ps) (place : Place) :
    (spansFrom place ps).Pairwise fun a b => a.stop ≤ b.start := by
  induction ps generalizing place with
  | nil =>
    rw [spansFrom_nil]
    exact .nil
  | cons piece rest ih =>
    obtain ⟨isFirst, others⟩ := allFirst
    by_cases isMark : ∀ text, piece ≠ .gap text
    · rw [spansFrom_mark isMark (Piece.text_ne_nil_of_isFirst isFirst)]
      exact .cons (fun _ => le_start_of_mem_spansFrom) (ih others _)
    · obtain ⟨text, isGap⟩ := Classical.not_forall_not.mp isMark
      rw [isGap, spansFrom_gap]
      exact ih others _

/-! ## Between two spans -/

/-- Between the spans of some pieces, and before and after them, there are stretches.  The text
`filler` was passed over before the first of the pieces, and the last span before it ends with
`before`. -/
theorem stretch_of_mem_uncovered {source : List Char} {gap : Span} (allFirst : AllFirst ps)
    (place : Place) (before filler : List Char)
    (whole : before ++ (filler ++ ps.flatMap Piece.text) = source)
    (stretch : Stretch (ps.flatMap Piece.text) filler)
    (isPlace : place.offset = byteLength before + byteLength filler)
    (isGap : gap ∈ uncovered (byteLength before) (spansFrom place ps) (byteLength source)) :
    ∃ before text after, Parts source gap before text after ∧ Stretch after text := by
  induction ps generalizing place before filler with
  | nil =>
    rw [spansFrom_nil] at isGap
    obtain rfl := List.mem_singleton.mp isGap
    refine ⟨before, filler, [], ⟨whole, rfl, ?_⟩, stretch⟩
    rw [← whole]
    simp
  | cons piece rest ih =>
    obtain ⟨isFirst, others⟩ := allFirst
    rw [List.flatMap_cons] at whole stretch
    by_cases isMark : ∀ text, piece ≠ .gap text
    · rw [spansFrom_mark isMark (Piece.text_ne_nil_of_isFirst isFirst)] at isGap
      rcases List.mem_cons.mp isGap with rfl | isLater
      · exact ⟨before, filler, _, ⟨whole, rfl, isPlace.symm⟩, stretch⟩
      · refine ih others (place.after piece) (before ++ (filler ++ piece.text)) []
          ?_ .nil ?_ ?_
        · rw [← whole]
          simp
        · simp [Place.after, isPlace, Nat.add_assoc]
        · simpa [isPlace, Nat.add_assoc] using isLater
    · obtain ⟨text, rfl⟩ := Classical.not_forall_not.mp isMark
      rw [spansFrom_gap] at isGap
      refine ih others _ before (filler ++ text) ?_ (stretch.concat isFirst) ?_ isGap
      · rw [← whole]
        simp [Piece.text]
      · simp [Place.after, isPlace, Piece.text, Nat.add_assoc]

/-! ## The whole source -/

theorem exists_parts_of_mem_spans {source : String} (isSpan : span ∈ (lex source).spans) :
    span.start < span.stop ∧ ∃ before text after, Parts source.toList span before text after := by
  have holds : ∀ {before text after}, Parts source.toList span before text after → text ≠ [] →
      span.start < span.stop := by
    intro before text after parts some_text
    have positive := Text.byteLength_pos some_text
    have start := parts.start
    have stop := parts.stop
    omega
  rcases List.mem_merge.mp isSpan with ofToken | ofError
  · obtain ⟨located, isToken, rfl⟩ := List.mem_map.mp ofToken
    obtain ⟨before, text, after, parts, isFirst⟩ := exists_parts_of_mem_tokens isToken
    exact ⟨holds parts (Piece.text_ne_nil_of_isFirst isFirst), before, text, after, parts⟩
  · obtain ⟨error, isError, rfl⟩ := List.mem_map.mp ofError
    obtain ⟨before, after, parts, isFirst⟩ := exists_parts_of_mem_errors isError
    have some_text : error.text ≠ [] := by
      rw [← error.text_piece]
      exact Piece.text_ne_nil_of_isFirst isFirst
    exact ⟨holds parts some_text, before, error.text, after, parts⟩

/-- The spans of a scan hold a character each, lie in the source on boundaries of characters, and
come one after the other; and so do those of the tokens and those of the errors.  What they leave
uncovered is stretches of blanks, ends of lines and whole comments.  Under the span of an error lies
the text that it reports. -/
theorem lex_accounts (source : String) :
    (∀ span ∈ (lex source).spans, span.start < span.stop ∧
      span.stop ≤ byteLength source.toList ∧ ∃ text, slice? source.toList span = some text) ∧
    (lex source).spans.Pairwise (fun a b => a.stop ≤ b.start) ∧
    (lex source).tokens.Pairwise (fun a b => a.span.stop ≤ b.span.start) ∧
    (lex source).errors.Pairwise (fun a b => a.span.stop ≤ b.span.start) ∧
    (∀ gap ∈ uncovered 0 (lex source).spans (byteLength source.toList),
      ∃ before text after, Parts source.toList gap before text after ∧ Stretch after text) ∧
    ∀ error ∈ (lex source).errors, slice? source.toList error.span = some error.text := by
  have allFirst := allFirst_pieces source.toList
  refine ⟨?_, pairwise_spansFrom allFirst _, pairwise_tokens _ _, pairwise_errors _ _, ?_, ?_⟩
  · intro span isSpan
    obtain ⟨holds, before, text, after, parts⟩ := exists_parts_of_mem_spans isSpan
    refine ⟨holds, ?_, text, Text.slice?_eq_some_iff.mpr ⟨before, after, parts⟩⟩
    rw [← parts.joined, ← parts.stop]
    simp
  · intro gap isGap
    have whole := flatMap_text_pieces source.toList
    exact stretch_of_mem_uncovered allFirst .start [] [] whole .nil rfl isGap
  · intro error isError
    obtain ⟨before, after, parts, -⟩ := exists_parts_of_mem_errors isError
    exact Text.slice?_eq_some_iff.mpr ⟨before, after, parts⟩

/-- After `x` an empty comment and the end of its line are left uncovered, and the last two bytes
are those of `é`. -/
theorem lex_accounts_mixed :
    (⟨1, 3⟩ ∈ uncovered 0 (lex "x#\n9223372036854775808é").spans 24 ∧
      ∃ before text after, Parts "x#\n9223372036854775808é".toList ⟨1, 3⟩ before text after ∧
        Stretch after text) ∧
    .illegalCharacter 'é' 22 2 ∈ (lex "x#\n9223372036854775808é").errors ∧
      slice? "x#\n9223372036854775808é".toList ⟨22, 24⟩ = some ['é'] := by
  have isScan : lex "x#\n9223372036854775808é" = ⟨[⟨.name "x", ⟨0, 1⟩, 1⟩],
      [.numberTooLarge "9223372036854775808" ⟨3, 22⟩ 2, .illegalCharacter 'é' 22 2]⟩ := by
    decide +kernel
  have isGap : ⟨1, 3⟩ ∈ uncovered 0 (lex "x#\n9223372036854775808é").spans 24 := by
    rw [isScan]
    simp [Scan.spans, LexicalError.span, uncovered]
  have isError : .illegalCharacter 'é' 22 2 ∈ (lex "x#\n9223372036854775808é").errors := by
    rw [isScan]
    decide
  obtain ⟨-, -, -, -, stretches, slices⟩ := lex_accounts "x#\n9223372036854775808é"
  exact ⟨⟨isGap, stretches _ isGap⟩, isError, slices _ isError⟩

end MiniBasic.Lexical
