import MiniBasic.Proofs.Lexical.Coverage
import MiniBasic.Reading

/-!
# Errors act like blanks

A source reads as before when every byte under the span of an error is made a blank, and then it
reads without errors (`lex_blanked`).

The pieces of the new source are those of the old one, with a gap for each byte of a wrong piece
(`Piece.inBlanks`).  That these come first where they stand follows from one character of lookahead:
the first character after a piece either stays as it was, or becomes a blank where no line ended
(`head?_flatMap_blanked`), and neither lets a word or a sign go on, nor cuts a comment short
(`Piece.IsFirst.of_head?`).  A string is closed on what comes before its second quote, and there
nothing is wrong.

The blanks are described by the pieces, and the theorem says the same of the bytes: it compares the
UTF-8 forms of both sources byte by byte.
-/

namespace MiniBasic.Lexical

open Text (Span byteLength)

variable {place : Place} {ps : List Piece} {piece : Piece} {rest rest' : List Char}

/-! ## Pieces with blanks -/

/-- A piece, or a gap for each byte of it if it is wrong. -/
def Piece.inBlanks (piece : Piece) : List Piece :=
  if piece.isWrong then List.replicate (byteLength piece.text) (.gap [' ']) else [piece]

theorem flatMap_text_replicate_gap (n : Nat) :
    (List.replicate n (Piece.gap [' '])).flatMap Piece.text = List.replicate n ' ' := by
  induction n with
  | zero => rfl
  | succ n ih =>
    rw [List.replicate_succ, List.flatMap_cons, ih, List.replicate_succ]
    rfl

theorem Piece.flatMap_text_inBlanks (piece : Piece) :
    piece.inBlanks.flatMap Piece.text = piece.blanked := by
  unfold inBlanks blanked
  split
  · exact flatMap_text_replicate_gap _
  · exact List.append_nil _

theorem flatMap_text_flatMap_inBlanks (ps : List Piece) :
    (ps.flatMap Piece.inBlanks).flatMap Piece.text = ps.flatMap Piece.blanked := by
  rw [List.flatMap_assoc]
  simp only [Piece.flatMap_text_inBlanks]

/-! ## What comes first in front of blanks -/

/-- The first character stays as it is, or becomes a blank and was not the end of a line. -/
theorem head?_flatMap_blanked (allFirst : AllFirst ps) :
    (ps.flatMap Piece.blanked).head? = (ps.flatMap Piece.text).head? ∨
      (ps.flatMap Piece.blanked).head? = some ' ' ∧
        ∃ d ∈ (ps.flatMap Piece.text).head?, d ≠ '\n' := by
  cases ps with
  | nil => exact Or.inl rfl
  | cons piece rest =>
    obtain ⟨c, cs, isText⟩ :=
      List.exists_cons_of_ne_nil (Piece.text_ne_nil_of_isFirst allFirst.1)
    rw [List.flatMap_cons, List.flatMap_cons, Piece.blanked]
    split
    next wrong =>
      refine Or.inr ⟨?_, c, ?_, ?_⟩
      · obtain ⟨n, isLength⟩ := Nat.exists_eq_succ_of_ne_zero
          (Nat.ne_of_gt (Text.byteLength_pos (Piece.text_ne_nil_of_isFirst allFirst.1)))
        rw [isLength]
        rfl
      · rw [isText]
        rfl
      · rintro rfl
        refine Piece.feed_notMem_of_isWrong allFirst.1 wrong ?_
        rw [isText]
        exact List.mem_cons_self ..
    next =>
      rw [isText]
      exact Or.inl rfl

/-- A piece that is not wrong comes first in front of another rest too, if that begins as the old
one or with a blank in place of a character on the same line. -/
theorem Piece.IsFirst.of_head? (isFirst : piece.IsFirst rest) (right : piece.isWrong = false)
    (heads : rest'.head? = rest.head? ∨
      rest'.head? = some ' ' ∧ ∃ d ∈ rest.head?, d ≠ '\n') : piece.IsFirst rest' := by
  cases piece with
  | gap text =>
    cases isFirst with
    | blank gap => exact .blank gap
    | comment parts stop =>
      refine .comment parts ?_
      rcases heads with same | ⟨-, d, isNext, noFeed⟩
      · rw [same]
        exact stop
      · exact absurd (stop d isNext) noFeed
  | token text token =>
    obtain ⟨lexeme, longest⟩ := isFirst
    refine ⟨lexeme, ?_⟩
    rcases heads with same | ⟨isBlank, -⟩
    · exact lexeme.isLongest_of_head? longest same
    · refine lexeme.isLongest_of_gap fun d isNext => ?_
      rw [isBlank] at isNext
      cases isNext
      rfl
  | oversized digits => cases right
  | illegal ch => cases right

theorem allFirst_replicate_gap_append (n : Nat) (others : AllFirst ps) :
    AllFirst (List.replicate n (.gap [' ']) ++ ps) := by
  induction n with
  | zero => exact others
  | succ n ih => exact ⟨.blank rfl, ih⟩

/-- With blanks for the wrong pieces, the others still come first where they stand. -/
theorem allFirst_flatMap_inBlanks (allFirst : AllFirst ps) :
    AllFirst (ps.flatMap Piece.inBlanks) := by
  induction ps with
  | nil => trivial
  | cons piece rest ih =>
    obtain ⟨isFirst, others⟩ := allFirst
    rw [List.flatMap_cons, Piece.inBlanks]
    split
    next => exact allFirst_replicate_gap_append _ (ih others)
    next right =>
      refine ⟨?_, ih others⟩
      show piece.IsFirst ((rest.flatMap Piece.inBlanks).flatMap Piece.text)
      rw [flatMap_text_flatMap_inBlanks]
      exact isFirst.of_head? (Bool.eq_false_iff.mpr right) (head?_flatMap_blanked others)

theorem pieces_blanked (source : String) :
    pieces (blanked source).toList = (pieces source.toList).flatMap Piece.inBlanks := by
  refine pieces_eq_iff.mpr ⟨?_, allFirst_flatMap_inBlanks (allFirst_pieces source.toList)⟩
  rw [blanked, String.toList_ofList]
  exact flatMap_text_flatMap_inBlanks _

/-! ## The scan of a source with blanks -/

/-- Blanks move the offset on, and nothing else. -/
theorem scanFrom_replicate_gap_append (place : Place) (n : Nat) (ps : List Piece) :
    scanFrom place (List.replicate n (.gap [' ']) ++ ps) =
      scanFrom ⟨place.offset + n, place.line⟩ ps := by
  induction n generalizing place with
  | zero => rfl
  | succ n ih =>
    rw [List.replicate_succ, List.cons_append, scanFrom_gap, ih, Nat.add_comm n, ← Nat.add_assoc]
    rfl

/-- A wrong piece moves the offset on too, and nothing else. -/
theorem after_of_isWrong {piece : Piece} (wrong : piece.isWrong = true) (place : Place) :
    place.after piece = ⟨place.offset + byteLength piece.text, place.line⟩ := by
  cases piece with
  | gap _ => cases wrong
  | token _ _ => cases wrong
  | oversized _ => rfl
  | illegal _ => rfl

/-- With blanks for the wrong pieces there are the same tokens in the same places, and no errors. -/
theorem scanFrom_flatMap_inBlanks (place : Place) (ps : List Piece) :
    scanFrom place (ps.flatMap Piece.inBlanks) = ⟨(scanFrom place ps).tokens, []⟩ := by
  induction ps generalizing place with
  | nil => rfl
  | cons piece rest ih =>
    have blanks : piece.isWrong = true →
        scanFrom place (List.replicate (byteLength piece.text) (.gap [' ']) ++
          rest.flatMap Piece.inBlanks) = ⟨(scanFrom (place.after piece) rest).tokens, []⟩ := by
      intro wrong
      rw [scanFrom_replicate_gap_append, ← after_of_isWrong wrong, ih]
    rw [List.flatMap_cons]
    cases piece with
    | gap text => exact ih (place.after (.gap text))
    | token text token =>
      show scanFrom place (.token text token :: rest.flatMap Piece.inBlanks) = _
      rw [scanFrom_token, scanFrom_token, ih]
    | oversized digits => exact blanks rfl
    | illegal ch => exact blanks rfl

/-! ## Bytes -/

/-- The bytes of a text in UTF-8. -/
def utf8 (text : List Char) : List UInt8 := text.flatMap String.utf8EncodeChar

theorem toList_toUTF8 (source : String) : source.toUTF8.data.toList = utf8 source.toList := by
  rw [String.toUTF8_eq_toByteArray, ← String.utf8Encode_toList, List.utf8Encode,
    List.toList_data_toByteArray]
  rfl

theorem length_utf8 (text : List Char) : (utf8 text).length = byteLength text := by
  induction text with
  | nil => rfl
  | cons c cs ih =>
    rw [utf8, List.flatMap_cons, List.length_append, String.length_utf8EncodeChar]
    exact congrArg (c.utf8Size + ·) ih

theorem utf8_replicate_blank (n : Nat) : utf8 (List.replicate n ' ') = List.replicate n 32 := by
  induction n with
  | zero => rfl
  | succ n ih =>
    rw [List.replicate_succ, utf8, List.flatMap_cons, List.replicate_succ]
    exact congrArg (32 :: ·) ih

theorem utf8_append (as bs : List Char) : utf8 (as ++ bs) = utf8 as ++ utf8 bs :=
  List.flatMap_append

theorem utf8_blanked (piece : Piece) :
    utf8 piece.blanked = (utf8 piece.text).map fun byte => if piece.isWrong then 32 else byte := by
  unfold Piece.blanked
  split
  next => rw [utf8_replicate_blank, List.map_const', length_utf8]
  next => exact (List.map_id' _).symm

/-- Blanks for the wrong pieces are blanks for the bytes that are covered, if those are the bytes of
the wrong pieces. -/
theorem utf8_flatMap_blanked {covered : Nat → Bool}
    (isCovered : ∀ placed ∈ placePieces place ps, ∀ offset, placed.span.covers offset = true →
      covered offset = placed.piece.isWrong) :
    utf8 (ps.flatMap Piece.blanked) = (utf8 (ps.flatMap Piece.text)).mapIdx fun offset byte =>
      if covered (place.offset + offset) then 32 else byte := by
  induction ps generalizing place with
  | nil => rfl
  | cons piece rest ih =>
    obtain ⟨here, later⟩ := List.forall_mem_cons.mp isCovered
    rw [List.flatMap_cons, List.flatMap_cons, utf8_append, utf8_append, List.mapIdx_append,
      ih later, utf8_blanked]
    congr 1
    · refine List.ext_getElem (by simp) fun offset _ inside => ?_
      rw [List.length_mapIdx, length_utf8] at inside
      have isHere : covered (place.offset + offset) = piece.isWrong := by
        refine here _ ?_
        simp [Span.covers, Placed.ofPiece, inside]
      simp [isHere]
    · simp only [Place.after, length_utf8, Nat.add_comm, Nat.add_left_comm]

/-- No two pieces share a byte. -/
theorem eq_of_covers {first second : Placed} {offset : Nat}
    (isFirst : first ∈ placePieces place ps) (isSecond : second ∈ placePieces place ps)
    (inFirst : first.span.covers offset = true) (inSecond : second.span.covers offset = true) :
    first = second := by
  have apart : ∀ a b : Placed, a.span.stop ≤ b.span.start → a.span.covers offset = true →
      b.span.covers offset = true → False := by
    intro a b before inA inB
    simp only [Span.covers, Bool.and_eq_true, decide_eq_true_eq] at inA inB
    omega
  have ordered := pairwise_placePieces place ps
  refine List.Pairwise.forall_of_forall_of_flip
    (R := fun a b => a.span.covers offset = true → b.span.covers offset = true → a = b)
    ?_ ?_ ?_ isFirst isSecond inFirst inSecond
  · intro _ _ _ _
    rfl
  · exact ordered.imp fun before inA inB => (apart _ _ before inA inB).elim
  · exact ordered.imp fun before inB inA => (apart _ _ before inA inB).elim

/-- The wrong pieces are those that stand for an error. -/
theorem isSome_error? (placed : Placed) : placed.error?.isSome = placed.piece.isWrong := by
  obtain ⟨piece, span, line⟩ := placed
  cases piece <;> rfl

/-- The bytes under the spans of errors are those of the wrong pieces. -/
theorem any_covers_errors {placed : Placed} {offset : Nat}
    (isPlaced : placed ∈ placePieces place ps) (inside : placed.span.covers offset = true) :
    (scanFrom place ps).errors.any (·.span.covers offset) = placed.piece.isWrong := by
  rw [Bool.eq_iff_iff, List.any_eq_true, ← isSome_error?, Option.isSome_iff_exists]
  constructor
  · rintro ⟨error, isIn, covers⟩
    obtain ⟨other, isOther, isError⟩ := List.mem_filterMap.mp isIn
    rw [← span_of_error? isOther isError] at covers
    rw [eq_of_covers isPlaced isOther inside covers]
    exact ⟨error, isError⟩
  · rintro ⟨error, isError⟩
    refine ⟨error, List.mem_filterMap.mpr ⟨placed, isPlaced, isError⟩, ?_⟩
    rw [← span_of_error? isPlaced isError]
    exact inside

/-! ## The whole source -/

/-- Let every byte under the span of an error be made a blank.  Then the source has the same tokens
in the same places, has no errors, and reads as the same statement or with the same syntax error. -/
theorem lex_blanked (source : String) :
    (blanked source).toUTF8.data.toList = source.toUTF8.data.toList.mapIdx (fun offset byte =>
      if (lex source).errors.any (·.span.covers offset) then 32 else byte) ∧
    lex (blanked source) = ⟨(lex source).tokens, []⟩ ∧
    Reading.ofSource (blanked source) = ⟨(Reading.ofSource source).result, []⟩ := by
  have isScan : lex (blanked source) = ⟨(lex source).tokens, []⟩ := by
    show scanFrom .start (pieces (blanked source).toList) = _
    rw [pieces_blanked]
    exact scanFrom_flatMap_inBlanks .start _
  refine ⟨?_, isScan, ?_⟩
  · have isCovered : ∀ placed ∈ placePieces .start (pieces source.toList), ∀ offset,
        placed.span.covers offset = true →
          (lex source).errors.any (·.span.covers offset) = placed.piece.isWrong :=
      fun _ isPlaced _ inside => any_covers_errors isPlaced inside
    have bytes := utf8_flatMap_blanked isCovered
    rw [flatMap_text_pieces] at bytes
    rw [toList_toUTF8, toList_toUTF8, blanked, String.toList_ofList, bytes]
    simp only [Place.start, Nat.zero_add]
  · rw [Reading.ofSource, isScan]
    rfl

end MiniBasic.Lexical
