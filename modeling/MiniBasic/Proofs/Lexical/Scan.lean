import MiniBasic.Lexical.Scan
import MiniBasic.Proofs.Lexical.Piece

/-!
# Where tokens and errors come from

Each token and each error of a scan stands for one piece of the source.  So its span divides the
source into what comes before, the text of the piece, and what comes after, in front of which the
piece comes first (`exists_parts_of_mem_tokens`, `exists_parts_of_mem_errors`).

*Lines.*  The line of a place is a counter that moves on over the end of a line and over nothing
else.  That it is the number of the line is an invariant.  A piece that comes first holds no end of
a line unless it is one, so the counter moves on over a piece by the ends of lines in it
(`Place.after_eq_past`), and over a run of pieces by the ends of lines in their texts
(`Place.afterAll_eq_past`).
-/

namespace MiniBasic.Lexical

open Text (Span Parts byteLength)

variable {place : Place} {ps : List Piece} {placed : Placed}

/-! ## The count of lines -/

/-- The place behind some text, its line counted from the text. -/
def Place.past (place : Place) (text : List Char) : Place :=
  ⟨place.offset + byteLength text, place.line + text.count '\n'⟩

theorem Place.past_append (place : Place) (as bs : List Char) :
    place.past (as ++ bs) = (place.past as).past bs := by
  simp [past, Nat.add_assoc]

/-- The line moves on over a piece that comes first by the ends of lines that the piece holds. -/
theorem Place.after_eq_past {piece : Piece} {rest : List Char} (isFirst : piece.IsFirst rest)
    (place : Place) : place.after piece = place.past piece.text := by
  cases isFeed : piece.isFeed with
  | true =>
    rw [Piece.isFeed_iff.mp isFeed]
    rfl
  | false =>
    have oneLine := Piece.feed_notMem_of_isFirst isFirst isFeed
    rw [after, past, isFeed, List.count_eq_zero_of_not_mem oneLine]
    rfl

/-- The line moves on over pieces by the ends of lines in their texts, if each of them comes
first. -/
theorem Place.afterAll_eq_past {qs : List Piece} (allFirst : AllFirst (ps ++ qs)) (place : Place) :
    place.afterAll ps = place.past (ps.flatMap Piece.text) := by
  induction ps generalizing place with
  | nil => rfl
  | cons piece rest ih =>
    obtain ⟨isFirst, others⟩ := allFirst
    rw [afterAll_cons, ih others, after_eq_past isFirst, List.flatMap_cons, past_append]

theorem Place.afterAll_pieces (place : Place) (text : List Char) :
    place.afterAll (pieces text) = place.past text := by
  have allFirst : AllFirst (pieces text ++ []) := by
    rw [List.append_nil]
    exact allFirst_pieces text
  rw [afterAll_eq_past allFirst, flatMap_text_pieces]

/-- The offset moves on over pieces by their texts. -/
theorem Place.offset_afterAll (place : Place) (ps : List Piece) :
    (place.afterAll ps).offset = place.offset + byteLength (ps.flatMap Piece.text) := by
  induction ps generalizing place with
  | nil => rfl
  | cons piece rest ih =>
    rw [afterAll_cons, ih, List.flatMap_cons, Text.byteLength_append, ← Nat.add_assoc]
    rfl

/-! ## Pieces in their places -/

/-- A placed piece is one of the pieces, at the place after those before it. -/
theorem mem_placePieces_iff : placed ∈ placePieces place ps ↔ ∃ before piece after,
    ps = before ++ piece :: after ∧
      placed = .ofPiece (place.afterAll before) piece := by
  induction ps generalizing place with
  | nil => simp [placePieces]
  | cons first rest ih =>
    rw [placePieces, List.mem_cons, ih]
    constructor
    · intro found
      rcases found with rfl | ⟨before, piece, after, rfl, rfl⟩
      · exact ⟨[], first, rest, rfl, by simp⟩
      · exact ⟨first :: before, piece, after, rfl, by simp⟩
    · rintro ⟨before, piece, after, isList, isPlaced⟩
      cases before with
      | nil =>
        cases isList
        exact Or.inl (by simpa using isPlaced)
      | cons other before =>
        cases isList
        exact Or.inr ⟨before, piece, after, rfl, by simpa using isPlaced⟩

theorem AllFirst.isFirst {before after : List Piece} {piece : Piece}
    (allFirst : AllFirst (before ++ piece :: after)) :
    piece.IsFirst (after.flatMap Piece.text) := by
  induction before with
  | nil => exact allFirst.1
  | cons _ _ ih => exact ih allFirst.2

/-- A placed piece divides its source at its span, comes first where it stands, and has the number
of its line. -/
theorem exists_parts_of_mem_placedPieces {source : List Char}
    (isPlaced : placed ∈ placedPieces .start source) :
    ∃ before after, Parts source placed.span before placed.piece.text after ∧
      placed.piece.IsFirst after ∧ placed.line = 1 + before.count '\n' := by
  obtain ⟨before, piece, after, isList, rfl⟩ := mem_placePieces_iff.mp isPlaced
  have allFirst := allFirst_pieces source
  rw [isList] at allFirst
  rw [Place.afterAll_eq_past allFirst]
  refine ⟨before.flatMap Piece.text, after.flatMap Piece.text, ⟨?_, ?_, ?_⟩, allFirst.isFirst, rfl⟩
  · have whole := flatMap_text_pieces source
    rw [isList, List.flatMap_append, List.flatMap_cons] at whole
    exact whole
  · simp [Placed.ofPiece, Place.past, Place.start]
  · simp [Placed.ofPiece, Place.past, Place.start]

/-! ## Tokens and errors -/

/-- The tokens and errors of some pieces, from a place on. -/
def scanFrom (place : Place) (ps : List Piece) : Scan := .ofPlaced (placePieces place ps)

theorem scanFrom_gap (place : Place) (text : List Char) (ps : List Piece) :
    scanFrom place (.gap text :: ps) = scanFrom (place.after (.gap text)) ps := rfl

theorem scanFrom_token (place : Place) (text : List Char) (token : Token) (ps : List Piece) :
    scanFrom place (.token text token :: ps) =
      ⟨⟨token, ⟨place.offset, place.offset + byteLength text⟩, place.line⟩ ::
        (scanFrom (place.after (.token text token)) ps).tokens,
        (scanFrom (place.after (.token text token)) ps).errors⟩ := rfl

/-- The piece that an error stands for. -/
def LexicalError.piece : LexicalError → Piece
  | illegalCharacter ch .. => .illegal ch
  | numberTooLarge text .. => .oversized text.toList

theorem LexicalError.text_piece (error : LexicalError) : error.piece.text = error.text := by
  cases error <;> rfl

theorem piece_of_token? {located : Token.Located} (isToken : placed.token? = some located) :
    (∃ text, placed.piece = .token text located.token) ∧ placed.span = located.span ∧
      placed.line = located.line := by
  obtain ⟨piece, span, line⟩ := placed
  cases piece with
  | token text token =>
    cases isToken
    exact ⟨⟨text, rfl⟩, rfl, rfl⟩
  | gap _ => cases isToken
  | oversized _ => cases isToken
  | illegal _ => cases isToken

theorem piece_of_error? {piece : Piece} {error : LexicalError}
    (isError : (Placed.ofPiece place piece).error? = some error) :
    piece = error.piece ∧ (Placed.ofPiece place piece).span = error.span ∧
      place.line = error.line := by
  cases piece with
  | oversized digits =>
    cases isError
    exact ⟨by rw [LexicalError.piece, String.toList_ofList], rfl, rfl⟩
  | illegal ch =>
    cases isError
    exact ⟨rfl, rfl, rfl⟩
  | gap _ => cases isError
  | token _ _ => cases isError

/-- The span of a token divides the source, and the token comes first where it stands. -/
theorem exists_parts_of_mem_tokens {source : String} {located : Token.Located}
    (isToken : located ∈ (lex source).tokens) : ∃ before text after,
      Parts source.toList located.span before text after ∧
        (Piece.token text located.token).IsFirst after := by
  obtain ⟨placed, isPlaced, isToken⟩ := List.mem_filterMap.mp isToken
  obtain ⟨before, after, parts, isFirst, -⟩ := exists_parts_of_mem_placedPieces isPlaced
  obtain ⟨⟨text, isPiece⟩, isSpan, -⟩ := piece_of_token? isToken
  rw [isPiece, isSpan] at parts
  rw [isPiece] at isFirst
  exact ⟨before, text, after, parts, isFirst⟩

/-- The span of an error divides the source, and its piece comes first where it stands. -/
theorem exists_parts_of_mem_errors {source : String} {error : LexicalError}
    (isError : error ∈ (lex source).errors) : ∃ before after,
      Parts source.toList error.span before error.text after ∧ error.piece.IsFirst after := by
  obtain ⟨placed, isPlaced, isError⟩ := List.mem_filterMap.mp isError
  obtain ⟨before, after, parts, isFirst, -⟩ := exists_parts_of_mem_placedPieces isPlaced
  obtain ⟨_, piece, _, -, rfl⟩ := mem_placePieces_iff.mp isPlaced
  obtain ⟨rfl, isSpan, -⟩ := piece_of_error? isError
  rw [isSpan] at parts
  rw [← error.text_piece]
  exact ⟨before, after, parts, isFirst⟩

/-- A token has the number of the line it starts on. -/
theorem line_of_mem_tokens {source : String} {located : Token.Located}
    {before inside after : List Char} (isToken : located ∈ (lex source).tokens)
    (parts : Parts source.toList located.span before inside after) :
    located.line = 1 + before.count '\n' := by
  obtain ⟨placed, isPlaced, isToken⟩ := List.mem_filterMap.mp isToken
  obtain ⟨before', after', parts', -, isLine⟩ := exists_parts_of_mem_placedPieces isPlaced
  obtain ⟨-, isSpan, sameLine⟩ := piece_of_token? isToken
  rw [isSpan] at parts'
  rw [← sameLine, isLine, parts.before_unique parts' rfl]

/-- An error has the number of the line it starts on. -/
theorem line_of_mem_errors {source : String} {error : LexicalError}
    {before inside after : List Char} (isError : error ∈ (lex source).errors)
    (parts : Parts source.toList error.span before inside after) :
    error.line = 1 + before.count '\n' := by
  obtain ⟨placed, isPlaced, isError⟩ := List.mem_filterMap.mp isError
  obtain ⟨before', after', parts', -, isLine⟩ := exists_parts_of_mem_placedPieces isPlaced
  obtain ⟨_, piece, _, -, rfl⟩ := mem_placePieces_iff.mp isPlaced
  obtain ⟨-, isSpan, sameLine⟩ := piece_of_error? isError
  rw [isSpan] at parts'
  rw [← sameLine, parts.before_unique parts' rfl]
  exact isLine

end MiniBasic.Lexical
