import MiniBasic.Proofs.Lexical.Scan

/-!
# Reading line by line

The end of a line parts a source into two that are read each on its own (`lex_append_feed`).  The
tokens and errors of the second part are those it has alone, moved on by the bytes and the lines in
front of it (`Scan.shift`).

*The seam.*  What comes first in front of a rest comes first too when an end of line is put behind
that rest, whatever follows (`Piece.IsFirst.append_feed`).  A word, a number or a sign does not go
on over the end of a line, a comment stops there, and a quote that was not closed is not closed
further down.  So the pieces of the two parts, with a gap between them, are the pieces of the whole
(`pieces_append_feed`).

*The place.*  Pieces do not depend on where they stand.  So a scan from a later place is the same
scan moved on (`scanFrom_shift`).
-/

namespace MiniBasic

/-! ## Moving on -/

/-- A span some bytes further on. -/
def Text.Span.shift (span : Text.Span) (bytes : Nat) : Text.Span :=
  ⟨span.start + bytes, span.stop + bytes⟩

/-- A token some bytes and lines further on. -/
def Token.Located.shift (located : Token.Located) (bytes lines : Nat) : Token.Located :=
  ⟨located.token, located.span.shift bytes, located.line + lines⟩

namespace Lexical

open Text (byteLength)

variable {place : Place} {ps : List Piece} {piece : Piece} {text rest : List Char}

/-- An error some bytes and lines further on. -/
def LexicalError.shift (error : LexicalError) (bytes lines : Nat) : LexicalError :=
  match error with
  | illegalCharacter ch index line => illegalCharacter ch (index + bytes) (line + lines)
  | numberTooLarge text span line => numberTooLarge text (span.shift bytes) (line + lines)

/-- A scan some bytes and lines further on. -/
def Scan.shift (scan : Scan) (bytes lines : Nat) : Scan :=
  ⟨scan.tokens.map (·.shift bytes lines), scan.errors.map (·.shift bytes lines)⟩

/-- One scan and then another. -/
def Scan.append (first second : Scan) : Scan :=
  ⟨first.tokens ++ second.tokens, first.errors ++ second.errors⟩

/-- A place some bytes and lines further on. -/
def Place.shift (place : Place) (bytes lines : Nat) : Place :=
  ⟨place.offset + bytes, place.line + lines⟩

theorem Place.after_shift (place : Place) (bytes lines : Nat) (piece : Piece) :
    (place.shift bytes lines).after piece = (place.after piece).shift bytes lines := by
  cases isFeed : piece.isFeed <;> simp [shift, after, isFeed, Nat.add_right_comm]

/-- A placed piece some bytes and lines further on. -/
def Placed.shift (placed : Placed) (bytes lines : Nat) : Placed :=
  ⟨placed.piece, placed.span.shift bytes, placed.line + lines⟩

theorem Placed.ofPiece_shift (place : Place) (bytes lines : Nat) (piece : Piece) :
    Placed.ofPiece (place.shift bytes lines) piece =
      (Placed.ofPiece place piece).shift bytes lines := by
  simp [Placed.ofPiece, Placed.shift, Place.shift, Text.Span.shift, Nat.add_right_comm]

theorem Placed.token?_shift (placed : Placed) (bytes lines : Nat) :
    (placed.shift bytes lines).token? = placed.token?.map (·.shift bytes lines) := by
  obtain ⟨piece, span, line⟩ := placed
  cases piece <;> rfl

theorem Placed.error?_shift (placed : Placed) (bytes lines : Nat) :
    (placed.shift bytes lines).error? = placed.error?.map (·.shift bytes lines) := by
  obtain ⟨piece, span, line⟩ := placed
  cases piece <;> rfl

theorem placePieces_shift (place : Place) (bytes lines : Nat) (ps : List Piece) :
    placePieces (place.shift bytes lines) ps =
      (placePieces place ps).map (·.shift bytes lines) := by
  induction ps generalizing place with
  | nil => rfl
  | cons piece rest ih =>
    rw [placePieces, placePieces, Place.after_shift, ih, Placed.ofPiece_shift, List.map_cons]

/-- The same pieces from a later place make the same scan, moved on. -/
theorem scanFrom_shift (place : Place) (bytes lines : Nat) (ps : List Piece) :
    scanFrom (place.shift bytes lines) ps = (scanFrom place ps).shift bytes lines := by
  simp only [scanFrom, Scan.ofPlaced, Scan.shift, placePieces_shift, List.filterMap_map,
    List.map_filterMap, Scan.mk.injEq]
  constructor
  · exact congrArg (List.filterMap · _) (funext fun placed => placed.token?_shift bytes lines)
  · exact congrArg (List.filterMap · _) (funext fun placed => placed.error?_shift bytes lines)

theorem scanFrom_append (place : Place) (ps qs : List Piece) :
    scanFrom place (ps ++ qs) =
      (scanFrom place ps).append (scanFrom (place.afterAll ps) qs) := by
  simp [scanFrom, Scan.ofPlaced, Scan.append, placePieces_append]

/-! ## The seam -/

/-- What stands next in front of a character is the next character, or that one. -/
theorem head?_append_cons {d e : Char} {more : List Char}
    (isNext : d ∈ (rest ++ e :: more).head?) : d ∈ rest.head? ∨ d = e := by
  cases rest with
  | nil => exact Or.inr (Option.some.inj isNext).symm
  | cons c rest => exact Or.inl isNext

/-- A word, a number or a sign that is the longest stays so in front of a blank or the end of a
line. -/
theorem isLongest_append_gap {d : Char} (gap : isGapChar d = true) (taken : IsTaken text)
    (begins : ∃ c cs, text = c :: cs ∧ isSkippedStart c = false) (longest : IsLongest text rest)
    (more : List Char) : IsLongest text (rest ++ d :: more) := by
  obtain ⟨c, cs, rfl, noSkip⟩ := begins
  rw [isLongest_iff taken (List.cons_ne_nil c cs)] at longest ⊢
  intro e isNext
  rcases head?_append_cons isNext with isNext | rfl
  · exact longest e isNext
  · exact not_isTaken_concat_gap noSkip gap

/-- A beginning without an end of line is a beginning of what stands before the end of the line. -/
theorem prefix_of_prefix_append_feed {more : List Char} (isPrefix : text <+: rest ++ '\n' :: more)
    (noFeed : '\n' ∉ text) : text <+: rest := by
  rcases List.prefix_or_prefix_of_prefix isPrefix (List.prefix_append rest ('\n' :: more)) with
    shorter | ⟨tail, rfl⟩
  · exact shorter
  · rw [List.prefix_append_right_inj] at isPrefix
    cases tail with
    | nil => simp
    | cons d tail =>
      obtain ⟨rfl, -⟩ := List.cons_prefix_cons.mp isPrefix
      exact absurd (List.mem_append_right rest (List.mem_cons_self ..)) noFeed

/-- A character with which nothing begins stays such in front of the end of a line. -/
theorem Piece.isFirst_illegal_append_feed {ch : Char} (isFirst : (illegal ch).IsFirst rest)
    (more : List Char) : (illegal ch).IsFirst (rest ++ '\n' :: more) := by
  rw [isFirst_illegal_iff] at isFirst ⊢
  intro tail isPrefix isTail
  cases run : runOf ch with
  | some part => exact isFirst [] List.nil_prefix ((isTail_of_runOf run).mpr (by simp))
  | none =>
    have noFeed := isTail.feed_notMem (runOf_eq_none_iff.mp run).1
    exact isFirst tail (prefix_of_prefix_append_feed isPrefix noFeed) isTail

/-- What comes first still does when an end of line is put behind the rest. -/
theorem Piece.IsFirst.append_feed (isFirst : piece.IsFirst rest) (more : List Char) :
    piece.IsFirst (rest ++ '\n' :: more) := by
  cases piece with
  | gap text =>
    cases isFirst with
    | blank gap => exact .blank gap
    | comment parts stop =>
      refine .comment parts fun d isNext => ?_
      exact (head?_append_cons isNext).elim (stop d) id
  | token text token =>
    obtain ⟨lexeme, longest⟩ := isFirst
    exact ⟨lexeme,
      isLongest_append_gap rfl (Or.inl ⟨token, lexeme⟩) lexeme.exists_cons longest more⟩
  | oversized digits =>
    obtain ⟨isDigits, large, longest⟩ := isFirst
    exact ⟨isDigits, large,
      isLongest_append_gap rfl (Or.inr (Or.inl isDigits)) isDigits.exists_cons longest more⟩
  | illegal ch => exact isFirst_illegal_append_feed isFirst more

theorem AllFirst.append_feed {qs : List Piece} (first : AllFirst ps) (second : AllFirst qs) :
    AllFirst (ps ++ .gap ['\n'] :: qs) := by
  induction ps with
  | nil => exact ⟨.blank rfl, second⟩
  | cons piece rest ih =>
    obtain ⟨isFirst, others⟩ := first
    refine ⟨?_, ih others⟩
    show piece.IsFirst ((rest ++ .gap ['\n'] :: qs).flatMap Piece.text)
    rw [List.flatMap_append]
    exact isFirst.append_feed _

/-- The pieces around the end of a line are those of the parts. -/
theorem pieces_append_feed (as bs : List Char) :
    pieces (as ++ '\n' :: bs) = pieces as ++ .gap ['\n'] :: pieces bs := by
  refine pieces_eq_iff.mpr ⟨?_, (allFirst_pieces as).append_feed (allFirst_pieces bs)⟩
  rw [List.flatMap_append, List.flatMap_cons, flatMap_text_pieces, flatMap_text_pieces]
  rfl

/-! ## The whole source -/

/-- A source with an end of line in it has the tokens and errors of the part before it, and then
those of the part after it, moved on by the bytes and the lines up to there. -/
theorem lex_append_feed (a b : String) :
    lex (a ++ "\n" ++ b) =
      (lex a).append ((lex b).shift (byteLength a.toList + 1) (1 + a.toList.count '\n')) := by
  have isText : (a ++ "\n" ++ b).toList = a.toList ++ '\n' :: b.toList := by simp
  have isPlace : (Place.start.afterAll (pieces a.toList)).after (.gap ['\n']) =
      Place.start.shift (byteLength a.toList + 1) (1 + a.toList.count '\n') := by
    have feedSize : '\n'.utf8Size = 1 := rfl
    rw [Place.afterAll_pieces]
    simp [Place.start, Place.past, Place.after, Place.shift, Piece.isFeed, Piece.text, feedSize,
      Nat.add_comm]
  show scanFrom .start (pieces (a ++ "\n" ++ b).toList) = _
  rw [isText, pieces_append_feed, scanFrom_append, scanFrom_gap, isPlace, scanFrom_shift]
  rfl

/-! Two quotes on two lines are not one text. -/

example : lex "\"a\nb\"" =
    ⟨[⟨.name "a", ⟨1, 2⟩, 1⟩, ⟨.name "b", ⟨3, 4⟩, 2⟩],
      [.illegalCharacter '"' 0 1, .illegalCharacter '"' 4 2]⟩ := by
  decide +kernel

end Lexical

end MiniBasic
