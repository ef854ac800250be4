import MiniBasic.Proofs.Lexical.Lines
import MiniBasic.Proofs.Text.Lines

/-!
# Tokens and the numbers of their lines

The tokens of a text are those of its lines, one line after the other, and each token has the number
of its line (`map_tokens_pieces`).  What a token is depends on its own line only, since no piece
of a text but the end of a line goes over it.  So it remains to see that a carriage return in front
of the end of a line, which belongs to no line, adds no token to it (`words_concat_ret`).

A carriage return is cut off as a piece of its own, unless the line ends in a comment, which goes
on over it.  In both cases the other pieces are those of the line without it
(`Piece.IsFirst.concat_ret`).  A word, a number or a sign does not go on over a carriage return, and
a quote that was not closed is not closed by one.
-/

namespace MiniBasic.Lexical

variable {ps : List Piece} {text rest : List Char}

/-! ## Words -/

/-- The token of a piece, if it is one. -/
def Piece.word? : Piece → Option Token
  | token _ found => some found
  | _ => none

/-- The tokens of a text, without their places. -/
def words (text : List Char) : List Token := (pieces text).filterMap Piece.word?

theorem filterMap_word?_cons (text : List Char) (token : Token) (ps : List Piece) :
    (Piece.token text token :: ps).filterMap Piece.word? = token :: ps.filterMap Piece.word? := rfl

theorem map_token_scanFrom (place : Place) (ps : List Piece) :
    (scanFrom place ps).tokens.map (·.token) = ps.filterMap Piece.word? := by
  induction ps generalizing place with
  | nil => rfl
  | cons piece rest ih =>
    cases piece with
    | token text token =>
      rw [scanFrom_token, List.map_cons, ih, filterMap_word?_cons]
    | gap text | oversized digits | illegal ch => exact ih _

theorem tokens_eq_words (source : String) : tokens source = words source.toList :=
  map_token_scanFrom .start _

/-- The tokens of pieces on one line have the number of this line. -/
theorem map_tokens_of_feed_notMem (oneLine : '\n' ∉ ps.flatMap Piece.text) (place : Place) :
    (scanFrom place ps).tokens.map (fun located => (located.token, located.line)) =
      (ps.filterMap Piece.word?).map (·, place.line) := by
  induction ps generalizing place with
  | nil => rfl
  | cons piece rest ih =>
    rw [List.flatMap_cons, List.mem_append, not_or] at oneLine
    have noFeed : ¬ piece.isFeed = true := by
      intro feed
      rw [Piece.isFeed_iff.mp feed] at oneLine
      exact oneLine.1 (List.mem_singleton_self _)
    have sameLine : (place.after piece).line = place.line := if_neg noFeed
    have others := ih oneLine.2 (place.after piece)
    rw [sameLine] at others
    cases piece with
    | token text token =>
      rw [scanFrom_token, List.map_cons, filterMap_word?_cons, List.map_cons]
      exact congrArg _ others
    | gap text | oversized digits | illegal ch => exact others

/-! ## A carriage return -/

/-- A character with which nothing begins stays such in front of a blank at the end. -/
theorem Piece.isFirst_illegal_concat_gap {ch d : Char} (gap : isGapChar d = true)
    (isFirst : (illegal ch).IsFirst rest) : (illegal ch).IsFirst (rest ++ [d]) := by
  rw [isFirst_illegal_iff] at isFirst ⊢
  intro tail isPrefix isTail
  cases run : runOf ch with
  | some part => exact isFirst [] List.nil_prefix ((isTail_of_runOf run).mpr (by simp))
  | none =>
    rcases List.prefix_concat_iff.mp isPrefix with rfl | shorter
    · exact not_isTaken_concat_gap (runOf_eq_none_iff.mp run).1 gap (isTaken_cons_iff.mpr isTail)
    · exact isFirst tail shorter isTail

/-- What comes first in a line still does with a carriage return at the end, unless it is a comment.
Nothing comes after a comment. -/
theorem Piece.IsFirst.concat_ret {piece : Piece} (isFirst : piece.IsFirst rest)
    (oneLine : '\n' ∉ rest) : piece.IsFirst (rest ++ ['\r']) ∨
      rest = [] ∧ ∃ inside, piece = gap ('#' :: inside) ∧ ∀ c ∈ inside, isCommentPart c = true := by
  cases piece with
  | gap text =>
    cases isFirst with
    | blank gap => exact Or.inl (.blank gap)
    | @comment inside parts stop =>
      refine Or.inr ⟨?_, inside, rfl, parts⟩
      rw [← List.head?_eq_none_iff, Option.eq_none_iff_forall_not_mem]
      intro d isNext
      exact oneLine (stop d isNext ▸ List.mem_of_mem_head? isNext)
  | token text token =>
    obtain ⟨lexeme, longest⟩ := isFirst
    exact Or.inl ⟨lexeme,
      isLongest_append_gap rfl (Or.inl ⟨token, lexeme⟩) lexeme.exists_cons longest []⟩
  | oversized digits =>
    obtain ⟨isDigits, large, longest⟩ := isFirst
    exact Or.inl ⟨isDigits, large,
      isLongest_append_gap rfl (Or.inr (Or.inl isDigits)) isDigits.exists_cons longest []⟩
  | illegal ch => exact Or.inl (isFirst_illegal_concat_gap rfl isFirst)

/-- With a carriage return at its end, a line has pieces with the same tokens. -/
theorem exists_pieces_concat_ret (allFirst : AllFirst ps) (oneLine : '\n' ∉ ps.flatMap Piece.text) :
    ∃ qs, AllFirst qs ∧ qs.flatMap Piece.text = ps.flatMap Piece.text ++ ['\r'] ∧
      qs.filterMap Piece.word? = ps.filterMap Piece.word? := by
  induction ps with
  | nil => exact ⟨[.gap ['\r']], ⟨.blank rfl, trivial⟩, rfl, rfl⟩
  | cons piece rest ih =>
    obtain ⟨isFirst, others⟩ := allFirst
    rw [List.flatMap_cons, List.mem_append, not_or] at oneLine
    rcases isFirst.concat_ret oneLine.2 with isFirst | ⟨isLast, inside, rfl, parts⟩
    · obtain ⟨qs, allFirst, isText, sameWords⟩ := ih others oneLine.2
      refine ⟨piece :: qs, ⟨isText ▸ isFirst, allFirst⟩, ?_, ?_⟩
      · rw [List.flatMap_cons, List.flatMap_cons, isText, List.append_assoc]
      · rw [List.filterMap_cons, List.filterMap_cons, sameWords]
    · -- the comment goes on over the carriage return
      obtain rfl : rest = [] := by
        rw [← pieces_eq_iff.mpr ⟨isLast, others⟩, pieces_nil]
      refine ⟨[.gap ('#' :: (inside ++ ['\r']))], ⟨.comment ?_ (by simp), trivial⟩, ?_, rfl⟩
      · exact List.forall_mem_append.mpr ⟨parts, List.forall_mem_singleton.mpr rfl⟩
      · simp [Piece.text]

/-- A carriage return at the end of a line adds no token. -/
theorem words_concat_ret (oneLine : '\n' ∉ text) : words (text ++ ['\r']) = words text := by
  rw [← flatMap_text_pieces text] at oneLine
  obtain ⟨qs, allFirst, isText, sameWords⟩ :=
    exists_pieces_concat_ret (allFirst_pieces text) oneLine
  rw [flatMap_text_pieces] at isText
  rw [words, pieces_eq_iff.mpr ⟨isText, allFirst⟩, sameWords]
  rfl

/-! ## Line by line -/

/-- The tokens of a text are those of its lines, each with the number of its line. -/
theorem map_tokens_pieces (place : Place) (text : List Char) :
    (scanFrom place (pieces text)).tokens.map (fun located => (located.token, located.line)) =
      ((Text.lines text).zipIdx place.line).flatMap fun line =>
        (words line.1).map (·, line.2) := by
  induction text using Text.induction_on_lines generalizing place with
  | last line noFeed =>
    cases line with
    | nil => rw [pieces_nil, Text.lines, Text.linesWith]; rfl
    | cons c cs =>
      have isLine : Text.lines (c :: cs) = [c :: cs] :=
        Text.linesWith_of_feed_notMem (List.cons_ne_nil c cs) noFeed
      rw [map_tokens_of_feed_notMem (by rwa [flatMap_text_pieces]), isLine, List.zipIdx_singleton,
        List.flatMap_singleton, words]
  | more front rest noFeed ih =>
    obtain ⟨line, isLines, isFront⟩ :=
      Text.exists_linesWith_append (show '\r' ≠ '\n' by decide) noFeed rest
    have sameWords : words front = words line := by
      rcases isFront with rfl | rfl
      · rfl
      · exact words_concat_ret fun isIn => noFeed (List.mem_append_left _ isIn)
    have isPlace : ((place.afterAll (pieces front)).after (.gap ['\n'])).line =
        place.line + 1 := by
      rw [Place.afterAll_pieces, Place.past, List.count_eq_zero_of_not_mem noFeed]
      rfl
    rw [pieces_append_feed, scanFrom_append, scanFrom_gap, Text.lines, isLines, List.zipIdx_cons,
      List.flatMap_cons, ← sameWords, ← isPlace]
    show List.map _ (_ ++ _) = _
    rw [List.map_append, map_tokens_of_feed_notMem (by rwa [flatMap_text_pieces])]
    exact congrArg _ (ih _)

end MiniBasic.Lexical
