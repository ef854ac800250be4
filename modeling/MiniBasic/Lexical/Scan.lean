import MiniBasic.Lexical.Error
import MiniBasic.Lexical.Piece

/-!
# The tokens of a source

Every piece of a source stands at a place: a byte offset and a line.  The offset moves on over
every piece, the line only over the end of a line.  So a scan is the list of pieces with their
places.  Of these, `lex` keeps the tokens and the errors, each in the order of the source; the gaps
are left out.
-/

namespace MiniBasic.Lexical

open Text (Span byteLength)

/-! ## Places -/

/-- Where reading stands in a source. -/
structure Place where
  /-- Bytes read so far. -/
  offset : Nat
  /-- The line, counted from 1. -/
  line : Nat
deriving DecidableEq

/-- The place before the first character. -/
def Place.start : Place := ⟨0, 1⟩

/-- The place after a piece.  Only the end of a line moves the line on, by the bytes it covers. -/
def Place.after (place : Place) (piece : Piece) : Place where
  offset := place.offset + byteLength piece.text
  line := if piece.isFeed then place.line + byteLength piece.text else place.line

/-- The place after some pieces. -/
def Place.afterAll (place : Place) (ps : List Piece) : Place := ps.foldl after place

@[simp] theorem Place.afterAll_nil (place : Place) : place.afterAll [] = place := rfl

@[simp] theorem Place.afterAll_cons (place : Place) (piece : Piece) (ps : List Piece) :
    place.afterAll (piece :: ps) = (place.after piece).afterAll ps := rfl

/-- A piece with the bytes it covers and the line it starts on. -/
structure Placed where
  piece : Piece
  span : Span
  line : Nat
deriving DecidableEq

/-- A piece put at a place. -/
def Placed.ofPiece (place : Place) (piece : Piece) : Placed :=
  ⟨piece, ⟨place.offset, place.offset + byteLength piece.text⟩, place.line⟩

/-- The token of a placed piece, if it is one. -/
def Placed.token? (placed : Placed) : Option Token.Located :=
  match placed.piece with
  | .token _ token => some ⟨token, placed.span, placed.line⟩
  | _ => none

/-- The error that a placed piece stands for, if any. -/
def Placed.error? (placed : Placed) : Option LexicalError :=
  match placed.piece with
  | .oversized digits => some (.numberTooLarge (String.ofList digits) placed.span placed.line)
  | .illegal ch => some (.illegalCharacter ch placed.span.start placed.line)
  | _ => none

/-- Pieces put one after the other, from a place on. -/
def placePieces (place : Place) : List Piece → List Placed
  | [] => []
  | piece :: rest => Placed.ofPiece place piece :: placePieces (place.after piece) rest

theorem placePieces_append (place : Place) (ps qs : List Piece) :
    placePieces place (ps ++ qs) =
      placePieces place ps ++ placePieces (place.afterAll ps) qs := by
  induction ps generalizing place with
  | nil => simp [placePieces]
  | cons p ps ih => simp [placePieces, ih]

/-! ## Scans -/

/-- What a source holds: its tokens, and what was wrong on the way. -/
structure Scan where
  tokens : List Token.Located
  errors : List LexicalError
deriving DecidableEq

/-- The spans of the tokens and of the errors, in one list by where they start. -/
def Scan.spans (scan : Scan) : List Span :=
  List.merge (scan.tokens.map (·.span)) (scan.errors.map (·.span)) fun a b => a.start ≤ b.start

/-- The tokens and the errors among placed pieces. -/
def Scan.ofPlaced (placed : List Placed) : Scan :=
  ⟨placed.filterMap Placed.token?, placed.filterMap Placed.error?⟩

/-- The pieces of a text with their places, from a place on. -/
def placedPieces (place : Place) (text : List Char) : List Placed := placePieces place (pieces text)

/-- The tokens and errors of a source. -/
def lex (source : String) : Scan := Scan.ofPlaced (placedPieces .start source.toList)

/-- The tokens of a source without their places. -/
def tokens (source : String) : List Token := (lex source).tokens.map Token.Located.token

/-- A source with blanks in place of all that is wrong in it. -/
def blanked (source : String) : String :=
  String.ofList ((pieces source.toList).flatMap Piece.blanked)

example : lex "a\n @" =
    ⟨[⟨.name "a", ⟨0, 1⟩, 1⟩], [.illegalCharacter '@' 3 2]⟩ := by decide +kernel
example : tokens "IF # x" = [.kwIf] := by decide +kernel
example : blanked "a é \"b" = "a     b" := by decide +kernel

end MiniBasic.Lexical
