import MiniBasic.Lexical.Scan

/-!
# Lazy reading

A stream holds the text that has not been read yet.  Each call of `Stream.next` reads on to the
end of the next token and reports the errors it passes, each exactly once.  When no token is left
the call reads to the end of the text.

A stream moves past a token, an error or the end of a line, but past blanks and comments only on
the way to one of these.  So it stays in front of the blanks and comments in which a text ends, and
every later call reads them again.
-/

namespace MiniBasic.Lexical

/-- A source that is being read. -/
structure Stream where
  /-- What has not been read. -/
  rest : List Char
  /-- Where it starts. -/
  place : Place
deriving DecidableEq

/-- The answer of one call. -/
structure Stream.Step where
  /-- The token, unless the text has ended. -/
  token : Option Token.Located
  /-- The errors before that token, or before the end. -/
  errors : List LexicalError
  stream : Stream
deriving DecidableEq

/-- Does a piece leave a stream where it is?  Blanks and comments do, but no end of a line. -/
def Piece.isQuiet : Piece → Bool
  | gap text => text != ['\n']
  | _ => false

/-- Where a stream stays when it has read on over a piece: behind it, unless it is quiet. -/
def Stream.past (last : Stream) (piece : Piece) (after : Stream) : Stream :=
  if piece.isQuiet then last else after

/-- Reads to the end of the next token, from a place on.  Without a token, the stream stays at
`last`, or behind the last piece that was not quiet. -/
def Stream.nextFrom (last : Stream) (place : Place) : List Char → Stream.Step
  | [] => ⟨none, [], last⟩
  | c :: cs =>
    let read := Piece.first c cs
    let placed := Placed.ofPiece place read.1
    let after : Stream := ⟨read.2, place.after read.1⟩
    match placed.token? with
    | some token => ⟨some token, [], after⟩
    | none =>
      let step := nextFrom (last.past read.1 after) after.place read.2
      { step with errors := placed.error?.toList ++ step.errors }
termination_by text => text.length
decreasing_by exact Nat.lt_succ_of_le (Piece.length_first_le c cs)

/-- A stream at the start of a source. -/
def Stream.ofSource (source : String) : Stream := ⟨source.toList, .start⟩

/-- Reads to the end of the next token, or to the end of the text. -/
def Stream.next (stream : Stream) : Stream.Step := nextFrom stream stream.place stream.rest

/-- The answers of a number of calls, one after the other. -/
def Stream.steps (stream : Stream) : Nat → List Stream.Step
  | 0 => []
  | calls + 1 => stream.next :: stream.next.stream.steps calls

example : ((Stream.ofSource "a @").steps 3).map (·.errors) =
    [[], [.illegalCharacter '@' 2 1], []] := by decide +kernel
example : (Stream.ofSource "a\n # b").next.stream.next.stream = ⟨" # b".toList, ⟨2, 2⟩⟩ := by
  decide +kernel

end MiniBasic.Lexical
