import MiniBasic.Token

/-!
# Pieces of a source

Reading cuts a source into pieces.  A piece is a gap between words, a token, a run of digits whose
value does not fit in 64 bits, or a single character that no rule takes.  Tokens, runs of digits
and comments are as long as they can be; blanks and ends of line are cut off one by one.  A
character that no rule takes costs no more than itself: reading goes on just after it.

`Piece.first` reads one piece and returns what is left.  Nothing is lost
(`Piece.text_first_append`) and every piece holds a character, so `pieces` ends.
-/

namespace MiniBasic.Lexical

/-! ## Classes of characters -/

/-- The characters that only separate words. -/
def isGapChar (c : Char) : Bool := c == ' ' || c == '\t' || c == '\r' || c == '\n'

/-- May a name start with this character?  Names are ASCII. -/
def isNameStart (c : Char) : Bool := c.isAlpha || c == '_'

/-- May a name go on with this character? -/
def isNamePart (c : Char) : Bool := c.isAlphanum || c == '_'

/-- May this character stand between two quotes? -/
def isQuotable (c : Char) : Bool := c != '"' && c != '\n'

/-- Does a comment go on over this character? -/
def isCommentPart (c : Char) : Bool := c != '\n'

/-! ## Words -/

/-- The words that are not names. -/
def keywords : List (List Char × Token) :=
  [(['I', 'F'], .kwIf), (['T', 'H', 'E', 'N'], .kwThen), (['E', 'L', 'S', 'E'], .kwElse),
   (['F', 'O', 'R'], .kwFor), (['T', 'O'], .kwTo), (['F', 'U', 'N'], .kwFun)]

/-- The token of a word: a keyword if it is one, else a name. -/
def wordToken (word : List Char) : Token :=
  (keywords.lookup word).getD (.name (String.ofList word))

/-- The signs of one character. -/
def signs : List (Char × Token) :=
  [('>', .greater), ('<', .less), ('=', .assign), ('+', .plus), ('-', .minus), ('*', .star),
   ('/', .slash), ('(', .lparen), (')', .rparen), (',', .comma), (';', .semicolon)]

/-- The value of a run of decimal digits. -/
def decimalValue (digits : List Char) : Nat := Nat.ofDigitChars 10 digits 0

/-- A number that fits in 64 bits with a sign is less than this, the 63rd power of two. -/
def numberBound : Nat := 9223372036854775808

example : numberBound = 2 ^ 63 := rfl

/-! ## One piece -/

/-- What the reader cuts off a source in one step. -/
inductive Piece where
  /-- A blank, an end of line, or a comment without the end of its line. -/
  | gap (text : List Char)
  /-- A token and the text it was read from. -/
  | token (text : List Char) (token : Token)
  /-- A number too large for 64 bits. -/
  | oversized (digits : List Char)
  /-- A character that no rule takes. -/
  | illegal (ch : Char)
deriving DecidableEq

namespace Piece

/-- The part of the source that a piece covers. -/
def text : Piece → List Char
  | gap text => text
  | token text _ => text
  | oversized digits => digits
  | illegal ch => [ch]

/-- Is a piece one that is left out, with an error? -/
def isWrong : Piece → Bool
  | gap _ => false
  | token _ _ => false
  | oversized _ => true
  | illegal _ => true

/-- Is a piece the end of a line? -/
def isFeed : Piece → Bool
  | gap text => text == ['\n']
  | token _ _ => false
  | oversized _ => false
  | illegal _ => false

/-- The part of the source that a piece covers, or as many blanks as it has bytes if it is wrong. -/
def blanked (piece : Piece) : List Char :=
  if piece.isWrong then List.replicate (Text.byteLength piece.text) ' ' else piece.text

/-- A run of digits as a piece. -/
def ofDigits (digits : List Char) : Piece :=
  if decimalValue digits < numberBound then
    token digits (.number (Int64.ofNat (decimalValue digits)))
  else oversized digits

/-- Reads on after an opening quote.  A quote that is not closed on its line is illegal. -/
def afterQuote (cs : List Char) : Piece × List Char :=
  match cs.dropWhile isQuotable with
  | '"' :: rest =>
    let inside := cs.takeWhile isQuotable
    (token ('"' :: inside ++ ['"']) (.str (String.ofList inside)), rest)
  | _ => (illegal '"', cs)

/-- Reads a sign.  The two signs of two characters go before those they start with. -/
def sign (c : Char) (cs : List Char) : Piece × List Char :=
  match c, cs with
  | '-', '>' :: rest => (token ['-', '>'] .arrow, rest)
  | '=', '=' :: rest => (token ['=', '='] .eqEq, rest)
  | c, cs =>
    match signs.lookup c with
    | some found => (token [c] found, cs)
    | none => (illegal c, cs)

/-- Reads the first piece of a source that starts with `c`, and returns the rest of the source. -/
def first (c : Char) (cs : List Char) : Piece × List Char :=
  if isGapChar c then (gap [c], cs)
  else if c = '#' then (gap (c :: cs.takeWhile isCommentPart), cs.dropWhile isCommentPart)
  else if isNameStart c then
    let word := c :: cs.takeWhile isNamePart
    (token word (wordToken word), cs.dropWhile isNamePart)
  else if c.isDigit then
    (ofDigits (c :: cs.takeWhile Char.isDigit), cs.dropWhile Char.isDigit)
  else if c = '"' then afterQuote cs
  else sign c cs

theorem isFeed_iff {piece : Piece} : piece.isFeed = true ↔ piece = gap ['\n'] := by
  cases piece <;> simp [isFeed]

@[simp] theorem text_ofDigits (digits : List Char) : (ofDigits digits).text = digits := by
  unfold ofDigits
  split <;> rfl

theorem text_afterQuote_append (cs : List Char) :
    (afterQuote cs).1.text ++ (afterQuote cs).2 = '"' :: cs := by
  unfold afterQuote
  split
  · rename_i rest closed
    have whole := List.takeWhile_append_dropWhile (p := isQuotable) (l := cs)
    rw [closed] at whole
    simpa [text] using whole
  · rfl

theorem text_sign_append (c : Char) (cs : List Char) :
    (sign c cs).1.text ++ (sign c cs).2 = c :: cs := by
  unfold sign
  split
  · rfl
  · rfl
  · split <;> rfl

/-- A piece and what is left after it make up the source. -/
theorem text_first_append (c : Char) (cs : List Char) :
    (first c cs).1.text ++ (first c cs).2 = c :: cs := by
  unfold first
  split
  · rfl
  split
  · simp [text]
  split
  · simp [text]
  split
  · simp
  split
  · rename_i same
    subst same
    exact text_afterQuote_append cs
  · exact text_sign_append c cs

theorem text_afterQuote_ne_nil (cs : List Char) : (afterQuote cs).1.text ≠ [] := by
  unfold afterQuote
  split <;> simp [text]

theorem text_sign_ne_nil (c : Char) (cs : List Char) : (sign c cs).1.text ≠ [] := by
  unfold sign
  split
  · simp [text]
  · simp [text]
  · split <;> simp [text]

/-- Every piece holds a character. -/
theorem text_first_ne_nil (c : Char) (cs : List Char) : (first c cs).1.text ≠ [] := by
  unfold first
  split
  · simp [text]
  split
  · simp [text]
  split
  · simp [text]
  split
  · simp
  split
  · exact text_afterQuote_ne_nil cs
  · exact text_sign_ne_nil c cs

/-- What is left is no longer than the source after its first character. -/
theorem length_first_le (c : Char) (cs : List Char) : (first c cs).2.length ≤ cs.length := by
  have whole := congrArg List.length (text_first_append c cs)
  have some_text := List.length_pos_iff.2 (text_first_ne_nil c cs)
  simp only [List.length_append, List.length_cons] at whole
  omega

end Piece

/-! ## All pieces -/

/-- The pieces of a source, in order. -/
def pieces : List Char → List Piece
  | [] => []
  | c :: cs =>
    let read := Piece.first c cs
    read.1 :: pieces read.2
termination_by text => text.length
decreasing_by exact Nat.lt_succ_of_le (Piece.length_first_le c cs)

@[simp] theorem pieces_nil : pieces [] = [] := by
  rw [pieces]

theorem pieces_cons (c : Char) (cs : List Char) :
    pieces (c :: cs) = (Piece.first c cs).1 :: pieces (Piece.first c cs).2 := by
  rw [pieces]

/-- The pieces of a source make up the source. -/
theorem flatMap_text_pieces (text : List Char) : (pieces text).flatMap Piece.text = text := by
  fun_induction pieces text with
  | case1 => rfl
  | case2 c cs read ih =>
    rw [List.flatMap_cons, ih]
    exact Piece.text_first_append c cs

example : pieces ['a', '1', '-', '>', '"', 'x'] =
    [.token ['a', '1'] (.name "a1"), .token ['-', '>'] .arrow, .illegal '"',
     .token ['x'] (.name "x")] := by
  decide +kernel

end MiniBasic.Lexical
