import MiniBasic.Proofs.Lexical.Lexeme

/-!
# Reading by the longest match

What the reader cuts off a source, by what the rules say on their own.  A piece comes *first* in
front of a rest (`Piece.IsFirst`) in one of four ways: it is passed over, it is a token and the
longest text that any rule takes, it is such a run of digits whose value is too large, or it is a
character with which nothing begins that any rule takes.

Reading finds the piece that comes first, and only that one (`Piece.first_eq_iff`).  So the pieces
of a source are the only ones that make it up and of which each comes first
(`pieces_eq_iff`), and a statement about reading needs only to exhibit pieces.
-/

namespace MiniBasic.Lexical

variable {c d : Char} {cs text rest : List Char} {found : Token}

/-! ## What comes first -/

/-- Is a text passed over in front of a rest?  It is one blank or end of line, or a comment that
goes on to the end of its line. -/
inductive Passed (rest : List Char) : List Char → Prop where
  | blank {c : Char} : isGapChar c = true → Passed rest [c]
  | comment {text : List Char} : (∀ c ∈ text, isCommentPart c = true) →
      (∀ d ∈ rest.head?, d = '\n') → Passed rest ('#' :: text)

namespace Piece

/-- Does a piece come first in front of a rest, by the rules for words? -/
def IsFirst (rest : List Char) : Piece → Prop
  | gap text => Passed rest text
  | token text found => Lexeme text found ∧ IsLongest text rest
  | oversized digits => IsDigits digits ∧ numberBound ≤ decimalValue digits ∧ IsLongest digits rest
  | illegal ch => ∀ text, text ≠ [] → text <+: ch :: rest → ¬ IsTaken text

end Piece

/-! ## Runs -/

/-- Where a run is followed by no character of its class, it is cut off as a whole. -/
theorem takeWhile_append_of_stop {p : Char → Bool} (run : ∀ d ∈ cs, p d = true)
    (stop : ∀ d ∈ rest.head?, p d = false) :
    (cs ++ rest).takeWhile p = cs ∧ (cs ++ rest).dropWhile p = rest := by
  rw [List.takeWhile_append_of_pos run, List.dropWhile_append_of_pos run]
  cases rest with
  | nil => simp
  | cons d rest => simp [stop d rfl]

theorem stop_dropWhile (p : Char → Bool) (cs : List Char) :
    ∀ d ∈ (cs.dropWhile p).head?, p d = false := by
  intro d isNext
  have stops := List.head?_dropWhile_not p cs
  rw [isNext] at stops
  exact stops

theorem forall_mem_takeWhile (p : Char → Bool) (cs : List Char) :
    ∀ d ∈ cs.takeWhile p, p d = true :=
  List.all_eq_true.mp List.all_takeWhile

/-- A run is the longest text that is taken if it is followed by no character of its class. -/
theorem isLongest_run_iff {part : Char → Bool} (run : runOf c = some part)
    (parts : ∀ d ∈ cs, part d = true) :
    IsLongest (c :: cs) rest ↔ ∀ d ∈ rest.head?, part d = false := by
  rw [isLongest_iff (isTaken_of_runOf run parts) (List.cons_ne_nil _ _)]
  refine forall₂_congr fun d _ => ?_
  rw [List.cons_append, isTaken_cons_iff, isTail_of_runOf run, List.forall_mem_append,
    List.forall_mem_singleton, and_iff_right parts, Bool.not_eq_true]

/-- The longest run of digits goes on no further. -/
theorem IsDigits.stop (digits : IsDigits text) (longest : IsLongest text rest) :
    ∀ d ∈ rest.head?, d.isDigit = false := by
  obtain ⟨c, cs, rfl⟩ := List.exists_cons_of_ne_nil digits.1
  obtain ⟨isDigit, parts⟩ := List.forall_mem_cons.mp digits.2
  exact (isLongest_run_iff (runOf_of_isDigit isDigit) parts).mp longest

namespace Piece

/-! ## One equation for each sort of first character -/

theorem first_gap (gap : isGapChar c = true) (cs : List Char) :
    first c cs = (.gap [c], cs) := if_pos gap

theorem first_hash (cs : List Char) :
    first '#' cs = (gap ('#' :: cs.takeWhile isCommentPart), cs.dropWhile isCommentPart) := rfl

theorem first_word (start : isNameStart c = true) (cs : List Char) :
    first c cs = (token (c :: cs.takeWhile isNamePart) (wordToken (c :: cs.takeWhile isNamePart)),
      cs.dropWhile isNamePart) := by
  obtain ⟨noGap, noHash⟩ := isSkippedStart_eq_false_iff.mp (isSkippedStart_of_isNameStart start)
  simp [first, noGap, noHash, start]

theorem first_digits (digit : c.isDigit = true) (cs : List Char) :
    first c cs = (ofDigits (c :: cs.takeWhile Char.isDigit), cs.dropWhile Char.isDigit) := by
  obtain ⟨noGap, noHash⟩ := isSkippedStart_eq_false_iff.mp (isSkippedStart_of_isDigit digit)
  simp [first, noGap, noHash, isNameStart_of_isDigit digit, digit]

theorem first_quote (cs : List Char) : first '"' cs = afterQuote cs := rfl

theorem first_sign (noRun : runOf c = none) (noQuote : c ≠ '"') (cs : List Char) :
    first c cs = sign c cs := by
  obtain ⟨noSkip, noStart, noDigit⟩ := runOf_eq_none_iff.mp noRun
  obtain ⟨noGap, noHash⟩ := isSkippedStart_eq_false_iff.mp noSkip
  simp [first, noGap, noHash, noStart, noDigit, noQuote]

/-- A quote that is closed on its line starts a string. -/
theorem afterQuote_closed (quotable : ∀ d ∈ cs, isQuotable d = true) (rest : List Char) :
    afterQuote (cs ++ '"' :: rest) =
      (token ('"' :: cs ++ ['"']) (.str (String.ofList cs)), rest) := by
  have stop : ∀ d ∈ ('"' :: rest).head?, isQuotable d = false := by simp [isQuotable]
  obtain ⟨taken, left⟩ := takeWhile_append_of_stop quotable stop
  simp [afterQuote, taken, left]

/-- A quote that is not closed on its line is illegal. -/
theorem afterQuote_open (opened : ¬ ∃ inside rest, cs = inside ++ '"' :: rest ∧
    ∀ d ∈ inside, isQuotable d = true) : afterQuote cs = (illegal '"', cs) := by
  unfold afterQuote
  split
  next rest closed =>
    refine absurd ⟨cs.takeWhile isQuotable, rest, ?_, forall_mem_takeWhile _ _⟩ opened
    rw [← closed, List.takeWhile_append_dropWhile]
  next => rfl

/-- A sign of two characters goes before the one it starts with. -/
theorem sign_of_mem_pairs (isPair : ([c, d], found) ∈ pairs) (rest : List Char) :
    sign c (d :: rest) = (token [c, d] found, rest) := by
  simp only [pairs, List.mem_cons, Prod.mk.injEq, List.not_mem_nil, or_false] at isPair
  rcases isPair with ⟨same, rfl⟩ | ⟨same, rfl⟩
  · cases same
    rfl
  · cases same
    rfl

/-- A sign that does not begin another is read on its own. -/
theorem sign_of_mem_signs (isSign : (c, found) ∈ signs)
    (noPair : ∀ d ∈ cs.head?, ∀ found, ([c, d], found) ∉ pairs) :
    sign c cs = (token [c] found, cs) := by
  have isFound : ∀ entry ∈ signs, signs.lookup entry.1 = some entry.2 := by decide
  unfold sign
  split
  next rest => exact absurd (List.mem_cons_self ..) (noPair '>' rfl .arrow)
  next rest => exact absurd (List.mem_cons_of_mem _ (List.mem_cons_self ..)) (noPair '=' rfl .eqEq)
  next => simp only [isFound _ isSign]

/-- Any other character is illegal. -/
theorem sign_of_notMem_signs (noSign : ∀ found, (c, found) ∉ signs) :
    sign c cs = (illegal c, cs) := by
  unfold sign
  split
  next rest => exact absurd (by decide) (noSign .minus)
  next rest => exact absurd (by decide) (noSign .assign)
  next =>
    split
    next found isFound =>
      obtain ⟨before, after, isTable, -⟩ := List.lookup_eq_some_iff.mp isFound
      refine absurd ?_ (noSign found)
      rw [isTable]
      exact List.mem_append_right _ (List.mem_cons_self ..)
    next => rfl

/-! ## Reading finds what comes first -/

theorem isFirst_word (start : isNameStart c = true) (cs : List Char) :
    (first c cs).1.IsFirst (first c cs).2 := by
  rw [first_word start]
  refine ⟨lexeme_wordToken ⟨c, _, rfl, start, forall_mem_takeWhile _ _⟩, ?_⟩
  exact (isLongest_run_iff (runOf_of_isNameStart start) (forall_mem_takeWhile _ _)).mpr
    (stop_dropWhile _ _)

theorem isFirst_digits (digit : c.isDigit = true) (cs : List Char) :
    (first c cs).1.IsFirst (first c cs).2 := by
  have digits : IsDigits (c :: cs.takeWhile Char.isDigit) :=
    ⟨List.cons_ne_nil _ _, List.forall_mem_cons.mpr ⟨digit, forall_mem_takeWhile _ _⟩⟩
  have longest : IsLongest (c :: cs.takeWhile Char.isDigit) (cs.dropWhile Char.isDigit) :=
    (isLongest_run_iff (runOf_of_isDigit digit) (forall_mem_takeWhile _ _)).mpr (stop_dropWhile _ _)
  rw [first_digits digit, ofDigits]
  split
  next small => exact ⟨.number digits small, longest⟩
  next large => exact ⟨digits, Nat.not_lt.mp large, longest⟩

/-- A text between quotes is the longest that is taken. -/
theorem isLongest_str (quotable : ∀ d ∈ cs, isQuotable d = true) (rest : List Char) :
    IsLongest ('"' :: cs ++ ['"']) rest := by
  have taken : IsTaken ('"' :: cs ++ ['"']) := Or.inl ⟨_, .str quotable⟩
  refine (isLongest_iff taken (by simp)).mpr fun d _ longer => ?_
  exact (isTaken_cons_iff.mp taken).closed (isTaken_cons_iff.mp longer)

theorem isFirst_illegal_iff :
    (illegal c).IsFirst rest ↔ ∀ tail, tail <+: rest → ¬ IsTail c tail := by
  constructor
  · intro none tail isPrefix isTail
    refine none (c :: tail) (List.cons_ne_nil _ _) ?_ (isTaken_cons_iff.mpr isTail)
    exact List.cons_prefix_cons.mpr ⟨rfl, isPrefix⟩
  · intro none text some_text isPrefix taken
    obtain ⟨first, tail, rfl⟩ := List.exists_cons_of_ne_nil some_text
    obtain ⟨rfl, isBehind⟩ := List.cons_prefix_cons.mp isPrefix
    exact none tail isBehind (isTaken_cons_iff.mp taken)

/-- A quote is illegal if it is not closed on its line. -/
theorem isFirst_illegal_quote_iff : (illegal '"').IsFirst rest ↔
    ¬ ∃ inside after, rest = inside ++ '"' :: after ∧ ∀ d ∈ inside, isQuotable d = true := by
  rw [isFirst_illegal_iff]
  constructor
  · rintro none ⟨inside, after, rfl, quotable⟩
    refine none (inside ++ ['"']) ⟨after, by simp⟩ ⟨inside, rfl, quotable⟩
  · rintro opened _ ⟨after, rfl⟩ ⟨inside, rfl, quotable⟩
    exact opened ⟨inside, after, by simp, quotable⟩

theorem isFirst_quote (cs : List Char) : (first '"' cs).1.IsFirst (first '"' cs).2 := by
  rw [first_quote]
  by_cases closed : ∃ inside after, cs = inside ++ '"' :: after ∧ ∀ d ∈ inside, isQuotable d = true
  · obtain ⟨inside, after, rfl, quotable⟩ := closed
    rw [afterQuote_closed quotable]
    exact ⟨.str quotable, isLongest_str quotable after⟩
  · rw [afterQuote_open closed]
    exact isFirst_illegal_quote_iff.mpr closed

/-- A sign is the longest text that is taken if it does not begin a longer one. -/
theorem isLongest_sign_iff (isSign : (c, found) ∈ signs) :
    IsLongest [c] rest ↔ ∀ d ∈ rest.head?, ∀ found, ([c, d], found) ∉ pairs := by
  obtain ⟨noRun, noQuote⟩ := runOf_of_mem_signs isSign
  rw [isLongest_iff (Or.inl ⟨_, .sign isSign⟩) (List.cons_ne_nil _ _)]
  refine forall₂_congr fun d _ => ?_
  rw [List.singleton_append, isTaken_cons_iff, isTail_sign_iff noRun noQuote]
  simp

/-- No sign is longer than two characters. -/
theorem isLongest_pair (isPair : (text, found) ∈ pairs) (rest : List Char) :
    IsLongest text rest := by
  obtain ⟨c, next, _, rfl, isSign, -⟩ := exists_of_mem_pairs isPair
  obtain ⟨noRun, noQuote⟩ := runOf_of_mem_signs isSign
  refine (isLongest_iff (Or.inl ⟨_, .pair isPair⟩) (List.cons_ne_nil _ _)).mpr fun d _ longer => ?_
  rw [List.cons_append, isTaken_cons_iff, isTail_sign_iff noRun noQuote] at longer
  rcases longer with ⟨other, isPair⟩ | ⟨isNil, -⟩
  · obtain ⟨_, _, _, same, -⟩ := exists_of_mem_pairs isPair
    cases same
  · cases isNil

theorem isFirst_sign (noRun : runOf c = none) (noQuote : c ≠ '"') (cs : List Char) :
    (first c cs).1.IsFirst (first c cs).2 := by
  rw [first_sign noRun noQuote]
  by_cases pair : ∃ d ∈ cs.head?, ∃ found, ([c, d], found) ∈ pairs
  · obtain ⟨d, isNext, found, isPair⟩ := pair
    obtain ⟨rest, rfl⟩ := List.head?_eq_some_iff.mp isNext
    rw [sign_of_mem_pairs isPair]
    exact ⟨.pair isPair, isLongest_pair isPair rest⟩
  have noPair : ∀ d ∈ cs.head?, ∀ found, ([c, d], found) ∉ pairs := by
    intro d isNext found isPair
    exact pair ⟨d, isNext, found, isPair⟩
  by_cases single : ∃ found, (c, found) ∈ signs
  · obtain ⟨found, isSign⟩ := single
    rw [sign_of_mem_signs isSign noPair]
    exact ⟨.sign isSign, (isLongest_sign_iff isSign).mpr noPair⟩
  have noSign : ∀ found, (c, found) ∉ signs := fun found isSign => single ⟨found, isSign⟩
  rw [sign_of_notMem_signs noSign]
  refine isFirst_illegal_iff.mpr fun tail isPrefix isTail => ?_
  rcases (isTail_sign_iff noRun noQuote).mp isTail with ⟨found, isPair⟩ | ⟨-, found, isSign⟩
  · obtain ⟨_, _, found, same, isSign, -⟩ := exists_of_mem_pairs isPair
    cases same
    exact noSign found isSign
  · exact noSign found isSign

/-- Reading finds what comes first. -/
theorem isFirst_first (c : Char) (cs : List Char) : (first c cs).1.IsFirst (first c cs).2 := by
  by_cases gap : isGapChar c = true
  · rw [first_gap gap]
    exact .blank gap
  by_cases hash : c = '#'
  · subst hash
    rw [first_hash]
    refine .comment (forall_mem_takeWhile _ _) fun d isNext => ?_
    simpa [isCommentPart] using stop_dropWhile isCommentPart cs d isNext
  by_cases start : isNameStart c = true
  · exact isFirst_word start cs
  by_cases digit : c.isDigit = true
  · exact isFirst_digits digit cs
  by_cases quote : c = '"'
  · subst quote
    exact isFirst_quote cs
  · refine isFirst_sign (runOf_eq_none_iff.mpr ?_) quote cs
    simp [isSkippedStart, gap, hash, start, digit]

/-! ## Nothing else comes first -/

/-- What comes first is a text that some rule takes, or an illegal character. -/
theorem isTaken_of_isFirst {piece : Piece} (isFirst : piece.IsFirst rest)
    (legal : ∀ ch, piece ≠ illegal ch) : IsTaken piece.text := by
  cases piece with
  | gap text =>
    cases isFirst with
    | @blank c gap =>
      have someRun : runOf c ≠ none := by simp [runOf_eq_none_iff, isSkippedStart, gap]
      obtain ⟨part, run⟩ := Option.ne_none_iff_exists'.mp someRun
      exact isTaken_of_runOf run (by simp)
    | comment parts _ => exact Or.inr (Or.inr (.comment parts))
  | token text found => exact Or.inl ⟨found, isFirst.1⟩
  | oversized digits => exact Or.inr (Or.inl isFirst.1)
  | illegal ch => exact absurd rfl (legal ch)

theorem text_ne_nil_of_isFirst {piece : Piece} (isFirst : piece.IsFirst rest) :
    piece.text ≠ [] := by
  cases piece with
  | gap text => cases isFirst <;> exact List.cons_ne_nil _ _
  | token text found =>
    obtain ⟨c, cs, rfl, -⟩ := isFirst.1.exists_cons
    exact List.cons_ne_nil c cs
  | oversized digits => exact isFirst.1.1
  | illegal ch => exact List.cons_ne_nil ch []

/-- No piece goes over the end of a line, unless it is one. -/
theorem feed_notMem_of_isFirst {piece : Piece} (isFirst : piece.IsFirst rest)
    (noFeed : piece.isFeed = false) : '\n' ∉ piece.text := by
  intro isIn
  cases piece with
  | gap text =>
    cases isFirst with
    | blank gap =>
      rw [← List.mem_singleton.mp isIn] at noFeed
      cases noFeed
    | comment parts _ =>
      rcases List.mem_cons.mp isIn with isHash | isPart
      · cases isHash
      · cases parts '\n' isPart
  | token text token => exact isFirst.1.feed_notMem isIn
  | oversized digits => exact absurd (isFirst.1.2 '\n' isIn) (by decide)
  | illegal ch =>
    -- nothing that some rule takes begins with an illegal character
    rw [← List.mem_singleton.mp isIn] at isFirst
    refine isFirst ['\n'] (List.cons_ne_nil _ _) ⟨rest, rfl⟩ ?_
    exact Or.inr (Or.inr (.newlines (List.cons_ne_nil _ _) (by simp)))

theorem feed_notMem_of_isWrong {piece : Piece} (isFirst : piece.IsFirst rest)
    (wrong : piece.isWrong = true) : '\n' ∉ piece.text := by
  refine feed_notMem_of_isFirst isFirst (Bool.eq_false_iff.mpr fun feed => ?_)
  rw [isFeed_iff.mp feed] at wrong
  cases wrong

theorem first_eq_of_word (word : IsWord text) (longest : IsLongest text rest)
    (whole : text ++ rest = c :: cs) : first c cs = (token text (wordToken text), rest) := by
  obtain ⟨start, tail, rfl, isStart, parts⟩ := word
  rw [List.cons_append] at whole
  obtain ⟨rfl, rfl⟩ := List.cons.inj whole
  have stop := (isLongest_run_iff (runOf_of_isNameStart isStart) parts).mp longest
  obtain ⟨taken, left⟩ := takeWhile_append_of_stop parts stop
  rw [first_word isStart, taken, left]

theorem first_eq_of_digits (digits : IsDigits text) (longest : IsLongest text rest)
    (whole : text ++ rest = c :: cs) : first c cs = (ofDigits text, rest) := by
  have stop := digits.stop longest
  obtain ⟨start, tail, rfl⟩ := List.exists_cons_of_ne_nil digits.1
  rw [List.cons_append] at whole
  obtain ⟨rfl, rfl⟩ := List.cons.inj whole
  obtain ⟨isDigit, parts⟩ := List.forall_mem_cons.mp digits.2
  obtain ⟨taken, left⟩ := takeWhile_append_of_stop parts stop
  rw [first_digits isDigit, taken, left]

/-- The longest text that is taken is read as the token it stands for. -/
theorem first_eq_of_lexeme (lexeme : Lexeme text found) (longest : IsLongest text rest)
    (whole : text ++ rest = c :: cs) : first c cs = (token text found, rest) := by
  cases lexeme with
  | keyword isKeyword =>
    have isWord := isWord_of_mem_keywords isKeyword
    have isFound : ∀ entry ∈ keywords, wordToken entry.1 = entry.2 := by decide
    rw [first_eq_of_word isWord longest whole, isFound _ isKeyword]
  | pair isPair =>
    obtain ⟨start, next, _, rfl, isSign, -⟩ := exists_of_mem_pairs isPair
    obtain ⟨rfl, rfl⟩ := List.cons.inj whole
    obtain ⟨noRun, noQuote⟩ := runOf_of_mem_signs isSign
    rw [first_sign noRun noQuote]
    exact sign_of_mem_pairs isPair rest
  | sign isSign =>
    obtain ⟨rfl, rfl⟩ := List.cons.inj whole
    obtain ⟨noRun, noQuote⟩ := runOf_of_mem_signs isSign
    rw [first_sign noRun noQuote]
    exact sign_of_mem_signs isSign ((isLongest_sign_iff isSign).mp longest)
  | name isWord noKeyword =>
    have isName : wordToken text = .name (String.ofList text) := by
      have notFound : keywords.lookup text = none := by
        refine List.lookup_eq_none_iff.mpr fun entry isEntry => ?_
        have other : text ≠ entry.1 := fun same => noKeyword (same ▸ List.mem_map_of_mem isEntry)
        simpa using other
      rw [wordToken, notFound, Option.getD_none]
    rw [first_eq_of_word isWord longest whole, isName]
  | number digits small => rw [first_eq_of_digits digits longest whole, ofDigits, if_pos small]
  | str quotable =>
    rw [List.cons_append, List.cons_append, List.append_assoc] at whole
    obtain ⟨rfl, rfl⟩ := List.cons.inj whole
    exact afterQuote_closed quotable rest

/-- What comes first is what is read. -/
theorem first_eq_of_isFirst {piece : Piece} (isFirst : piece.IsFirst rest)
    (whole : piece.text ++ rest = c :: cs) : first c cs = (piece, rest) := by
  cases piece with
  | gap text =>
    cases isFirst with
    | blank gap =>
      obtain ⟨rfl, rfl⟩ := List.cons.inj whole
      exact first_gap gap rest
    | comment parts stop =>
      rw [text, List.cons_append] at whole
      obtain ⟨rfl, rfl⟩ := List.cons.inj whole
      obtain ⟨taken, left⟩ := takeWhile_append_of_stop parts (by simpa [isCommentPart] using stop)
      rw [first_hash, taken, left]
  | token text found => exact first_eq_of_lexeme isFirst.1 isFirst.2 whole
  | oversized digits =>
    obtain ⟨isDigits, large, longest⟩ := isFirst
    rw [first_eq_of_digits isDigits longest whole, ofDigits, if_neg (Nat.not_lt.mpr large)]
  | illegal ch =>
    obtain ⟨rfl, rfl⟩ : ch = c ∧ rest = cs := List.cons.inj whole
    have isRead := isFirst_first ch rest
    have joined := text_first_append ch rest
    -- a legal piece would be a beginning that some rule takes
    by_cases legal : ∀ other, (first ch rest).1 ≠ illegal other
    · refine absurd (isTaken_of_isFirst isRead legal) (isFirst _ (text_first_ne_nil ch rest) ?_)
      exact ⟨_, joined⟩
    · obtain ⟨other, isIllegal⟩ := Classical.not_forall_not.mp legal
      rw [isIllegal] at joined
      obtain ⟨rfl, left⟩ : other = ch ∧ (first ch rest).2 = rest := List.cons.inj joined
      exact Prod.ext isIllegal left

/-- A piece is read exactly if it comes first. -/
theorem first_eq_iff {piece : Piece} : first c cs = (piece, rest) ↔
    piece.text ++ rest = c :: cs ∧ piece.IsFirst rest := by
  constructor
  · intro read
    have joined := text_first_append c cs
    have isFirst := isFirst_first c cs
    rw [read] at joined isFirst
    exact ⟨joined, isFirst⟩
  · rintro ⟨joined, isFirst⟩
    exact first_eq_of_isFirst isFirst joined

end Piece

/-! ## All pieces -/

/-- Does each of some pieces come first, in front of the texts of those after it? -/
def AllFirst : List Piece → Prop
  | [] => True
  | piece :: rest => piece.IsFirst (rest.flatMap Piece.text) ∧ AllFirst rest

theorem allFirst_pieces (text : List Char) : AllFirst (pieces text) := by
  fun_induction pieces text with
  | case1 => trivial
  | case2 c cs read ih =>
    refine ⟨?_, ih⟩
    rw [flatMap_text_pieces]
    exact Piece.isFirst_first c cs

theorem pieces_flatMap_text {ps : List Piece} (allFirst : AllFirst ps) :
    pieces (ps.flatMap Piece.text) = ps := by
  induction ps with
  | nil => exact pieces_nil
  | cons piece rest ih =>
    obtain ⟨isFirst, others⟩ := allFirst
    obtain ⟨c, cs, isText⟩ := List.exists_cons_of_ne_nil (Piece.text_ne_nil_of_isFirst isFirst)
    have whole : piece.text ++ rest.flatMap Piece.text = c :: (cs ++ rest.flatMap Piece.text) := by
      rw [isText, List.cons_append]
    rw [List.flatMap_cons, whole, pieces_cons, Piece.first_eq_of_isFirst isFirst whole, ih others]

/-- The pieces of a text are the only ones that make it up and of which each comes first. -/
theorem pieces_eq_iff {ps : List Piece} :
    pieces text = ps ↔ ps.flatMap Piece.text = text ∧ AllFirst ps := by
  constructor
  · rintro rfl
    exact ⟨flatMap_text_pieces text, allFirst_pieces text⟩
  · rintro ⟨rfl, allFirst⟩
    exact pieces_flatMap_text allFirst

end MiniBasic.Lexical
