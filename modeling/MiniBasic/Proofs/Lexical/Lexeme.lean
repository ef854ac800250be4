import MiniBasic.Lexical.Lexeme

/-!
# What the rules take

The rules for words and for what stands between them overlap: a keyword has the form of a name, and
one sign may begin another.  But the first character decides which of them can take a text at all.
Most of them take *runs*, a first character and then any number of one class (`runOf`).  The
others take a text between quotes, or a sign of one or two characters (`isTaken_cons_iff`).

So one character of lookahead is enough.  Whenever some rule takes more than a beginning that is
itself taken, some rule takes that beginning with just one more character
(`isTaken_concat`).  A beginning is thus the longest if the next character does not fit
(`isLongest_iff`).  A blank fits after no word, number or sign, and neither does the end of a line
(`not_isTaken_concat_gap`).
-/

namespace MiniBasic.Lexical

variable {c d : Char} {cs text rest : List Char} {token : Token}

/-! ## Runs -/

/-- The characters a run goes on with, if its first character starts one. -/
def runOf (c : Char) : Option (Char → Bool) :=
  if c = '\n' then some (· == '\n')
  else if isGapChar c then some fun d => isGapChar d && d != '\n'
  else if c = '#' then some isCommentPart
  else if isNameStart c then some isNamePart
  else if c.isDigit then some Char.isDigit
  else none

/-- Does a character start what is passed over? -/
def isSkippedStart (c : Char) : Bool := isGapChar c || c == '#'

theorem isSkippedStart_eq_false_iff :
    isSkippedStart c = false ↔ isGapChar c = false ∧ c ≠ '#' := by
  simp [isSkippedStart]

theorem forall_isSkippedStart {p : Char → Prop} :
    (∀ d, isSkippedStart d = true → p d) ↔ p ' ' ∧ p '\t' ∧ p '\r' ∧ p '\n' ∧ p '#' := by
  simp [isSkippedStart, isGapChar, or_imp, forall_and, and_assoc]

/-- What starts something that is passed over is none of a sort of characters that holds none. -/
theorem isSkippedStart_eq_false_of {sort : Char → Bool} (isSort : sort c = true)
    (none : ∀ d, isSkippedStart d = true → sort d = false) : isSkippedStart c = false := by
  rw [Bool.eq_false_iff]
  intro start
  rw [none c start] at isSort
  cases isSort

theorem isSkippedStart_of_isNameStart (start : isNameStart c = true) :
    isSkippedStart c = false :=
  isSkippedStart_eq_false_of start (forall_isSkippedStart.mpr (by decide))

theorem isSkippedStart_of_isDigit (digit : c.isDigit = true) : isSkippedStart c = false :=
  isSkippedStart_eq_false_of digit (forall_isSkippedStart.mpr (by decide))

theorem isNamePart_of_isNameStart (start : isNameStart c = true) : isNamePart c = true := by
  simp only [isNameStart, Bool.or_eq_true] at start
  rcases start with letter | line
  · simp [isNamePart, Char.isAlphanum, letter]
  · simp [isNamePart, line]

theorem isNameStart_of_isDigit (digit : c.isDigit = true) : isNameStart c = false := by
  have atMost : c.val ≤ '9'.val := of_decide_eq_true (Bool.and_eq_true_iff.mp digit).2
  rw [Bool.eq_false_iff]
  intro start
  rcases Bool.or_eq_true_iff.mp start with letter | line
  · rcases Bool.or_eq_true_iff.mp letter with upper | lower
    · have atLeast : 'A'.val ≤ c.val := (of_decide_eq_true upper).1
      exact absurd (UInt32.le_trans atLeast atMost) (by decide)
    · have atLeast : 'a'.val ≤ c.val := of_decide_eq_true (Bool.and_eq_true_iff.mp lower).1
      exact absurd (UInt32.le_trans atLeast atMost) (by decide)
  · rw [beq_iff_eq.mp line] at digit
    cases digit

theorem ne_of_isGapChar_eq_false (noGap : isGapChar c = false) : c ≠ '\n' := by
  intro feed
  rw [feed] at noGap
  cases noGap

theorem runOf_of_isNameStart (start : isNameStart c = true) : runOf c = some isNamePart := by
  obtain ⟨noGap, noHash⟩ := isSkippedStart_eq_false_iff.mp (isSkippedStart_of_isNameStart start)
  simp [runOf, ne_of_isGapChar_eq_false noGap, noGap, noHash, start]

theorem runOf_of_isDigit (digit : c.isDigit = true) : runOf c = some Char.isDigit := by
  obtain ⟨noGap, noHash⟩ := isSkippedStart_eq_false_iff.mp (isSkippedStart_of_isDigit digit)
  simp [runOf, ne_of_isGapChar_eq_false noGap, noGap, noHash, isNameStart_of_isDigit digit, digit]

theorem runOf_eq_none_iff : runOf c = none ↔
    isSkippedStart c = false ∧ isNameStart c = false ∧ c.isDigit = false := by
  rw [isSkippedStart_eq_false_iff]
  unfold runOf
  split
  next feed => simp [feed, isGapChar]
  next =>
  split
  next gap => simp [gap]
  next noGap =>
  split
  next hash => simp [hash]
  next noHash =>
  split
  next start => simp [start]
  next noStart =>
  split
  next digit => simp [digit]
  next noDigit => simp [noGap, noHash, noStart, noDigit]

/-! ## First characters -/

/-- May `cs` come after a first character `c` in a text that some rule takes? -/
def IsTail (c : Char) (cs : List Char) : Prop :=
  match runOf c with
  | some part => ∀ d ∈ cs, part d = true
  | none =>
    if c = '"' then ∃ inside, cs = inside ++ ['"'] ∧ ∀ d ∈ inside, isQuotable d = true
    else (∃ token, (c :: cs, token) ∈ pairs) ∨ cs = [] ∧ ∃ token, (c, token) ∈ signs

theorem isTail_of_runOf {part : Char → Bool} (run : runOf c = some part) :
    IsTail c cs ↔ ∀ d ∈ cs, part d = true := by
  rw [IsTail, run]

theorem isTail_sign_iff (noRun : runOf c = none) (noQuote : c ≠ '"') : IsTail c cs ↔
    (∃ token, (c :: cs, token) ∈ pairs) ∨ cs = [] ∧ ∃ token, (c, token) ∈ signs := by
  rw [IsTail, noRun, if_neg noQuote]

theorem isWord_of_mem_keywords (keyword : (text, token) ∈ keywords) : IsWord text := by
  have isKeyword : ∀ entry ∈ keywords, entry.1 ≠ [] ∧ entry.1.all isNameStart = true := by decide
  obtain ⟨some_text, starts⟩ := isKeyword _ keyword
  obtain ⟨c, cs, rfl⟩ := List.exists_cons_of_ne_nil some_text
  obtain ⟨start, others⟩ := List.forall_mem_cons.mp (List.all_eq_true.mp starts)
  exact ⟨c, cs, rfl, start, fun d isIn => isNamePart_of_isNameStart (others d isIn)⟩

/-- A word is read as a keyword if it is one, and otherwise as a name. -/
theorem lexeme_wordToken (word : IsWord text) : Lexeme text (wordToken text) := by
  unfold wordToken
  cases found : keywords.lookup text with
  | some token =>
    obtain ⟨before, after, isTable, -⟩ := List.lookup_eq_some_iff.mp found
    refine .keyword ?_
    rw [isTable]
    exact List.mem_append_right _ (List.mem_cons_self ..)
  | none =>
    refine .name word fun keyword => ?_
    obtain ⟨entry, isEntry, rfl⟩ := List.mem_map.mp keyword
    exact absurd (List.lookup_eq_none_iff.mp found entry isEntry) (by simp)

theorem IsWord.isTail (word : IsWord (c :: cs)) : IsTail c cs := by
  obtain ⟨_, _, same, start, parts⟩ := word
  cases same
  exact (isTail_of_runOf (runOf_of_isNameStart start)).mpr parts

theorem IsDigits.isTail (digits : IsDigits (c :: cs)) : IsTail c cs := by
  obtain ⟨first, others⟩ := List.forall_mem_cons.mp digits.2
  exact (isTail_of_runOf (runOf_of_isDigit first)).mpr others

/-- No sign starts a run or a string. -/
theorem runOf_of_mem_signs (sign : (c, token) ∈ signs) : runOf c = none ∧ c ≠ '"' := by
  have isSign : ∀ entry ∈ signs, runOf entry.1 = none ∧ entry.1 ≠ '"' := by decide
  exact isSign _ sign

/-- A longer sign goes on after a sign with one more character, which is not passed over. -/
theorem exists_of_mem_pairs (pair : (text, token) ∈ pairs) :
    ∃ c d found, text = [c, d] ∧ (c, found) ∈ signs ∧ isSkippedStart d = false := by
  simp only [pairs, List.mem_cons, Prod.mk.injEq, List.not_mem_nil, or_false] at pair
  rcases pair with ⟨rfl, -⟩ | ⟨rfl, -⟩
  · exact ⟨'-', '>', .minus, rfl, by decide, by decide⟩
  · exact ⟨'=', '=', .assign, rfl, by decide, by decide⟩

theorem isTail_of_mem_pairs (pair : (c :: cs, token) ∈ pairs) : IsTail c cs := by
  obtain ⟨_, _, _, same, sign, -⟩ := exists_of_mem_pairs pair
  cases same
  obtain ⟨noRun, noQuote⟩ := runOf_of_mem_signs sign
  exact (isTail_sign_iff noRun noQuote).mpr (Or.inl ⟨token, pair⟩)

theorem isTail_of_mem_signs (sign : (c, token) ∈ signs) : IsTail c [] := by
  obtain ⟨noRun, noQuote⟩ := runOf_of_mem_signs sign
  exact (isTail_sign_iff noRun noQuote).mpr (Or.inr ⟨rfl, token, sign⟩)

theorem Lexeme.isTail (lexeme : Lexeme (c :: cs) token) : IsTail c cs := by
  generalize isText : c :: cs = text at lexeme
  cases lexeme with
  | keyword keyword =>
    subst isText
    exact (isWord_of_mem_keywords keyword).isTail
  | pair pair =>
    subst isText
    exact isTail_of_mem_pairs pair
  | sign sign =>
    cases isText
    exact isTail_of_mem_signs sign
  | name word _ =>
    subst isText
    exact word.isTail
  | number digits _ =>
    subst isText
    exact digits.isTail
  | str quotable =>
    cases isText
    exact ⟨_, rfl, quotable⟩

theorem Skipped.isTail (skipped : Skipped (c :: cs)) : IsTail c cs := by
  generalize isText : c :: cs = text at skipped
  cases skipped with
  | blanks _ blank =>
    subst isText
    obtain ⟨⟨gap, noFeed⟩, others⟩ := List.forall_mem_cons.mp blank
    have run : runOf c = some fun d => isGapChar d && d != '\n' := by simp [runOf, noFeed, gap]
    exact (isTail_of_runOf run).mpr (by simpa using others)
  | newlines _ newline =>
    subst isText
    obtain ⟨rfl, others⟩ := List.forall_mem_cons.mp newline
    exact (isTail_of_runOf rfl).mpr (by simpa using others)
  | comment parts =>
    cases isText
    exact (isTail_of_runOf rfl).mpr parts

/-- A first character and the rest of its run are taken. -/
theorem isTaken_of_runOf {part : Char → Bool} (run : runOf c = some part)
    (parts : ∀ d ∈ cs, part d = true) : IsTaken (c :: cs) := by
  unfold runOf at run
  split at run
  next feed =>
    cases run
    refine Or.inr (Or.inr (.newlines (List.cons_ne_nil _ _) ?_))
    exact List.forall_mem_cons.mpr ⟨feed, by simpa using parts⟩
  next noFeed =>
  split at run
  next gap =>
    cases run
    refine Or.inr (Or.inr (.blanks (List.cons_ne_nil _ _) ?_))
    exact List.forall_mem_cons.mpr ⟨⟨gap, noFeed⟩, by simpa using parts⟩
  next =>
  split at run
  next hash =>
    cases run
    subst hash
    exact Or.inr (Or.inr (.comment parts))
  next =>
  split at run
  next start =>
    cases run
    exact Or.inl ⟨_, lexeme_wordToken ⟨c, cs, rfl, start, parts⟩⟩
  next =>
  split at run
  next digit =>
    cases run
    exact Or.inr (Or.inl ⟨List.cons_ne_nil _ _, List.forall_mem_cons.mpr ⟨digit, parts⟩⟩)
  next => cases run

/-- The first character of a text decides whether and how some rule takes it. -/
theorem isTaken_cons_iff : IsTaken (c :: cs) ↔ IsTail c cs := by
  constructor
  · rintro (⟨token, lexeme⟩ | digits | skipped)
    · exact lexeme.isTail
    · exact digits.isTail
    · exact skipped.isTail
  · intro tail
    unfold IsTail at tail
    split at tail
    next run => exact isTaken_of_runOf run tail
    next =>
      split at tail
      next quote =>
        subst quote
        obtain ⟨inside, rfl, quotable⟩ := tail
        exact Or.inl ⟨_, .str quotable⟩
      next =>
        rcases tail with ⟨token, pair⟩ | ⟨rfl, token, sign⟩
        · exact Or.inl ⟨token, .pair pair⟩
        · exact Or.inl ⟨token, .sign sign⟩

/-! ## One character of lookahead -/

/-- Nothing is taken beyond a text between quotes, as its last quote would stand inside. -/
theorem IsTail.closed (tail : IsTail '"' cs) : ¬ IsTail '"' (cs ++ d :: rest) := by
  obtain ⟨inside, rfl, -⟩ : ∃ inside, cs = inside ++ ['"'] ∧ ∀ d ∈ inside, isQuotable d = true :=
    tail
  rintro ⟨whole, same, quotable⟩
  have isInside : inside ++ ['"'] ++ (d :: rest).dropLast = whole := by
    rw [← List.dropLast_append_of_ne_nil (List.cons_ne_nil d rest), same, List.dropLast_concat]
  refine absurd (quotable '"' ?_) (by decide)
  rw [← isInside]
  simp

/-- What is taken beyond a text that is taken begins with one more character. -/
theorem isTaken_concat (taken : IsTaken text) (some_text : text ≠ [])
    (longer : IsTaken (text ++ d :: rest)) : IsTaken (text ++ [d]) := by
  obtain ⟨c, cs, rfl⟩ := List.exists_cons_of_ne_nil some_text
  rw [List.cons_append, isTaken_cons_iff] at longer ⊢
  rw [isTaken_cons_iff] at taken
  by_cases quote : c = '"'
  · subst quote
    exact absurd longer taken.closed
  unfold IsTail at longer ⊢
  cases run : runOf c with
  | some part =>
    simp only [run] at longer ⊢
    intro e isIn
    refine longer e ?_
    rcases List.mem_append.mp isIn with isIn | isIn
    · exact List.mem_append_left _ isIn
    · rw [List.mem_singleton.mp isIn]
      exact List.mem_append_right _ (List.mem_cons_self ..)
  | none =>
    simp only [run, quote, if_false] at longer ⊢
    refine Or.inl ?_
    rcases longer with ⟨token, pair⟩ | ⟨isNil, -⟩
    · obtain ⟨_, _, _, same, -⟩ := exists_of_mem_pairs pair
      have len := congrArg List.length same
      simp only [List.length_cons, List.length_append, List.length_nil] at len
      obtain rfl := List.length_eq_zero_iff.mp (show rest.length = 0 by omega)
      exact ⟨token, pair⟩
    · exact absurd isNil (by simp)

/-- A text that is taken is the longest that is if one more character does not fit. -/
theorem isLongest_iff (taken : IsTaken text) (some_text : text ≠ []) :
    IsLongest text rest ↔ ∀ d ∈ rest.head?, ¬ IsTaken (text ++ [d]) := by
  constructor
  · intro longest d isNext more
    obtain ⟨after, rfl⟩ := List.head?_eq_some_iff.mp isNext
    have atMost := longest _ ⟨after, by simp⟩ more
    rw [List.length_append] at atMost
    exact absurd atMost (Nat.not_succ_le_self _)
  · intro noMore longer isPrefix isTaken
    refine Nat.not_lt.mp fun isLonger => ?_
    obtain ⟨more, rfl⟩ :=
      List.prefix_of_prefix_length_le ⟨rest, rfl⟩ isPrefix (Nat.le_of_lt isLonger)
    rw [List.prefix_append_right_inj] at isPrefix
    cases more with
    | nil => simp at isLonger
    | cons d more =>
      obtain ⟨after, rfl⟩ := isPrefix
      exact noMore d rfl (isTaken_concat taken some_text isTaken)

/-! ## The ends of words -/

/-- A run that is not passed over is a word or a number. -/
theorem runOf_eq_some {part : Char → Bool} (run : runOf c = some part)
    (noSkip : isSkippedStart c = false) : part = isNamePart ∨ part = Char.isDigit := by
  obtain ⟨noGap, noHash⟩ := isSkippedStart_eq_false_iff.mp noSkip
  rw [runOf, if_neg (ne_of_isGapChar_eq_false noGap), if_neg (by simp [noGap]),
    if_neg noHash] at run
  split at run
  next => exact Or.inl (Option.some.inj run).symm
  next =>
    split at run
    next => exact Or.inr (Option.some.inj run).symm
    next => cases run

/-- A blank or the end of a line is neither in a word nor in a number. -/
theorem eq_false_of_runOf {part : Char → Bool} (run : runOf c = some part)
    (noSkip : isSkippedStart c = false) (gap : isGapChar d = true) : part d = false := by
  have skip : isSkippedStart d = true := by simp [isSkippedStart, gap]
  rcases runOf_eq_some run noSkip with rfl | rfl
  · exact forall_isSkippedStart (p := (isNamePart · = false)) |>.mpr (by decide) d skip
  · exact forall_isSkippedStart (p := (Char.isDigit · = false)) |>.mpr (by decide) d skip

/-- Once a word, a number or a sign has begun, no rule takes a blank or the end of a line, except
inside of quotes. -/
theorem not_isTaken_concat_gap (noSkip : isSkippedStart c = false) (gap : isGapChar d = true) :
    ¬ IsTaken (c :: cs ++ [d]) := by
  intro taken
  rw [List.cons_append, isTaken_cons_iff] at taken
  unfold IsTail at taken
  split at taken
  next part run =>
    have isPart := taken d (List.mem_append_right _ (List.mem_singleton_self d))
    rw [eq_false_of_runOf run noSkip gap] at isPart
    cases isPart
  next =>
    split at taken
    next =>
      obtain ⟨inside, same, -⟩ := taken
      obtain ⟨-, rfl⟩ := List.concat_inj.mp (by simpa using same)
      cases gap
    next =>
      rcases taken with ⟨token, pair⟩ | ⟨isNil, -⟩
      · obtain ⟨_, last, _, same, -, noSkip⟩ := exists_of_mem_pairs pair
        obtain ⟨-, isLast⟩ := List.append_inj' (show (c :: cs) ++ [d] = [_] ++ [last] from same) rfl
        cases isLast
        rw [(isSkippedStart_eq_false_iff.mp noSkip).1] at gap
        cases gap
      · exact absurd isNil (by simp)

theorem IsWord.exists_cons (word : IsWord text) :
    ∃ c cs, text = c :: cs ∧ isSkippedStart c = false := by
  obtain ⟨c, cs, isText, start, -⟩ := word
  exact ⟨c, cs, isText, isSkippedStart_of_isNameStart start⟩

theorem IsDigits.exists_cons (digits : IsDigits text) :
    ∃ c cs, text = c :: cs ∧ isSkippedStart c = false := by
  obtain ⟨c, cs, rfl⟩ := List.exists_cons_of_ne_nil digits.1
  exact ⟨c, cs, rfl, isSkippedStart_of_isDigit (digits.2 c (List.mem_cons_self ..))⟩

/-- What starts a word, a number, a sign or a string starts nothing that is passed over. -/
theorem Lexeme.exists_cons (lexeme : Lexeme text token) :
    ∃ c cs, text = c :: cs ∧ isSkippedStart c = false := by
  have ofSign : ∀ {c token}, (c, token) ∈ signs → isSkippedStart c = false := fun sign =>
    (runOf_eq_none_iff.mp (runOf_of_mem_signs sign).1).1
  cases lexeme with
  | keyword keyword => exact (isWord_of_mem_keywords keyword).exists_cons
  | name word _ => exact word.exists_cons
  | pair pair =>
    obtain ⟨c, d, _, isText, sign, -⟩ := exists_of_mem_pairs pair
    exact ⟨c, [d], isText, ofSign sign⟩
  | sign sign => exact ⟨_, [], rfl, ofSign sign⟩
  | number digits _ => exact digits.exists_cons
  | str _ => exact ⟨_, _, rfl, rfl⟩

/-- A word, a number or a sign is the longest text that is taken if a gap or nothing comes next. -/
theorem Lexeme.isLongest_of_gap (lexeme : Lexeme text token)
    (gap : ∀ d ∈ rest.head?, isGapChar d = true) : IsLongest text rest := by
  obtain ⟨c, cs, rfl, noSkip⟩ := lexeme.exists_cons
  refine (isLongest_iff (Or.inl ⟨token, lexeme⟩) (List.cons_ne_nil c cs)).mpr ?_
  intro d isNext
  exact not_isTaken_concat_gap noSkip (gap d isNext)

/-- Whether a text is the longest that is taken depends on the next character only. -/
theorem Lexeme.isLongest_of_head? {rest' : List Char} (lexeme : Lexeme text token)
    (longest : IsLongest text rest) (same : rest'.head? = rest.head?) : IsLongest text rest' := by
  obtain ⟨c, cs, rfl, -⟩ := lexeme.exists_cons
  have taken : IsTaken (c :: cs) := Or.inl ⟨token, lexeme⟩
  rw [isLongest_iff taken (List.cons_ne_nil c cs)] at longest ⊢
  rw [same]
  exact longest

/-- Nothing goes over the end of a line that begins with neither a blank nor a comment. -/
theorem IsTail.feed_notMem (tail : IsTail c cs) (noSkip : isSkippedStart c = false) :
    '\n' ∉ cs := by
  intro isIn
  unfold IsTail at tail
  split at tail
  next part run =>
    have isPart := tail '\n' isIn
    rw [eq_false_of_runOf run noSkip rfl] at isPart
    cases isPart
  next =>
    split at tail
    next =>
      obtain ⟨inside, rfl, quotable⟩ := tail
      rcases List.mem_append.mp isIn with isInside | isQuote
      · exact absurd (quotable _ isInside) (by decide)
      · exact absurd isQuote (by decide)
    next =>
      rcases tail with ⟨token, pair⟩ | ⟨rfl, -⟩
      · obtain ⟨_, last, _, same, -, noSkip⟩ := exists_of_mem_pairs pair
        cases same
        rw [← List.mem_singleton.mp isIn] at noSkip
        cases noSkip
      · cases isIn

/-- No word, number or sign goes over the end of a line. -/
theorem Lexeme.feed_notMem (lexeme : Lexeme text token) : '\n' ∉ text := by
  obtain ⟨c, cs, rfl, noSkip⟩ := lexeme.exists_cons
  intro isIn
  rcases List.mem_cons.mp isIn with rfl | isIn
  · cases noSkip
  · exact lexeme.isTail.feed_notMem noSkip isIn

end MiniBasic.Lexical
