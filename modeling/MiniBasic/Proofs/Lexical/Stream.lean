import MiniBasic.Lexical.Stream
import MiniBasic.Proofs.Lexical.Coverage
import MiniBasic.Proofs.Lexical.Lines

/-!
# Reading call by call

A stream answers call by call with the tokens of its source in order.  Each call reports the errors
of the source that stand behind the last token and in front of the next, so no error is reported
twice.  Once a call is without a token, every later one is too, reports nothing and leaves the
stream where it is (`steps_eq_lex`).

What a stream has still to read is a scan (`Stream.scan`).  The step of the induction over the
calls says that this scan is what the next call answers, and behind it what the stream after the
call has still to read (`Stream.scan_next`).  It needs no account of where a stream stays, since
what a stream stays in front of adds nothing to a scan.  That later calls are silent does need it.
There the invariant is that only quiet pieces lie between the place where the stream would stay and
the place that was read (`Stream.quiet_nextFrom`).
-/

namespace MiniBasic.Lexical

variable {last stream : Stream} {place : Place} {rest : List Char} {piece : Piece}
  {located : Token.Located} {error : LexicalError}

/-! ## Scans in parts -/

theorem scanFrom_cons (place : Place) (piece : Piece) (ps : List Piece) :
    scanFrom place (piece :: ps) = Scan.append
      ⟨(Placed.ofPiece place piece).token?.toList, (Placed.ofPiece place piece).error?.toList⟩
      (scanFrom (place.after piece) ps) := by
  cases piece <;> rfl

/-- A token is no error. -/
theorem error?_of_token? {placed : Placed} (isToken : placed.token? = some located) :
    placed.error? = none := by
  obtain ⟨⟨text, isPiece⟩, -, -⟩ := piece_of_token? isToken
  rw [Placed.error?, isPiece]

/-- A quiet piece is neither a token nor an error. -/
theorem silent_of_isQuiet (quiet : piece.isQuiet = true) (place : Place) :
    (Placed.ofPiece place piece).token? = none ∧ (Placed.ofPiece place piece).error? = none := by
  cases piece with
  | gap text => exact ⟨rfl, rfl⟩
  | token _ _ => cases quiet
  | oversized _ => cases quiet
  | illegal _ => cases quiet

/-- A quiet piece adds nothing to a scan. -/
theorem scanFrom_cons_of_isQuiet (quiet : piece.isQuiet = true) (place : Place) (ps : List Piece) :
    scanFrom place (piece :: ps) = scanFrom (place.after piece) ps := by
  obtain ⟨noToken, noError⟩ := silent_of_isQuiet quiet place
  rw [scanFrom_cons, noToken, noError]
  rfl

theorem scanFrom_of_quiet {ps : List Piece} (quiet : ∀ piece ∈ ps, piece.isQuiet = true)
    (place : Place) : scanFrom place ps = ⟨[], []⟩ := by
  induction ps generalizing place with
  | nil => rfl
  | cons piece rest ih =>
    obtain ⟨isQuiet, others⟩ := List.forall_mem_cons.mp quiet
    rw [scanFrom_cons_of_isQuiet isQuiet, ih others]

/-- An error of a text has a character under its span. -/
theorem start_lt_stop_of_mem_errors (isError : error ∈ (scanFrom place (pieces rest)).errors) :
    error.span.start < error.span.stop := by
  obtain ⟨placed, isPlaced, isError⟩ := List.mem_filterMap.mp isError
  obtain ⟨before, piece, after, isList, rfl⟩ := mem_placePieces_iff.mp isPlaced
  have allFirst := allFirst_pieces rest
  rw [isList] at allFirst
  have holds := Text.byteLength_pos (Piece.text_ne_nil_of_isFirst allFirst.isFirst)
  rw [← (piece_of_error? isError).2.1]
  exact Nat.lt_add_of_pos_right holds

/-! ## One call -/

namespace Stream

/-- What a stream has still to read. -/
def scan (stream : Stream) : Scan := scanFrom stream.place (pieces stream.rest)

/-- The token and the errors of one answer, as a scan. -/
def Step.scan (step : Step) : Scan := ⟨step.token.toList, step.errors⟩

/-- Wherever a stream stays when it has read on over a piece, it has the same still to read. -/
theorem scan_past {after : Stream} (isPlace : after.place = place.after piece)
    (isScan : last.scan = scanFrom place (piece :: pieces after.rest)) :
    (last.past piece after).scan = after.scan := by
  unfold past
  split
  next quiet => rw [isScan, scanFrom_cons_of_isQuiet quiet, ← isPlace, scan]
  next => rfl

theorem scan_nextFrom (isScan : last.scan = scanFrom place (pieces rest)) :
    last.scan = (nextFrom last place rest).scan.append (nextFrom last place rest).stream.scan := by
  fun_induction nextFrom last place rest with
  | case1 last place => rfl
  | case2 last place c cs read placed after token isToken =>
    rw [isScan, pieces_cons, scanFrom_cons]
    show Scan.append ⟨placed.token?.toList, placed.error?.toList⟩ after.scan = _
    rw [isToken, error?_of_token? isToken]
    rfl
  | case3 last place c cs read placed after noToken step ih =>
    rw [pieces_cons] at isScan
    have same : (last.past read.1 after).scan = after.scan := scan_past rfl isScan
    rw [isScan, scanFrom_cons]
    show Scan.append ⟨placed.token?.toList, placed.error?.toList⟩ after.scan = _
    rw [noToken, ← same, ih same]
    simp [Scan.append, Step.scan, step]

/-- What a stream has still to read is what the next call answers, and then what the stream after
the call has still to read. -/
theorem scan_next (stream : Stream) :
    stream.scan = stream.next.scan.append stream.next.stream.scan :=
  scan_nextFrom rfl

/-! ## Where the answers stand -/

/-- A token that is answered stands behind the place that was read, holds a character, and the
stream goes on behind it. -/
theorem place_of_token (isToken : (nextFrom last place rest).token = some located) :
    place.offset ≤ located.span.start ∧ located.span.start < located.span.stop ∧
      (nextFrom last place rest).stream.place.offset = located.span.stop := by
  fun_induction nextFrom last place rest with
  | case1 last place => cases isToken
  | case2 last place c cs read placed after token isPlaced =>
    cases isToken
    have isSpan : placed.span = located.span := (piece_of_token? isPlaced).2.1
    have holds := Text.byteLength_pos (Piece.text_first_ne_nil c cs)
    rw [← isSpan]
    exact ⟨Nat.le_refl _, Nat.lt_add_of_pos_right holds, rfl⟩
  | case3 last place c cs read placed after noToken step ih =>
    obtain ⟨behind, holds, isPlace⟩ := ih isToken
    exact ⟨Nat.le_trans (Nat.le_add_right _ _) behind, holds, isPlace⟩

/-- The errors of a call stand in front of its token. -/
theorem stop_le_of_mem_errors (isToken : (nextFrom last place rest).token = some located)
    (isError : error ∈ (nextFrom last place rest).errors) :
    error.span.stop ≤ located.span.start := by
  fun_induction nextFrom last place rest with
  | case1 last place => cases isToken
  | case2 last place c cs read placed after token isPlaced => cases isError
  | case3 last place c cs read placed after noToken step ih =>
    rcases List.mem_append.mp isError with isHere | isLater
    · rw [← (piece_of_error? (Option.mem_toList.mp isHere)).2.1]
      exact (place_of_token isToken).1
    · exact ih isToken isLater

/-! ## After the end -/

/-- Only quiet pieces lie between where a stream stays and what is read. -/
def Lags (last : Stream) (rest : List Char) : Prop :=
  ∃ passed : List Piece, (∀ piece ∈ passed, piece.isQuiet = true) ∧
    pieces last.rest = passed ++ pieces rest

theorem Lags.refl (stream : Stream) : stream.Lags stream.rest :=
  ⟨[], List.forall_mem_nil _, rfl⟩

theorem Lags.past {c : Char} {cs : List Char} {after : Stream} (lags : last.Lags (c :: cs))
    (isAfter : after.rest = (Piece.first c cs).2) :
    (last.past (Piece.first c cs).1 after).Lags after.rest := by
  unfold Stream.past
  split
  next isQuiet =>
    obtain ⟨passed, quiet, isRest⟩ := lags
    refine ⟨passed ++ [(Piece.first c cs).1], ?_, ?_⟩
    · exact List.forall_mem_append.mpr ⟨quiet, List.forall_mem_singleton.mpr isQuiet⟩
    · rw [isRest, pieces_cons, isAfter, List.append_assoc]
      rfl
  next => exact .refl after

/-- A call without a token leaves only quiet pieces to read. -/
theorem quiet_nextFrom (noToken : (nextFrom last place rest).token = none)
    (lags : last.Lags rest) :
    ∀ piece ∈ pieces (nextFrom last place rest).stream.rest, piece.isQuiet = true := by
  fun_induction nextFrom last place rest with
  | case1 last place =>
    obtain ⟨passed, quiet, isRest⟩ := lags
    rw [isRest, pieces_nil, List.append_nil]
    exact quiet
  | case2 last place c cs read placed after token isToken => cases noToken
  | case3 last place c cs read placed after _ step ih => exact ih noToken (lags.past rfl)

/-- Where only quiet pieces are left, nothing is answered and the stream stays. -/
theorem nextFrom_of_quiet (quiet : ∀ piece ∈ pieces rest, piece.isQuiet = true) :
    nextFrom last place rest = ⟨none, [], last⟩ := by
  fun_induction nextFrom last place rest with
  | case1 last place => rfl
  | case2 last place c cs read placed after token isToken =>
    rw [pieces_cons] at quiet
    obtain ⟨noToken, -⟩ := silent_of_isQuiet (List.forall_mem_cons.mp quiet).1 place
    cases isToken.symm.trans noToken
  | case3 last place c cs read placed after _ step ih =>
    rw [pieces_cons] at quiet
    obtain ⟨isQuiet, others⟩ := List.forall_mem_cons.mp quiet
    have noError : placed.error? = none := (silent_of_isQuiet isQuiet place).2
    have stays : last.past read.1 after = last := if_pos isQuiet
    have isStep : step = ⟨none, [], last⟩ := (ih others).trans (by rw [stays])
    rw [isStep, noError]
    rfl

/-- After a call without a token, every call answers nothing and leaves the stream as it is. -/
theorem next_of_token_none (noToken : stream.next.token = none) :
    stream.next.stream.next = ⟨none, [], stream.next.stream⟩ ∧
      stream.next.stream.scan = ⟨[], []⟩ := by
  have quiet := quiet_nextFrom noToken (.refl stream)
  exact ⟨nextFrom_of_quiet quiet, scanFrom_of_quiet quiet _⟩

theorem steps_of_silent (silent : stream.next = ⟨none, [], stream⟩) (calls : Nat) :
    stream.steps calls = List.replicate calls ⟨none, [], stream⟩ := by
  induction calls with
  | zero => rfl
  | succ calls ih => rw [steps, silent, ih, List.replicate_succ]

end Stream

/-! ## Which call reports an error -/

/-- Does an error stand behind some tokens and in front of others? -/
def LexicalError.isBetween (error : LexicalError) (before after : List Token.Located) : Bool :=
  (before.all fun token => token.span.stop ≤ error.span.start) &&
    after.all fun token => error.span.stop ≤ token.span.start

/-- The errors of a scan that a call reports, by the number of calls before it: those behind the
tokens that were answered and in front of the others.  The first call without a token reports what
is left, and a later one nothing. -/
def Scan.errorsAt (scan : Scan) (call : Nat) : List LexicalError :=
  if scan.tokens.length < call then []
  else scan.errors.filter (·.isBetween (scan.tokens.take call) (scan.tokens.drop call))

theorem LexicalError.isBetween_iff {before after : List Token.Located} :
    error.isBetween before after = true ↔
      (∀ token ∈ before, token.span.stop ≤ error.span.start) ∧
        ∀ token ∈ after, error.span.stop ≤ token.span.start := by
  simp [isBetween]

/-- Errors in front of a token, and a scan of what stands behind it. -/
structure Parted (errors : List LexicalError) (token : Token.Located) (later : Scan) : Prop where
  holds : token.span.start < token.span.stop
  errors : ∀ error ∈ errors,
    error.span.start < error.span.stop ∧ error.span.stop ≤ token.span.start
  laterTokens : ∀ other ∈ later.tokens, token.span.stop ≤ other.span.start
  laterErrors : ∀ error ∈ later.errors,
    error.span.start < error.span.stop ∧ token.span.stop ≤ error.span.start

section

variable {errors : List LexicalError} {token : Token.Located} {later : Scan}

theorem Parted.errorsAt_zero (parted : Parted errors token later) :
    Scan.errorsAt ⟨token :: later.tokens, errors ++ later.errors⟩ 0 = errors := by
  have here : ∀ error ∈ errors, error.isBetween [] (token :: later.tokens) = true := by
    intro error isError
    have inFront := (parted.errors error isError).2
    have holds := parted.holds
    rw [LexicalError.isBetween_iff, List.forall_mem_cons]
    refine ⟨List.forall_mem_nil _, inFront, fun other isOther => ?_⟩
    have behind := parted.laterTokens other isOther
    omega
  have notLater : ∀ error ∈ later.errors, ¬ error.isBetween [] (token :: later.tokens) = true := by
    intro error isError
    obtain ⟨errorHolds, behind⟩ := parted.laterErrors error isError
    have holds := parted.holds
    rw [LexicalError.isBetween_iff, List.forall_mem_cons]
    omega
  show (errors ++ later.errors).filter (·.isBetween [] (token :: later.tokens)) = errors
  rw [List.filter_append, List.filter_eq_self.mpr here, List.filter_eq_nil_iff.mpr notLater,
    List.append_nil]

theorem Parted.errorsAt_succ (parted : Parted errors token later) (call : Nat) :
    Scan.errorsAt ⟨token :: later.tokens, errors ++ later.errors⟩ (call + 1) =
      later.errorsAt call := by
  have notHere : ∀ error ∈ errors, ¬ error.isBetween (token :: later.tokens.take call)
      (later.tokens.drop call) = true := by
    intro error isError
    obtain ⟨errorHolds, inFront⟩ := parted.errors error isError
    have holds := parted.holds
    rw [LexicalError.isBetween_iff, List.forall_mem_cons]
    omega
  have isLater : ∀ error ∈ later.errors, error.isBetween (token :: later.tokens.take call)
      (later.tokens.drop call) =
        error.isBetween (later.tokens.take call) (later.tokens.drop call) := by
    intro error isError
    have behind := (parted.laterErrors error isError).2
    simp [LexicalError.isBetween, behind]
  simp only [Scan.errorsAt, List.length_cons, Nat.add_lt_add_iff_right, List.take_succ_cons,
    List.drop_succ_cons]
  rw [List.filter_append, List.filter_eq_nil_iff.mpr notHere, List.filter_congr isLater,
    List.nil_append]

end

theorem Scan.errorsAt_of_noTokens {scan : Scan} (noTokens : scan.tokens = []) :
    scan.errorsAt 0 = scan.errors ∧ ∀ call, scan.errorsAt (call + 1) = [] := by
  simp [errorsAt, noTokens, LexicalError.isBetween]

/-! ## All calls -/

namespace Stream

theorem parted_next (isToken : stream.next.token = some located) :
    Parted stream.next.errors located stream.next.stream.scan := by
  obtain ⟨-, holds, isPlace⟩ := place_of_token isToken
  have allErrors : ∀ error ∈ stream.next.errors ++ stream.next.stream.scan.errors,
      error.span.start < error.span.stop := by
    intro error isError
    have isError : error ∈ stream.scan.errors := by
      rw [scan_next]
      exact isError
    exact start_lt_stop_of_mem_errors isError
  obtain ⟨errorsHold, laterHold⟩ := List.forall_mem_append.mp allErrors
  refine ⟨holds, fun error isError => ?_, fun other isOther => ?_, fun error isError => ?_⟩
  · exact ⟨errorsHold error isError, stop_le_of_mem_errors isToken isError⟩
  · exact isPlace ▸ le_start_of_mem_tokens isOther
  · exact ⟨laterHold error isError, isPlace ▸ le_start_of_mem_errors isError⟩

theorem scan_of_token (isToken : stream.next.token = some located) :
    stream.scan = ⟨located :: stream.next.stream.scan.tokens,
      stream.next.errors ++ stream.next.stream.scan.errors⟩ := by
  rw [scan_next, Step.scan, isToken]
  rfl

theorem scan_of_token_none (noToken : stream.next.token = none) :
    stream.scan = ⟨[], stream.next.errors⟩ := by
  rw [scan_next, Step.scan, noToken, (next_of_token_none noToken).2]
  simp [Scan.append]

/-- The next call answers what stands first in the scan. -/
theorem answer_zero (stream : Stream) :
    stream.scan.tokens[0]? = stream.next.token ∧ stream.scan.errorsAt 0 = stream.next.errors := by
  cases isToken : stream.next.token with
  | some token =>
    rw [scan_of_token isToken]
    exact ⟨rfl, (parted_next isToken).errorsAt_zero⟩
  | none =>
    rw [scan_of_token_none isToken]
    exact ⟨rfl, (Scan.errorsAt_of_noTokens rfl).1⟩

/-- The calls after the next one answer what stands further on. -/
theorem answer_succ (stream : Stream) (call : Nat) :
    stream.scan.tokens[call + 1]? = stream.next.stream.scan.tokens[call]? ∧
      stream.scan.errorsAt (call + 1) = stream.next.stream.scan.errorsAt call := by
  cases isToken : stream.next.token with
  | some token =>
    rw [scan_of_token isToken]
    exact ⟨rfl, (parted_next isToken).errorsAt_succ call⟩
  | none =>
    rw [scan_of_token_none isToken, (next_of_token_none isToken).2]
    refine ⟨rfl, ?_⟩
    rw [(Scan.errorsAt_of_noTokens rfl).2]
    simp [Scan.errorsAt]

theorem map_steps (stream : Stream) (calls : Nat) :
    (stream.steps calls).map (fun step => (step.token, step.errors)) =
      (List.range calls).map
        fun call => (stream.scan.tokens[call]?, stream.scan.errorsAt call) := by
  induction calls generalizing stream with
  | zero => rfl
  | succ calls ih =>
    rw [steps, List.map_cons, ih, List.range_succ_eq_map, List.map_cons, List.map_map,
      (answer_zero stream).1, (answer_zero stream).2]
    refine congrArg _ (List.map_congr_left fun call _ => ?_)
    exact Prod.ext (answer_succ stream call).1.symm (answer_succ stream call).2.symm

/-- The errors are reported in order, and all of them when the tokens are used up. -/
theorem flatMap_errors_steps (stream : Stream) (calls : Nat) :
    (stream.steps calls).flatMap (·.errors) <+: stream.scan.errors ∧
      (stream.scan.tokens.length < calls →
        (stream.steps calls).flatMap (·.errors) = stream.scan.errors) := by
  induction calls generalizing stream with
  | zero => exact ⟨List.nil_prefix, fun never => absurd never (Nat.not_lt_zero _)⟩
  | succ calls ih =>
    obtain ⟨reported, all⟩ := ih stream.next.stream
    rw [steps, List.flatMap_cons]
    cases isToken : stream.next.token with
    | some token =>
      rw [scan_of_token isToken, List.prefix_append_right_inj, List.append_right_inj]
      exact ⟨reported, fun enough => all (Nat.lt_of_succ_lt_succ enough)⟩
    | none =>
      rw [(next_of_token_none isToken).2, List.prefix_nil] at reported
      rw [scan_of_token_none isToken, reported, List.append_nil]
      exact ⟨List.prefix_refl _, fun _ => rfl⟩

end Stream

theorem nodup_errors (source : String) : (lex source).errors.Nodup := by
  refine (pairwise_errors .start (pieces source.toList)).imp_of_mem ?_
  rintro error other isError - before rfl
  have holds := start_lt_stop_of_mem_errors isError
  omega

/-- The calls of a stream answer with the tokens of its source, then with none, and each reports the
errors between the token before and its own; none is reported twice, and all are when the tokens are
used up.  After a call without a token, every call is without one, reports nothing and leaves the
stream as it is. -/
theorem steps_eq_lex (source : String) (calls : Nat) :
    let steps := (Stream.ofSource source).steps calls
    steps.map (fun step => (step.token, step.errors)) =
      (List.range calls).map
        (fun call => ((lex source).tokens[call]?, (lex source).errorsAt call)) ∧
    (steps.flatMap (·.errors)).Nodup ∧
    steps.flatMap (·.errors) <+: (lex source).errors ∧
    ((lex source).tokens.length < calls → steps.flatMap (·.errors) = (lex source).errors) ∧
    ∀ stream : Stream, stream.next.token = none → ∀ more,
      stream.next.stream.steps more = List.replicate more ⟨none, [], stream.next.stream⟩ := by
  intro steps
  obtain ⟨reported, all⟩ := Stream.flatMap_errors_steps (.ofSource source) calls
  refine ⟨Stream.map_steps _ calls, (nodup_errors source).sublist reported.sublist, reported, all,
    fun stream noToken => ?_⟩
  exact Stream.steps_of_silent (Stream.next_of_token_none noToken).1

/-- The call that finds no token reports `é`.  In front of blanks and a comment, every call leaves the
stream where it is. -/
theorem steps_eq_lex_comment :
    ((Stream.ofSource "@a é#").steps 3).map (fun step => (step.token, step.errors)) =
      [(some ⟨.name "a", ⟨1, 2⟩, 1⟩, [.illegalCharacter '@' 0 1]),
        (none, [.illegalCharacter 'é' 3 1]), (none, [])] ∧
    (lex "@a é#").tokens.length < 3 ∧
      ((Stream.ofSource "@a é#").steps 3).flatMap (·.errors) = (lex "@a é#").errors ∧
    (Stream.mk " # b".toList ⟨2, 2⟩).next.token = none ∧
      (Stream.mk " # b".toList ⟨2, 2⟩).next.stream.steps 2 =
        List.replicate 2 ⟨none, [], ⟨" # b".toList, ⟨2, 2⟩⟩⟩ := by
  obtain ⟨isMap, -, -, all, after⟩ := steps_eq_lex "@a é#" 3
  have isShort : (lex "@a é#").tokens.length < 3 := by decide +kernel
  have noToken : (Stream.mk " # b".toList ⟨2, 2⟩).next.token = none := by decide +kernel
  have stays : (Stream.mk " # b".toList ⟨2, 2⟩).next.stream = ⟨" # b".toList, ⟨2, 2⟩⟩ := by
    decide +kernel
  have silent := after _ noToken 2
  rw [stays] at silent
  refine ⟨isMap.trans ?_, isShort, all isShort, noToken, ?_⟩
  · decide +kernel
  · rw [stays]
    exact silent

end MiniBasic.Lexical
