import MiniBasic.Proofs.Grammar.Lookahead
import MiniBasic.Proofs.Grammar.Room
import MiniBasic.Proofs.Grammar.Words

/-!
# Programs

The three outcomes of a whole input, each with what it says about the input.

A statement is read exactly if the input is its tokens, it is shaped and its need is at most the
room (`program_ok_iff`).  The nesting is too deep if the input is the tokens of a shaped statement
that needs more (`program_tooDeep`).

Any other failure stands at the first token that cannot follow.  What was read before is the
beginning of a shaped statement (`viable_of_unexpected`), and it goes on as the failure says
(`goesOn_of_unexpected`).  No shaped statement begins with what was read and the token where the
rule stands, or ends there with the input (`ne_tokens_of_unexpected`).  This half needs no second
look at the grammar.  A statement that went on there would be read in a room as large as its need.
But the failure stays the same in a larger room and whatever comes behind the token.
-/

namespace MiniBasic.Grammar

/-- The beginning of a shaped statement. -/
def Viable (word : List Token) : Prop :=
  ∃ whole : Statement, whole.Shaped ∧ word <+: whole.tokens

/-! ## Statements that are read -/

theorem finish_eq_ok {ahead rest : List Token} (read : finish ahead = (.ok (), rest)) :
    ahead = [] ∧ rest = [] := by
  cases ahead with
  | nil =>
    cases read
    exact ⟨rfl, rfl⟩
  | cons token rest => cases token <;> cases read

/-- The end is wanted where it is not, and nothing is read for it. -/
theorem finish_eq_error {ahead rest : List Token} {failure : Failure}
    (failed : finish ahead = (.error failure, rest)) :
    (∃ hint, failure = .unexpected .endOfInput hint) ∧ rest = ahead := by
  cases ahead with
  | nil => cases failed
  | cons token rest =>
    cases token <;>
      · cases failed
        exact ⟨⟨_, rfl⟩, rfl⟩

/-- What is read as a program is the tokens of a shaped statement. -/
theorem tokens_of_program_ok {room : Nat} {ahead rest : List Token} {whole : Statement}
    (read : program room ahead = (.ok whole, rest)) : whole.Shaped ∧ ahead = whole.tokens := by
  obtain ⟨whole', middle, first, read⟩ := Rule.bind_eq_ok_iff.mp read
  obtain ⟨⟨⟩, last, finished, read⟩ := Rule.bind_eq_ok_iff.mp read
  obtain ⟨rfl, rfl⟩ := finish_eq_ok finished
  cases read
  obtain ⟨word, rfl, shaped, rfl⟩ := (fits_statement room ahead).exists_word first
  exact ⟨shaped, List.append_nil _⟩

/-- A program is read exactly if it is the tokens of a shaped statement for which the room is
enough. -/
theorem program_ok_iff {room : Nat} {ahead : List Token} {whole : Statement} :
    (program room ahead).1 = .ok whole ↔
      whole.Shaped ∧ ahead = whole.tokens ∧ whole.need ≤ room := by
  constructor
  · intro read
    obtain ⟨shaped, rfl⟩ := tokens_of_program_ok (Prod.ext read rfl : program room ahead = (_, _))
    refine ⟨shaped, rfl, Classical.byContradiction fun never => ?_⟩
    obtain ⟨left, deep⟩ := (readsIf_program room shaped).tooDeep never
    rw [deep] at read
    cases read
  · rintro ⟨shaped, rfl, enough⟩
    rw [(readsIf_program room shaped).ok enough]

/-- A shaped statement that needs more room than there is nests too deep. -/
theorem program_tooDeep {room : Nat} {whole : Statement} (shaped : whole.Shaped)
    (lacks : room < whole.need) : ∃ rest, program room whole.tokens = (.error .tooDeep, rest) :=
  (readsIf_program room shaped).tooDeep (Nat.not_le.mpr lacks)

/-! ## The first token that cannot follow -/

/-- Where a program fails about a token, it could have gone on as the failure says.  If the end is
wanted, what was read is a whole shaped statement.  Otherwise a shaped statement begins with what
was read and any of the tokens that are named. -/
theorem goesOn_of_unexpected {room : Nat} {ahead rest : List Token} {expected : Expectation}
    {hint : Option Hint}
    (failed : program room ahead = (.error (.unexpected expected hint), rest)) :
    ∃ word, ahead = word ++ rest ∧
      (expected = .endOfInput → ∃ whole : Statement, whole.Shaped ∧ word = whole.tokens) ∧
      ∀ token, expected.Names token → Viable (word ++ [token]) := by
  have fits := fits_statement room ahead
  rcases Rule.bind_eq_error_iff.mp failed with failed | ⟨whole, middle, first, failed⟩
  · rw [failed] at fits
    obtain ⟨more, word, isAhead, goesOn⟩ := fits.of_unexpected
    refine ⟨word, isAhead, fun isEnd => absurd isEnd more, fun token named => ?_⟩
    obtain ⟨whole, after, shaped, isWord⟩ := goesOn token named
    refine ⟨whole, shaped, after, ?_⟩
    rw [List.append_assoc]
    exact isWord
  · rw [first] at fits
    obtain ⟨word, isAhead, isWhole⟩ := fits.of_ok
    rcases Rule.bind_eq_error_iff.mp failed with failed | ⟨⟨⟩, last, -, failed⟩
    · obtain ⟨⟨hint', isEnd⟩, rfl⟩ := finish_eq_error failed
      cases isEnd
      exact ⟨word, isAhead, fun _ => ⟨whole, isWhole⟩, fun _ named => named.elim⟩
    · cases failed

/-- Where a program fails about a token, a shaped statement begins with what was read. -/
theorem viable_of_unexpected {room : Nat} {ahead rest : List Token} {expected : Expectation}
    {hint : Option Hint}
    (failed : program room ahead = (.error (.unexpected expected hint), rest)) :
    ∃ word, ahead = word ++ rest ∧ Viable word := by
  obtain ⟨word, isAhead, isWhole, goesOn⟩ := goesOn_of_unexpected failed
  refine ⟨word, isAhead, ?_⟩
  by_cases isEnd : expected = .endOfInput
  · obtain ⟨whole, shaped, rfl⟩ := isWhole isEnd
    exact ⟨whole, shaped, List.prefix_refl _⟩
  · obtain ⟨token, named⟩ := Expectation.exists_names isEnd
    obtain ⟨whole, shaped, begins⟩ := goesOn token named
    exact ⟨whole, shaped, (List.prefix_append word [token]).trans begins⟩

/-- No shaped statement goes on with the token where a program fails, or ends there. -/
theorem ne_tokens_of_unexpected {room : Nat} {word rest other : List Token}
    {expected : Expectation} {hint : Option Hint}
    (failed : program room (word ++ rest) = (.error (.unexpected expected hint), rest))
    (same : other.head? = rest.head?) {whole : Statement} (shaped : whole.Shaped) :
    word ++ other ≠ whole.tokens := by
  intro isWhole
  have le := Nat.le_max_left room whole.need
  obtain ⟨word', isWord, settled⟩ := settles_program le (word ++ rest)
  rw [failed] at isWord settled
  -- in the larger room the failure is the same, and the statement is read
  have fails := settled (by simp) other same
  rw [← List.append_cancel_right isWord, isWhole] at fails
  have reads := (readsIf_program _ shaped).ok (Nat.le_max_right room whole.need)
  rw [reads] at fails
  cases fails

/-- What was read and the token where a program fails begin no shaped statement. -/
theorem not_viable_of_unexpected {room : Nat} {word rest : List Token} {token : Token}
    {expected : Expectation} {hint : Option Hint}
    (failed : program room (word ++ token :: rest) =
      (.error (.unexpected expected hint), token :: rest)) :
    ¬ Viable (word ++ [token]) := by
  rintro ⟨whole, shaped, after, isWhole⟩
  rw [List.append_assoc] at isWhole
  have same : (token :: after).head? = (token :: rest).head? := rfl
  exact ne_tokens_of_unexpected failed same shaped isWhole

end MiniBasic.Grammar
