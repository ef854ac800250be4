import MiniBasic.Grammar.Rule

/-!
# Forms

A *form* says which words, lists of tokens, stand for which values.  What is left of a form after
a word is a form again (`Form.after`), so the rest of a rule can be compared with the rest of its
form.

An answer *fits* a form (`Fits`) in one of three ways.  A value comes with a word for it.  A
failure about a token comes with a word that goes on: each token that the failure names continues
it to a word of the form.  Where the nesting is too deep, nothing is said but how far the rule
came.  In all three, what was read and what is left make up the input.

So one walk over a rule gives two results.  What it reads is a word for its value, and where it
stops it could have gone on as its failure says.  `Fits.bind` is the step of the walk.  It asks
that every word of the first form goes on to a word of the whole.
-/

namespace MiniBasic.Token

/-! ## What a lexeme says -/

/-- Is this a keyword or a sign?  Their lexemes say all of them. -/
def isFixed : Token → Bool
  | name _ | number _ | str _ => false
  | _ => true

theorem eq_of_lexeme_eq {wanted found : Token} (isFixed : wanted.isFixed = true)
    (same : found.lexeme = wanted.lexeme) : found = wanted := by
  revert same
  cases wanted with
  | name | number | str => cases isFixed
  | _ => cases found <;> simp [lexeme]

end MiniBasic.Token

namespace MiniBasic.Grammar

variable {α β : Type}

/-! ## What an expectation names -/

/-- A token that would have been read where a failure stands.  A token is asked for by its lexeme,
so all tokens with this lexeme are named. -/
def Expectation.Names : Expectation → Token → Prop
  | token wanted, found => found.lexeme = wanted.lexeme
  | name, found => ∃ ident, found = .name ident
  | expression, found => found = .minus ∨ (∃ value, found = .number value) ∨
      ∃ ident, found = .name ident
  | comparison, found => found = .eqEq ∨ found = .greater ∨ found = .less
  | endOfInput, _ => False

/-- Where more input is wanted, some token is named. -/
theorem Expectation.exists_names {expected : Expectation} (more : expected ≠ .endOfInput) :
    ∃ token, expected.Names token := by
  cases expected with
  | token wanted => exact ⟨wanted, rfl⟩
  | name => exact ⟨.name "", "", rfl⟩
  | expression => exact ⟨.minus, Or.inl rfl⟩
  | comparison => exact ⟨.eqEq, Or.inl rfl⟩
  | endOfInput => exact absurd rfl more

/-! ## Forms and answers that fit them -/

/-- The words that stand for a value. -/
def Form (α : Type) : Type := α → List Token → Prop

/-- What is left of a form when a word is read. -/
def Form.after (form : Form α) (word : List Token) : Form α := fun a rest => form a (word ++ rest)

theorem Form.after_append (form : Form α) (first second : List Token) :
    form.after (first ++ second) = (form.after first).after second := by
  funext a rest
  rw [Form.after, Form.after, Form.after, List.append_assoc]

/-- An answer of a rule agrees with a form. -/
inductive Fits (form : Form α) : List Token → Except Failure α × List Token → Prop where
  /-- A word was read, and the value is its value. -/
  | done {a : α} (word : List Token) {rest : List Token} (isWord : form a word) :
    Fits form (word ++ rest) (.ok a, rest)
  /-- A word was begun, and each token that is named continues it. -/
  | stuck {expected : Expectation} {hint : Option Hint} (word : List Token) {rest : List Token}
    (more : expected ≠ .endOfInput)
    (goesOn : ∀ token, expected.Names token → ∃ a after, form a (word ++ token :: after)) :
    Fits form (word ++ rest) (.error (.unexpected expected hint), rest)
  /-- The nesting became too deep. -/
  | tooDeep (word : List Token) {rest : List Token} :
    Fits form (word ++ rest) (.error .tooDeep, rest)

/-- A value comes with a word for it. -/
theorem Fits.of_ok {form : Form α} {ahead rest : List Token} {a : α}
    (fits : Fits form ahead (.ok a, rest)) : ∃ word, ahead = word ++ rest ∧ form a word := by
  cases fits with
  | done word isWord => exact ⟨_, rfl, isWord⟩

/-- What a rule has read is a word for its value. -/
theorem Fits.exists_word {form : Form α} {rule : Rule α} {ahead left : List Token} {a : α}
    (fits : Fits form ahead (rule ahead)) (read : rule ahead = (.ok a, left)) :
    ∃ word, ahead = word ++ left ∧ form a word := by
  rw [read] at fits
  exact fits.of_ok

/-- A failure about a token comes with a word that goes on as the failure says. -/
theorem Fits.of_unexpected {form : Form α} {ahead rest : List Token} {expected : Expectation}
    {hint : Option Hint} (fits : Fits form ahead (.error (.unexpected expected hint), rest)) :
    expected ≠ .endOfInput ∧ ∃ word, ahead = word ++ rest ∧
      ∀ token, expected.Names token → ∃ a after, form a (word ++ token :: after) := by
  cases fits with
  | stuck word more goesOn => exact ⟨more, _, rfl, goesOn⟩

/-! ## Steps of a walk -/

variable {form : Form α} {whole : Form β} {ahead rest : List Token}

/-- An answer that fits what is left of a form fits the form. -/
theorem Fits.append (word : List Token) {answer : Except Failure α × List Token}
    (fits : Fits (form.after word) rest answer) : Fits form (word ++ rest) answer := by
  cases fits with
  | done word isWord =>
    rw [← List.append_assoc]
    exact .done _ isWord
  | stuck word more goesOn =>
    rw [← List.append_assoc]
    refine .stuck _ more fun token named => ?_
    obtain ⟨a, after, isWord⟩ := goesOn token named
    refine ⟨a, after, ?_⟩
    rw [List.append_assoc]
    exact isWord
  | tooDeep word =>
    rw [← List.append_assoc]
    exact .tooDeep _

/-- A larger form is fitted too. -/
theorem Fits.mono {larger : Form α} {answer : Except Failure α × List Token}
    (fits : Fits form ahead answer) (subset : ∀ a word, form a word → larger a word) :
    Fits larger ahead answer := by
  cases fits with
  | done word isWord => exact .done word (subset _ _ isWord)
  | stuck word more goesOn =>
    refine .stuck _ more fun token named => ?_
    obtain ⟨a, after, isWord⟩ := goesOn token named
    exact ⟨a, after, subset _ _ isWord⟩
  | tooDeep word => exact .tooDeep word

/-- Nothing is read for a value whose word may end here. -/
theorem Fits.pure {a : α} (isWord : form a []) : Fits form ahead ((pure a : Rule α) ahead) :=
  .done [] isWord

/-- Nothing is read where the rule fails, and what it names could have come. -/
theorem Fits.unexpected {expected : Expectation} {hint : Option Hint}
    (more : expected ≠ .endOfInput)
    (goesOn : ∀ token, expected.Names token → ∃ a after, form a (token :: after)) :
    Fits form ahead (.error (.unexpected expected hint), ahead) :=
  .stuck [] more goesOn

/-- Nothing is read where the nesting is too deep. -/
theorem Fits.tooDeep_here : Fits form ahead ((Rule.tooDeep : Rule α) ahead) :=
  .tooDeep []

/-- One rule after another: the first reads a word that goes on, the second reads what is left. -/
theorem Fits.bind {rule : Rule α} {next : α → Rule β} (first : Fits form ahead (rule ahead))
    (goesOn : ∀ a word, form a word → ∃ b after, whole b (word ++ after))
    (second : ∀ a word rest, rule ahead = (.ok a, rest) → form a word →
      Fits (whole.after word) rest (next a rest)) :
    Fits whole ahead ((rule >>= next) ahead) := by
  rw [Rule.bind_apply]
  generalize rule ahead = answer at first second
  cases first with
  | done word isWord => exact .append word (second _ _ _ rfl isWord)
  | stuck word more named =>
    refine .stuck _ more fun token isNamed => ?_
    obtain ⟨a, after, isWord⟩ := named token isNamed
    obtain ⟨b, more, isWhole⟩ := goesOn a _ isWord
    refine ⟨b, after ++ more, ?_⟩
    rw [List.append_assoc] at isWhole
    exact isWhole
  | tooDeep word => exact .tooDeep word

/-- Where one keyword or sign is wanted, a failure names it and nothing else. -/
theorem Fits.wanted {token : Token} {hint : Option Hint} (isFixed : token.isFixed = true) :
    Fits (fun (_ : Unit) word => word = [token]) ahead
      (.error (.unexpected (.token token) hint), ahead) := by
  refine .unexpected (by simp) fun found named => ?_
  rw [Token.eq_of_lexeme_eq isFixed named]
  exact ⟨(), [], rfl⟩

/-- A given keyword or sign is read, or it is named. -/
theorem Fits.expect {token : Token} (isFixed : token.isFixed = true) :
    Fits (fun _ word => word = [token]) ahead (Rule.expect token ahead) := by
  rw [Rule.expect]
  by_cases found : ahead.head? = some token
  · rw [if_pos found]
    obtain ⟨rest, rfl⟩ := List.head?_eq_some_iff.mp found
    exact .done [token] rfl
  · rw [if_neg found]
    exact .wanted isFixed

/-- A name is read, or a name is asked for. -/
theorem Fits.expectName :
    Fits (fun ident word => word = [.name ident]) ahead (Rule.expectName ahead) := by
  unfold Rule.expectName
  split
  next ident rest => exact .done [.name ident] rfl
  next =>
    refine .unexpected (by simp) ?_
    rintro _ ⟨ident, rfl⟩
    exact ⟨ident, [], rfl⟩

/-- A given keyword or sign and then what is left of the form. -/
theorem Fits.expect_bind {token : Token} {next : Unit → Rule β} (isFixed : token.isFixed = true)
    (goesOn : ∃ b after, whole b (token :: after))
    (second : ∀ rest, Fits (whole.after [token]) rest (next () rest)) :
    Fits whole ahead ((Rule.expect token >>= next) ahead) := by
  refine .bind (.expect isFixed) ?_ ?_
  · rintro _ _ rfl
    exact goesOn
  · rintro _ _ rest _ rfl
    exact second rest

end MiniBasic.Grammar
