import MiniBasic.Proofs.Lexical.Scan
import MiniBasic.Proofs.Reading.Layout
import MiniBasic.Proofs.Text.Quoted
import MiniBasic.Proofs.Text.Unstyled
import MiniBasic.Tree.Term
import MiniBasic.Tree.Tuple

/-!
# What is said of a bare source is bare

A source without escape characters is read to a tree or to errors, and what is printed of these
holds no escape character either.  Whatever is printed is made of fixed texts, numbers, and pieces
of the source: the texts of its tokens (`Lexical.bare_of_mem_tokens`) and what is wrong in it
(`Lexical.bare_of_mem_errors`).

As a tuple, a tree shows the texts of its tokens as they are.  As a term it needs no bare source,
since an escape character between quotes is written as its number (`Text.bare_quote`).
-/

namespace MiniBasic

open Text (Bare bare_append bare_intercalate bare_join bare_literal bare_ofList bare_pushn
  bare_singleton bare_toString)

/-! ## Numbers and quotes -/

/-- A number is written with digits and a sign. -/
theorem bare_decimal (value : Int64) : Bare (Token.decimal value) := by
  intro isIn
  rcases (signedValue_decimal value).2 _ isIn with isSign | isDigit
  · exact absurd isSign (by decide)
  · exact absurd isDigit (by decide)

namespace Text

theorem notMem_escape (c : Char) : '\x1b' ∉ escape c := by
  unfold escape
  split
  case h_7 =>
    split
    next =>
      have noDigit : ∀ k : Nat, k.digitChar ≠ '\x1b' := fun k => Nat.digitChar_ne _ (by decide)
      simp [numbered, notMem_toDigits noDigit]
    next seen =>
      rw [List.mem_singleton]
      rintro rfl
      exact seen (by decide)
  all_goals decide

theorem bare_quote (text : String) : Bare (quote text) := by
  rw [quote, bare_ofList, List.mem_append, List.mem_cons, List.mem_singleton, List.mem_flatMap]
  rintro ((isQuote | ⟨c, -, isIn⟩) | isQuote)
  · exact absurd isQuote (by decide)
  · exact notMem_escape c isIn
  · exact absurd isQuote (by decide)

end Text

/-! ## Terms -/

namespace Layout

theorem bare_indent (depth : Nat) : Bare (indent depth) :=
  bare_pushn (bare_literal rfl) (by decide) _

theorem bare_applied {head : String} {argument : Layout → String} (layout : Layout)
    (bare : Bare head) (inner : ∀ layout, Bare (argument layout)) :
    Bare (layout.applied head argument) := by
  cases layout with
  | line =>
    simp only [applied, bare_append, and_assoc]
    exact ⟨bare, bare_literal rfl, inner _, bare_literal rfl⟩
  | block depth =>
    simp only [applied, bare_append, and_assoc]
    exact ⟨bare, bare_literal rfl, bare_indent _, inner _, bare_literal rfl, bare_indent _,
      bare_literal rfl⟩

theorem bare_record {head : String} {fields : List (String × (Layout → String))} (layout : Layout)
    (bare : Bare head) (all : ∀ field ∈ fields, Bare field.1 ∧ ∀ layout, Bare (field.2 layout)) :
    Bare (layout.record head fields) := by
  cases layout with
  | line =>
    simp only [record, bare_append, and_assoc]
    refine ⟨bare, bare_literal rfl, bare_intercalate (bare_literal rfl) ?_, bare_literal rfl⟩
    refine List.forall_mem_map.mpr fun field isField => ?_
    simp only [bare_append, and_assoc]
    exact ⟨(all field isField).1, bare_literal rfl, (all field isField).2 _⟩
  | block depth =>
    simp only [record, bare_append, and_assoc]
    refine ⟨bare, bare_literal rfl, bare_join ?_, bare_indent _, bare_literal rfl⟩
    refine List.forall_mem_map.mpr fun field isField => ?_
    simp only [bare_append, and_assoc]
    exact ⟨bare_indent _, (all field isField).1, bare_literal rfl, (all field isField).2 _,
      bare_literal rfl⟩

end Layout

theorem Operator.bare_term (op : Operator) : Bare op.term := by
  cases op <;> exact bare_literal rfl

theorem Relation.bare_term (relation : Relation) : Bare relation.term := by
  cases relation <;> exact bare_literal rfl

theorem Expr.bare_term (expr : Expr) (layout : Layout) : Bare (expr.term layout) := by
  induction expr generalizing layout with
  | num value => exact layout.bare_applied (bare_literal rfl) fun _ => bare_decimal value
  | var name => exact layout.bare_applied (bare_literal rfl) fun _ => Text.bare_quote name
  | neg operand ih => exact layout.bare_applied (bare_literal rfl) ih
  | binary left op right ihLeft ihRight =>
    refine layout.bare_record (bare_literal rfl) ?_
    rw [List.forall_mem_cons, List.forall_mem_cons, List.forall_mem_singleton]
    exact ⟨⟨bare_literal rfl, ihLeft⟩, ⟨bare_literal rfl, fun _ => op.bare_term⟩,
      bare_literal rfl, ihRight⟩

theorem Value.bare_term (value : Value) (layout : Layout) : Bare (value.term layout) := by
  cases value with
  | expr body => exact layout.bare_applied (bare_literal rfl) body.bare_term
  | str text => exact layout.bare_applied (bare_literal rfl) fun _ => Text.bare_quote text

theorem Assignment.bare_term (assignment : Assignment) (layout : Layout) :
    Bare (assignment.term layout) := by
  refine layout.bare_record (bare_literal rfl) ?_
  rw [List.forall_mem_cons, List.forall_mem_singleton]
  exact ⟨⟨bare_literal rfl, fun _ => Text.bare_quote _⟩,
    bare_literal rfl, assignment.value.bare_term⟩

theorem Condition.bare_term (condition : Condition) (layout : Layout) :
    Bare (condition.term layout) := by
  refine layout.bare_record (bare_literal rfl) ?_
  rw [List.forall_mem_cons, List.forall_mem_cons, List.forall_mem_singleton]
  exact ⟨⟨bare_literal rfl, fun _ => condition.relation.bare_term⟩,
    ⟨bare_literal rfl, condition.left.bare_term⟩, bare_literal rfl, condition.right.bare_term⟩

theorem Statement.bare_term (whole : Statement) (layout : Layout) : Bare (whole.term layout) := by
  induction whole generalizing layout with
  | empty => exact bare_literal rfl
  | expr body => exact layout.bare_applied (bare_literal rfl) body.bare_term
  | assign setup => exact layout.bare_applied (bare_literal rfl) setup.bare_term
  | ifElse condition thenBranch elseBranch ihThen ihElse =>
    refine layout.bare_record (bare_literal rfl) ?_
    rw [List.forall_mem_cons, List.forall_mem_cons, List.forall_mem_singleton]
    exact ⟨⟨bare_literal rfl, condition.bare_term⟩, ⟨bare_literal rfl, ihThen⟩,
      bare_literal rfl, ihElse⟩
  | forLoop setup bound body ih =>
    refine layout.bare_record (bare_literal rfl) ?_
    rw [List.forall_mem_cons, List.forall_mem_cons, List.forall_mem_singleton]
    exact ⟨⟨bare_literal rfl, setup.bare_term⟩, ⟨bare_literal rfl, bound.bare_term⟩,
      bare_literal rfl, ih⟩
  | funDef name body ih =>
    refine layout.bare_record (bare_literal rfl) ?_
    rw [List.forall_mem_cons, List.forall_mem_singleton]
    exact ⟨⟨bare_literal rfl, fun _ => Text.bare_quote name⟩, bare_literal rfl, ih⟩
  | funCall name =>
    refine layout.bare_record (bare_literal rfl) ?_
    rw [List.forall_mem_singleton]
    exact ⟨bare_literal rfl, fun _ => Text.bare_quote name⟩

/-! ## Tuples -/

theorem bare_ticked {text : String} (bare : Bare text) : Bare (ticked text) := by
  simp only [ticked, bare_append, and_assoc]
  exact ⟨bare_literal rfl, bare, bare_literal rfl⟩

theorem bare_tupleOf {tag : String} {parts : List String} (bare : Bare tag)
    (all : ∀ part ∈ parts, Bare part) : Bare (tupleOf tag parts) := by
  have row : Bare (", ".intercalate (ticked tag :: parts)) :=
    bare_intercalate (bare_literal rfl) (List.forall_mem_cons.mpr ⟨bare_ticked bare, all⟩)
  simp only [tupleOf, bare_append, and_assoc]
  exact ⟨bare_literal rfl, row, bare_literal rfl⟩

theorem Operator.bare_tag (op : Operator) : Bare op.tag := by
  cases op <;> exact bare_literal rfl

theorem Relation.bare_tag (relation : Relation) : Bare relation.tag := by
  cases relation <;> exact bare_literal rfl

theorem Expr.bare_tuple {expr : Expr} (bare : ∀ token ∈ expr.tokens, Bare token.text) :
    Bare expr.tuple := by
  induction expr with
  | num value => exact bare_tupleOf (bare_literal rfl) (by simp [bare_decimal])
  | var name =>
    have isName : Bare name := bare (.name name) List.mem_cons_self
    exact bare_tupleOf (bare_literal rfl) (by simp [bare_ticked isName])
  | neg operand ih =>
    have inOperand := ih (List.forall_mem_cons.mp bare).2
    exact bare_tupleOf (bare_literal rfl) (by simp [inOperand])
  | binary left op right ihLeft ihRight =>
    obtain ⟨inLeft, others⟩ := List.forall_mem_append.mp bare
    have inRight := (List.forall_mem_cons.mp others).2
    exact bare_tupleOf op.bare_tag (by simp [ihLeft inLeft, ihRight inRight])

theorem Value.bare_tuple {value : Value} (bare : ∀ token ∈ value.tokens, Bare token.text) :
    Bare value.tuple := by
  cases value with
  | expr body => exact Expr.bare_tuple bare
  | str text => exact bare_ticked (bare (.str text) List.mem_cons_self)

theorem Assignment.bare_tuple {assignment : Assignment}
    (bare : ∀ token ∈ assignment.tokens, Bare token.text) : Bare assignment.tuple := by
  obtain ⟨isName, others⟩ := List.forall_mem_cons.mp bare
  have isValue := Value.bare_tuple (List.forall_mem_cons.mp others).2
  replace isName : Bare assignment.name := isName
  exact bare_tupleOf (bare_literal rfl) (by simp [bare_ticked isName, isValue])

theorem Condition.bare_tuple {condition : Condition}
    (bare : ∀ token ∈ condition.tokens, Bare token.text) : Bare condition.tuple := by
  obtain ⟨left, others⟩ := List.forall_mem_append.mp bare
  have isLeft := Expr.bare_tuple left
  have isRight := Expr.bare_tuple (List.forall_mem_cons.mp others).2
  exact bare_tupleOf condition.relation.bare_tag (by simp [isLeft, isRight])

/-- The tuple of a statement is bare if its tokens are written so. -/
theorem Statement.bare_tuple {whole : Statement}
    (bare : ∀ token ∈ whole.tokens, Bare token.text) : Bare whole.tuple := by
  induction whole with
  | empty => exact bare_literal rfl
  | expr body => exact Expr.bare_tuple bare
  | assign setup => exact Assignment.bare_tuple bare
  | ifElse condition thenBranch elseBranch ihThen ihElse =>
    simp only [tokens, List.cons_append, List.append_assoc, List.forall_mem_cons,
      List.forall_mem_append] at bare
    obtain ⟨-, inCondition, -, inThen, -, inElse⟩ := bare
    have branches : Bare (tupleOf "branch" [thenBranch.tuple, elseBranch.tuple]) :=
      bare_tupleOf (bare_literal rfl) (by simp [ihThen inThen, ihElse inElse])
    exact bare_tupleOf (bare_literal rfl) (by simp [Condition.bare_tuple inCondition, branches])
  | forLoop setup bound body ih =>
    simp only [tokens, List.cons_append, List.append_assoc, List.forall_mem_cons,
      List.forall_mem_append] at bare
    obtain ⟨-, inSetup, -, inBound, -, inBody⟩ := bare
    have inSetup := Assignment.bare_tuple inSetup
    have inBound := Expr.bare_tuple inBound
    have heading : Bare (tupleOf "for_loop_setup" [setup.tuple, bound.tuple]) :=
      bare_tupleOf (bare_literal rfl) (by simp [inSetup, inBound])
    exact bare_tupleOf (bare_literal rfl) (by simp [heading, ih inBody])
  | funDef name body ih =>
    simp only [tokens, List.forall_mem_append, List.forall_mem_cons] at bare
    obtain ⟨⟨-, isName, -⟩, inBody⟩ := bare
    replace isName : Bare name := isName
    exact bare_tupleOf (bare_literal rfl) (by simp [bare_ticked isName, ih inBody])
  | funCall name =>
    have isName : Bare name := bare (.name name) List.mem_cons_self
    exact bare_tupleOf (bare_literal rfl) (by simp [bare_ticked isName])

/-! ## Tokens and lexical errors -/

theorem Token.bare_lexeme (token : Token) : Bare token.lexeme := by
  cases token <;> exact bare_literal rfl

theorem Token.bare_kind (token : Token) : Bare token.kind := by
  cases token <;> exact bare_literal rfl

/-- A token is written as it was read, unless it is a number. -/
theorem Token.bare_text {token : Token} {text : List Char} (readFrom : token.ReadFrom text)
    (bare : '\x1b' ∉ text) : Bare token.text := by
  cases token with
  | number value => exact bare_decimal value
  | name ident =>
    rw [Token.text, Bare, readFrom.1]
    exact bare
  | str inside =>
    rw [readFrom.1, ← String.toList_singleton] at bare
    simpa [Token.text, Bare] using bare
  | _ => exact bare_lexeme _

namespace Lexical

variable {source : String}

/-- What is under a span of a bare source is bare. -/
theorem notMem_of_parts {span : Text.Span} {before inside after : List Char} (bare : Bare source)
    (parts : Text.Parts source.toList span before inside after) : '\x1b' ∉ inside := by
  intro isIn
  refine bare ?_
  rw [← parts.joined]
  exact List.mem_append_right _ (List.mem_append_left _ isIn)

theorem bare_of_mem_tokens {located : Token.Located} (bare : Bare source)
    (isToken : located ∈ (lex source).tokens) : Bare located.token.text := by
  obtain ⟨_, _, _, parts, lexeme, -⟩ := exists_parts_of_mem_tokens isToken
  exact Token.bare_text lexeme.readFrom (notMem_of_parts bare parts)

theorem bare_of_mem_errors {error : LexicalError} (bare : Bare source)
    (isError : error ∈ (lex source).errors) : Bare error.message := by
  obtain ⟨_, _, parts, -⟩ := exists_parts_of_mem_errors isError
  have isText := notMem_of_parts bare parts
  cases error with
  | illegalCharacter ch index line =>
    have isChar : ch ≠ '\x1b' := fun same => isText (List.mem_singleton.mpr same.symm)
    unfold LexicalError.message
    simp only [bare_append, bare_singleton, and_assoc]
    exact ⟨bare_literal rfl, isChar, bare_literal rfl, bare_toString _, bare_literal rfl,
      bare_toString _⟩
  | numberTooLarge text span line =>
    unfold LexicalError.message
    simp only [bare_append, and_assoc]
    exact ⟨bare_literal rfl, isText, bare_literal rfl, bare_toString _, bare_literal rfl⟩

end Lexical

/-! ## Syntax errors -/

theorem Grammar.Expectation.bare_text (expected : Grammar.Expectation) : Bare expected.text := by
  cases expected with
  | token wanted => exact wanted.bare_lexeme
  | _ => exact bare_literal rfl

theorem Grammar.Hint.bare_text (hint : Grammar.Hint) : Bare hint.text := by
  cases hint <;> exact bare_literal rfl

namespace Parser

variable {parser : Parser}

/-- What is unexpected is the end, or a token of the parser. -/
theorem bare_cause (bare : ∀ located ∈ parser.tokens, Bare located.token.text)
    (failure : Grammar.Failure) : Bare (parser.error failure).cause.text := by
  cases failure with
  | unexpected expected hint =>
    cases atCursor : parser.tokens[parser.pos]? with
    | none =>
      rw [cause_unexpected_end atCursor]
      unfold SyntaxError.Cause.text
      exact bare_append.mpr ⟨bare_literal rfl, expected.bare_text⟩
    | some found =>
      have isFound := bare found (List.mem_of_getElem? atCursor)
      rw [cause_unexpected_token atCursor]
      unfold SyntaxError.Cause.text
      simp only [bare_append, and_assoc]
      exact ⟨bare_literal rfl, isFound, bare_literal rfl, expected.bare_text⟩
  | tooDeep =>
    rw [cause_tooDeep]
    unfold SyntaxError.Cause.text
    simp only [bare_append, and_assoc]
    exact ⟨bare_literal rfl, bare_toString _, bare_literal rfl⟩

theorem bare_suggestion {failure : Grammar.Failure} {suggestion : String}
    (suggested : (parser.error failure).suggestion = some suggestion) : Bare suggestion := by
  cases failure with
  | unexpected expected hint =>
    replace suggested : (parser.unexpected _ _).suggestion = some suggestion := suggested
    rw [suggestion_unexpected] at suggested
    obtain ⟨hint, -, rfl⟩ := Option.map_eq_some_iff.mp suggested
    exact hint.bare_text
  | tooDeep =>
    replace suggested : parser.tooDeep.suggestion = some suggestion := suggested
    rw [suggestion_tooDeep] at suggested
    cases suggested
    exact Grammar.Hint.bare_text .splitStatement

end Parser

theorem SyntaxError.bare_message {error : SyntaxError} (bare : Bare error.cause.text) :
    Bare error.message := by
  simp only [message, bare_append, and_assoc]
  exact ⟨bare, bare_literal rfl, bare_toString _, bare_literal rfl⟩

/-! ## Readings -/

namespace Reading

variable {source : String}

theorem result_of_error? {reading : Reading} {error : SyntaxError}
    (isError : reading.error? = some error) : reading.result = .error error := by
  unfold error? at isError
  split at isError
  next => cases isError
  next failed => rw [failed, Option.some.inj isError]

theorem bare_of_error {error : SyntaxError} (bare : Bare source)
    (failed : (ofSource source).result = .error error) :
    Bare error.message ∧ ∀ suggestion ∈ error.suggestion, Bare suggestion := by
  have answer : (Parser.ofTokens (Lexical.lex source).tokens).parse = (.error error, _) :=
    Prod.ext failed rfl
  obtain ⟨failure, rest, -, rfl, isAfter⟩ := Parser.run_eq_error_iff.mp answer
  constructor
  · refine SyntaxError.bare_message (Parser.bare_cause (fun located isToken => ?_) failure)
    rw [isAfter] at isToken
    exact Lexical.bare_of_mem_tokens bare isToken
  · exact fun suggestion => Parser.bare_suggestion

theorem bare_tuple {whole : Statement} (bare : Bare source)
    (read : (ofSource source).result = .ok whole) : Bare whole.tuple := by
  obtain ⟨-, same, -⟩ := Parser.parse_eq_ok_iff.mp read
  refine Statement.bare_tuple fun token isToken => ?_
  rw [← same] at isToken
  obtain ⟨located, isLocated, rfl⟩ := List.mem_map.mp isToken
  exact Lexical.bare_of_mem_tokens bare isLocated

end Reading

end MiniBasic
