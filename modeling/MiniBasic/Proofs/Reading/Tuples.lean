import MiniBasic.Proofs.Lexical.Printing
import MiniBasic.Proofs.Parser.Program
import MiniBasic.Proofs.Tree.Tuple
import MiniBasic.Reading

/-!
# Trees that are read are plain

The names and texts in a tree that was read from a source are those of its tokens, and a token that
can be read has a plain name or a text without double quotes.  So the trees that are read are plain,
and a tuple stands for one of them at most (`tuple_unambiguous`).
-/

namespace MiniBasic

open Lexical (isNamePart_of_isNameStart)

/-! ## Plain trees from their tokens -/

theorem plainName_of_isReadable {name : String} (readable : (Token.name name).IsReadable) :
    PlainName name := by
  obtain ⟨⟨first, rest, written, start, parts⟩, -⟩ := readable
  rw [PlainName, written]
  exact List.forall_mem_cons.mpr ⟨isNamePart_of_isNameStart start, parts⟩

theorem Expr.plain_of_tokens {expr : Expr} (readable : ∀ token ∈ expr.tokens, token.IsReadable) :
    expr.Plain := by
  induction expr with
  | num value => trivial
  | var name => exact plainName_of_isReadable (readable _ List.mem_cons_self)
  | neg operand ih => exact ih (List.forall_mem_cons.mp readable).2
  | binary left op right ihLeft ihRight =>
    obtain ⟨inLeft, others⟩ := List.forall_mem_append.mp readable
    exact ⟨ihLeft inLeft, ihRight (List.forall_mem_cons.mp others).2⟩

theorem Value.plain_of_tokens {value : Value}
    (readable : ∀ token ∈ value.tokens, token.IsReadable) : value.Plain := by
  cases value with
  | expr body => exact Expr.plain_of_tokens readable
  | str text => exact (readable _ List.mem_cons_self).1

theorem Assignment.plain_of_tokens {assignment : Assignment}
    (readable : ∀ token ∈ assignment.tokens, token.IsReadable) : assignment.Plain := by
  obtain ⟨name, others⟩ := List.forall_mem_cons.mp readable
  exact ⟨plainName_of_isReadable name,
    Value.plain_of_tokens (List.forall_mem_cons.mp others).2⟩

theorem Condition.plain_of_tokens {condition : Condition}
    (readable : ∀ token ∈ condition.tokens, token.IsReadable) : condition.Plain := by
  obtain ⟨left, others⟩ := List.forall_mem_append.mp readable
  exact ⟨Expr.plain_of_tokens left, Expr.plain_of_tokens (List.forall_mem_cons.mp others).2⟩

/-- A statement is plain if its tokens can be read. -/
theorem Statement.plain_of_tokens {whole : Statement}
    (readable : ∀ token ∈ whole.tokens, token.IsReadable) : whole.Plain := by
  induction whole with
  | empty => trivial
  | expr body => exact Expr.plain_of_tokens readable
  | assign setup => exact Assignment.plain_of_tokens readable
  | ifElse condition thenBranch elseBranch ihThen ihElse =>
    simp only [tokens, List.cons_append, List.append_assoc, List.forall_mem_cons,
      List.forall_mem_append] at readable
    obtain ⟨-, inCondition, -, inThen, -, inElse⟩ := readable
    exact ⟨Condition.plain_of_tokens inCondition, ihThen inThen, ihElse inElse⟩
  | forLoop setup bound body ih =>
    simp only [tokens, List.cons_append, List.append_assoc, List.forall_mem_cons,
      List.forall_mem_append] at readable
    obtain ⟨-, inSetup, -, inBound, -, inBody⟩ := readable
    exact ⟨Assignment.plain_of_tokens inSetup, Expr.plain_of_tokens inBound, ih inBody⟩
  | funDef name body ih =>
    simp only [tokens, List.forall_mem_append, List.forall_mem_cons] at readable
    obtain ⟨⟨-, isName, -⟩, inBody⟩ := readable
    exact ⟨plainName_of_isReadable isName, ih inBody⟩
  | funCall name => exact plainName_of_isReadable (readable _ List.mem_cons_self)

/-! ## Readings -/

theorem plain_of_result {source : String} {whole : Statement}
    (read : (Reading.ofSource source).result = .ok whole) : whole.Plain := by
  obtain ⟨-, same, -⟩ := Parser.parse_eq_ok_iff.mp read
  refine Statement.plain_of_tokens fun token isToken => ?_
  rw [← same] at isToken
  exact Lexical.isReadable_of_mem_tokens isToken

/-- A tuple stands for one plain statement at most.  What is read from a source is plain, so two
sources that are read to different statements have different tuples. -/
theorem tuple_unambiguous :
    (∀ first second : Statement, first.Plain → second.Plain → first.tuple = second.tuple →
      first = second) ∧
    (∀ source whole, (Reading.ofSource source).result = .ok whole → whole.Plain) ∧
    ∀ source other first second, (Reading.ofSource source).result = .ok first →
      (Reading.ofSource other).result = .ok second → first ≠ second →
      first.tuple ≠ second.tuple := by
  refine ⟨fun first second => Statement.tuple_inj, fun source whole => plain_of_result, ?_⟩
  intro source other first second isFirst isSecond different same
  exact different (Statement.tuple_inj (plain_of_result isFirst) (plain_of_result isSecond) same)

/-- A text that looks like a name in a tuple is told from that name. -/
theorem tuple_unambiguous_text :
    (Reading.ofSource "x = \"('var', 'y')\"").result = .ok (.assign ⟨"x", .str "('var', 'y')"⟩) ∧
    (Reading.ofSource "x = y").result = .ok (.assign ⟨"x", .expr (.var "y")⟩) ∧
    Statement.Plain (.assign ⟨"x", .str "('var', 'y')"⟩) ∧
    Statement.tuple (.assign ⟨"x", .str "('var', 'y')"⟩) ≠
      Statement.tuple (.assign ⟨"x", .expr (.var "y")⟩) := by
  have text : (Reading.ofSource "x = \"('var', 'y')\"").result =
      .ok (.assign ⟨"x", .str "('var', 'y')"⟩) :=
    Parser.parse_eq_ok_iff.mpr ⟨trivial, by decide +kernel, by decide⟩
  have name : (Reading.ofSource "x = y").result = .ok (.assign ⟨"x", .expr (.var "y")⟩) :=
    Parser.parse_eq_ok_iff.mpr ⟨trivial, by decide +kernel, by decide⟩
  obtain ⟨_, plain, apart⟩ := tuple_unambiguous
  exact ⟨text, name, plain _ _ text, apart _ _ _ _ text name (by decide)⟩

end MiniBasic
