import MiniBasic.Grammar.Expression

/-!
# The grammar of statements

The first token chooses the statement; only after a name does the second token matter too.  A
statement may be empty where it is allowed to end: before the second branch of a conditional, or
at the end of the input.

A statement needs one level of the room, and what stands inside it has the rest.
-/

namespace MiniBasic.Grammar

/-- A name, the sign of assignment, and a text or an expression. -/
def assignment (room : Nat) : Rule Assignment := do
  let name ← Rule.expectName
  Rule.expect .assign
  match ← Rule.head with
  | some (.str text) =>
    Rule.advance
    return { name, value := .str text }
  | _ => return { name, value := .expr (← expression room) }

/-- The brackets after the name of a function that is defined. -/
def noParameters : Rule Unit := do
  Rule.expect .lparen
  match ← Rule.head with
  | none | some .rparen => Rule.expect .rparen
  | some _ => Rule.unexpectedBut (.token .rparen) .noParameters

/-- The word before the second branch of a conditional. -/
def elseWord : Rule Unit := do
  match ← Rule.head with
  | none => Rule.unexpectedBut (.token .kwElse) .writeElse
  | some _ => Rule.expect .kwElse

/-- A name and a pair of brackets. -/
def call : Rule Statement := do
  let name ← Rule.expectName
  Rule.expect .lparen
  Rule.expect .rparen
  return .funCall name

/-- A statement. -/
def statement : (room : Nat) → Rule Statement
  | 0 => Rule.tooDeep
  | room + 1 => do
    match ← Rule.head with
    | none | some .kwElse => return .empty
    | some .kwFor =>
      Rule.advance
      let setup ← assignment room
      Rule.expect .kwTo
      let bound ← expression room
      Rule.expect .kwThen
      let body ← statement room
      return .forLoop setup bound body
    | some .kwIf =>
      Rule.advance
      let cond ← condition room
      Rule.expect .kwThen
      let thenBranch ← statement room
      elseWord
      let elseBranch ← statement room
      return .ifElse cond thenBranch elseBranch
    | some .kwFun =>
      Rule.advance
      let name ← Rule.expectName
      noParameters
      Rule.expect .arrow
      let body ← statement room
      return .funDef name body
    | some (.name _) =>
      match ← Rule.second with
      | some .lparen => call
      | some .assign => return .assign (← assignment room)
      | _ => return .expr (← expression room)
    | _ => return .expr (← expression room)

/-- The end of the input, after a whole statement. -/
def finish : Rule Unit := do
  match ← Rule.head with
  | none => return ()
  | some .kwElse => Rule.unexpectedBut .endOfInput .elseWithoutThen
  | some _ => Rule.unexpectedBut .endOfInput .oneStatement

/-- A statement and nothing else. -/
def program (room : Nat) : Rule Statement := do
  let whole ← statement room
  finish
  return whole

example : (program 9 [.kwIf, .name "a", .less, .number 1, .kwThen, .kwElse]).1.toOption =
    some (.ifElse ⟨.less, .var "a", .num 1⟩ .empty .empty) := by decide +kernel
example : (program 9 [.name "a", .kwElse]).2 = [.kwElse] := by decide +kernel

end MiniBasic.Grammar
