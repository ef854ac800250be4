import MiniBasic.Text.Span

/-!
# Errors of the grammar

Reading a statement stops at the first thing that does not belong there.  The error says what it
is, where it stands, and what could be done about it.
-/

namespace MiniBasic

/-- What stopped the reading of a statement. -/
inductive SyntaxError.Cause where
  | unexpectedToken (found expected : String)
  | unexpectedEnd (expected : String)
  | nestingTooDeep (limit : Nat)
deriving DecidableEq

/-- What stopped the reading of a statement, and where. -/
structure SyntaxError where
  cause : SyntaxError.Cause
  /-- The bytes at fault. -/
  span : Text.Span
  /-- Their line, counted from 1. -/
  line : Nat
  suggestion : Option String
deriving DecidableEq

namespace SyntaxError

/-- The wording of a cause. -/
def Cause.text : Cause → String
  | unexpectedToken found expected =>
    "Unexpected token '" ++ found ++ "', expected " ++ expected
  | unexpectedEnd expected => "Unexpected end of input, expected " ++ expected
  | nestingTooDeep limit => "Statement nests deeper than " ++ toString limit ++ " levels"

/-- The code of an error in diagnostics. -/
def code (error : SyntaxError) : String :=
  match error.cause with
  | .unexpectedToken .. => "ERR-SYN-001"
  | .unexpectedEnd .. => "ERR-SYN-002"
  | .nestingTooDeep .. => "ERR-SYN-003"

/-- The error in words. -/
def message (error : SyntaxError) : String :=
  error.cause.text ++ " (line " ++ toString error.line ++ ")"

example : message ⟨.unexpectedEnd "ELSE", ⟨3, 3⟩, 2, none⟩ =
    "Unexpected end of input, expected ELSE (line 2)" := rfl

end SyntaxError

end MiniBasic
