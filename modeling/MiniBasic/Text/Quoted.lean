import MiniBasic.Text.Combining
import MiniBasic.Text.Unprintable

/-!
# Quoted text

A text between double quotes.  Six characters have an escape of their own: the quote and the
backslash, the two line controls, the tab and the null.  A character that cannot be seen, or that
would merge with its neighbour, is written as its number in hexadecimal.  All else, the single
quote included, stands for itself.
-/

namespace MiniBasic.Text

/-- A character as its number: a backslash, `u`, and lower-case hexadecimal digits in braces. -/
def numbered (c : Char) : List Char :=
  ['\\', 'u', '\x7b'] ++ Nat.toDigits 16 c.toNat ++ ['\x7d']

/-- A character as it stands between quotes. -/
def escape (c : Char) : List Char :=
  match c with
  | '\x00' => ['\\', '0']
  | '\t' => ['\\', 't']
  | '\r' => ['\\', 'r']
  | '\n' => ['\\', 'n']
  | '"' => ['\\', '"']
  | '\\' => ['\\', '\\']
  | c => if isCombining c || !isPrintable c then numbered c else [c]

/-- A text in double quotes. -/
def quote (text : String) : String :=
  String.ofList ('"' :: text.toList.flatMap escape ++ ['"'])

example : quote "a'\"\\" = "\"a'\\\"\\\\\"" := by decide +kernel
example : quote "\x1b\u0301" = "\"\\u\x7b1b\x7d\\u\x7b301\x7d\"" := by decide +kernel

end MiniBasic.Text
