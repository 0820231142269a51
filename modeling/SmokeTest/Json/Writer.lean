/-
Writing JSON compactly.

Main definitions:

* `Json.quote s` — a text as a JSON string: quotes, backslashes and the characters below U+0020 are
  escaped, everything else stands for itself;
* `Json.writeObject members` — an object without blanks.
-/
import SmokeTest.Text.Numeral

namespace SmokeTest.Json

/-- The hexadecimal digit of a number below sixteen. -/
def hexDigit (n : Nat) : Char :=
  Nat.digitChar n

/-- A character inside a JSON string. -/
def quoteChar (c : Char) : List Char :=
  match c with
  | '"' => ['\\', '"']
  | '\\' => ['\\', '\\']
  | '\x08' => ['\\', 'b']
  | '\x0c' => ['\\', 'f']
  | '\n' => ['\\', 'n']
  | '\r' => ['\\', 'r']
  | '\t' => ['\\', 't']
  | c =>
    if c.toNat < 0x20 then
      ['\\', 'u', '0', '0', hexDigit (c.toNat / 16), hexDigit (c.toNat % 16)]
    else [c]

/-- A text as a JSON string. -/
def quoteChars (s : List Char) : List Char :=
  '"' :: s.flatMap quoteChar ++ ['"']

/-- A text as a JSON string. -/
def quote (s : String) : String :=
  String.ofList (quoteChars s.toList)

/-- An object with members whose values are already written. -/
def writeObject (members : List (String × String)) : String :=
  "\x7b" ++ ",".intercalate (members.map fun (name, v) => quote name ++ ":" ++ v) ++ "\x7d"

end SmokeTest.Json
