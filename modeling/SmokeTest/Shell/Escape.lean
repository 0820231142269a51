/-
Backslash escapes in texts of the shell.

Main definitions:

* `ansiText s` — the text of a dollar-quoted string;
* `echoText s` — what `echo -e` makes of a text, and whether it goes on behind it;
* `formatEscape? s` — the escape that a text begins with, as formats of `printf` know it.

Design notes: the three places differ in how octal numbers are written and in what ends the text, so
each of them has its own table over the common one.
-/
import SmokeTest.Shell.Bytes
import SmokeTest.Text.Numeral

namespace SmokeTest.Shell

open Text

/-- The character that a letter after a backslash stands for in every kind of text. -/
def letterEscape? : Char → Option Char
  | 'a' => some '\x07'
  | 'b' => some '\x08'
  | 'e' | 'E' => some '\x1b'
  | 'f' => some '\x0c'
  | 'n' => some '\n'
  | 'r' => some '\r'
  | 't' => some '\t'
  | 'v' => some '\x0b'
  | '\\' => some '\\'
  | _ => none

/-- The digits of a base that a text begins with, at most so many, and the rest. -/
def takeDigits (base : Nat) : Nat → List Char → List Char × List Char
  | n + 1, c :: rest =>
    if (hexDigit? c).any (· < base) then
      let (digits, after) := takeDigits base n rest
      (c :: digits, after)
    else ([], c :: rest)
  | _, s => ([], s)

/-- The number that digits write. -/
def digitsNumber (base : Nat) (digits : List Char) : Nat :=
  (digitsValue? base 0 digits).getD 0

/-- The text of a byte with a number, of which only the last eight bits count. -/
def byteText (n : Nat) : List Char :=
  [byteChar n.toUInt8]

/-- The text of a character with a number; only ASCII characters can be written, others stay escapes
with four or eight digits. -/
def wideText (n : Nat) : List Char :=
  if n < 0x80 then [Char.ofNat n]
  else
    let digits := (Nat.toDigits 16 n).map Char.toUpper
    let (letter, width) := if n < 0x10000 then ('u', 4) else ('U', 8)
    '\\' :: letter :: List.replicate (width - digits.length) '0' ++ digits

/-- An escape with a hexadecimal number after its letter. -/
def hexEscape? : List Char → Option (List Char × List Char)
  | 'x' :: rest =>
    match takeDigits 16 2 rest with
    | ([], _) => none
    | (digits, after) => some (byteText (digitsNumber 16 digits), after)
  | 'u' :: rest => wide? 4 rest
  | 'U' :: rest => wide? 8 rest
  | _ => none
where
  /-- The character with the number that at most so many digits write. -/
  wide? (n : Nat) (rest : List Char) : Option (List Char × List Char) :=
    match takeDigits 16 n rest with
    | ([], _) => none
    | (digits, after) => some (wideText (digitsNumber 16 digits), after)

/-- The escape behind a backslash in formats of `printf`: its text and what follows it. -/
def formatEscape? : List Char → Option (List Char × List Char)
  | [] => none
  | '"' :: rest => some (['"'], rest)
  | '\'' :: rest => some (['\''], rest)
  | '?' :: rest => some (['?'], rest)
  | c :: rest =>
    match letterEscape? c with
    | some e => some ([e], rest)
    | none =>
      match takeDigits 8 3 (c :: rest) with
      | ([], _) => hexEscape? (c :: rest)
      | (digits, after) => some (byteText (digitsNumber 8 digits), after)

/-- The text of a dollar-quoted string. -/
def ansiText : Nat → List Char → List Char
  | fuel + 1, '\\' :: 'c' :: c :: rest =>
    Char.ofNat (c.toNat % 32) :: ansiText fuel rest
  | fuel + 1, '\\' :: rest =>
    match formatEscape? rest with
    | some (text, after) => text ++ ansiText fuel after
    | none => '\\' :: ansiText fuel rest
  | fuel + 1, c :: rest => c :: ansiText fuel rest
  | _, s => s

/-- What `echo -e` and `%b` make of a text; the flag says that nothing may follow it. Octal numbers
begin with a zero unless `anyOctal` holds. -/
def echoText (anyOctal : Bool) : Nat → List Char → List Char × Bool
  | fuel + 1, '\\' :: rest =>
    match rest with
    | 'c' :: _ => ([], true)
    | '0' :: digits =>
      let (octal, after) := takeDigits 8 3 digits
      step fuel (byteText (digitsNumber 8 octal)) after
    | c :: after =>
      match letterEscape? c, takeDigits 8 3 rest with
      | some e, _ => step fuel [e] after
      | none, (digit :: digits, afterDigits) =>
        if anyOctal then step fuel (byteText (digitsNumber 8 (digit :: digits))) afterDigits
        else step fuel ['\\', c] after
      | none, ([], _) =>
        match hexEscape? rest with
        | some (text, after) => step fuel text after
        | none => step fuel ['\\', c] after
    | [] => (['\\'], false)
  | fuel + 1, c :: rest => step fuel [c] rest
  | _, s => (s, false)
where
  /-- Some text, and then what becomes of the rest. -/
  step (fuel : Nat) (text rest : List Char) : List Char × Bool :=
    let (more, ended) := echoText anyOctal fuel rest
    (text ++ more, ended)

end SmokeTest.Shell
