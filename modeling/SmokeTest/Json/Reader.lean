/-
Reading JSON.

Main statement: `Json.read? text` is the value that the text writes, blanks around it allowed; none
if the text is not JSON.

Design notes: every function takes the text that is left and gives back what it has not consumed.
The functions for nested values count the characters that may still be consumed, and the length of
the text is enough of them.
-/
import SmokeTest.Json.Value
import SmokeTest.Text.Numeral
import SmokeTest.Text.Split

namespace SmokeTest.Json

open Text

/-- The text without the blanks it begins with. -/
def skipBlanks (s : List Char) : List Char :=
  s.dropWhile fun c => c == ' ' || c == '\n' || c == '\t' || c == '\r'

/-- The number that four hexadecimal digits write, and the text after them. -/
def hexQuad? : List Char → Option (Nat × List Char)
  | a :: b :: c :: d :: rest => (digitsValue? 16 0 [a, b, c, d]).map fun n => (n, rest)
  | _ => none

/-- The character that a backslash and a letter stand for. -/
def escaped? : Char → Option Char
  | '"' => some '"'
  | '\\' => some '\\'
  | '/' => some '/'
  | 'b' => some '\x08'
  | 'f' => some '\x0c'
  | 'n' => some '\n'
  | 'r' => some '\r'
  | 't' => some '\t'
  | _ => none

/-- Reads a string up to its closing quote, the opening one being consumed. The characters read so
far are given in reverse; they are none once half of a surrogate pair has been met. -/
def readString? : Nat → Option (List Char) → List Char → Option (Option String × List Char)
  | 0, _, _ => none
  | _, _, [] => none
  | fuel + 1, read, c :: rest =>
    if c == '"' then some (read.map fun cs => String.ofList cs.reverse, rest)
    else if c.toNat < 0x20 then none
    else if c != '\\' then readString? fuel (read.map (c :: ·)) rest
    else
      match rest with
      | 'u' :: rest =>
        match hexQuad? rest with
        | none => none
        | some (n, rest) =>
          if n < 0xD800 || 0xDFFF < n then
            readString? fuel (read.map (Char.ofNat n :: ·)) rest
          else if 0xDC00 ≤ n then readString? fuel none rest
          else
            match dropPrefix? ['\\', 'u'] rest with
            | none => readString? fuel none rest
            | some after =>
              match hexQuad? after with
              | none => readString? fuel none rest
              | some (m, after) =>
                if 0xDC00 ≤ m && m ≤ 0xDFFF then
                  let paired := Char.ofNat (0x10000 + (n - 0xD800) * 0x400 + (m - 0xDC00))
                  readString? fuel (read.map (paired :: ·)) after
                else readString? fuel none rest
      | e :: rest =>
        match escaped? e with
        | some x => readString? fuel (read.map (x :: ·)) rest
        | none => none
      | [] => none

/-- The decimal digits that a text begins with, and what follows them. -/
def digitRun (s : List Char) : List Char × List Char :=
  (s.takeWhile Char.isDigit, s.dropWhile Char.isDigit)

/-- The digits of a fraction, if a point comes next. -/
def readFraction? : List Char → Option (List Char × List Char)
  | '.' :: rest =>
    match digitRun rest with
    | ([], _) => none
    | (digits, rest) => some (digits, rest)
  | s => some ([], s)

/-- An exponent, if one comes next. -/
def readExponent? : List Char → Option (Option Int × List Char)
  | c :: rest =>
    if c == 'e' || c == 'E' then
      let (negative, rest) := match rest with
        | '-' :: rest => (true, rest)
        | '+' :: rest => (false, rest)
        | _ => (false, rest)
      match digitRun rest with
      | ([], _) => none
      | (digits, rest) =>
        let n : Int := (digitsValue? 10 0 digits).getD 0
        some (some (if negative then -n else n), rest)
    else some (none, c :: rest)
  | [] => some (none, [])

/-- Reads a number without its sign. -/
def readNumber? (negative : Bool) (s : List Char) : Option (Number × List Char) :=
  let (whole, rest) := digitRun s
  match whole with
  | [] => none
  | '0' :: _ :: _ => none
  | _ => do
    let (fraction, rest) ← readFraction? rest
    let (exponent, rest) ← readExponent? rest
    let digits := (digitsValue? 10 0 (whole ++ fraction)).getD 0
    let number : Number :=
      { negative, digits, exponent := exponent.getD 0 - fraction.length
        whole := fraction.isEmpty && exponent.isNone }
    return (number, rest)

mutual

/-- Reads a value. -/
def readValue? : Nat → List Char → Option (Json × List Char)
  | 0, _ => none
  | fuel + 1, s =>
    match skipBlanks s with
    | 'n' :: 'u' :: 'l' :: 'l' :: rest => some (null, rest)
    | 't' :: 'r' :: 'u' :: 'e' :: rest => some (bool true, rest)
    | 'f' :: 'a' :: 'l' :: 's' :: 'e' :: rest => some (bool false, rest)
    | '"' :: rest => (readString? fuel (some []) rest).map fun (t, rest) => (string t, rest)
    | '-' :: rest => (readNumber? true rest).map fun (n, rest) => (number n, rest)
    | '[' :: rest =>
      match skipBlanks rest with
      | ']' :: rest => some (array [], rest)
      | rest => (readItems? fuel [] rest).map fun (items, rest) => (array items, rest)
    | '\x7b' :: rest =>
      match skipBlanks rest with
      | '\x7d' :: rest => some (object [], rest)
      | rest => (readMembers? fuel [] rest).map fun (members, rest) => (object members, rest)
    | rest => (readNumber? false rest).map fun (n, rest) => (number n, rest)

/-- Reads the items of an array, at least one, and the closing bracket. -/
def readItems? : Nat → List Json → List Char → Option (List Json × List Char)
  | 0, _, _ => none
  | fuel + 1, read, s =>
    match readValue? fuel s with
    | none => none
    | some (v, rest) =>
      match skipBlanks rest with
      | ',' :: rest => readItems? fuel (v :: read) rest
      | ']' :: rest => some ((v :: read).reverse, rest)
      | _ => none

/-- Reads the members of an object, at least one, and the closing brace. -/
def readMembers? : Nat → List (Option String × Json) → List Char →
    Option (List (Option String × Json) × List Char)
  | 0, _, _ => none
  | fuel + 1, read, s =>
    match skipBlanks s with
    | '"' :: rest =>
      match readString? fuel (some []) rest with
      | none => none
      | some (name, rest) =>
        match skipBlanks rest with
        | ':' :: rest =>
          match readValue? fuel rest with
          | none => none
          | some (v, rest) =>
            match skipBlanks rest with
            | ',' :: rest => readMembers? fuel ((name, v) :: read) rest
            | '\x7d' :: rest => some (((name, v) :: read).reverse, rest)
            | _ => none
        | _ => none
    | _ => none

end

/-- The value that a text writes. -/
def read? (text : String) : Option Json :=
  let chars := text.toList
  match readValue? (chars.length + 1) chars with
  | some (v, rest) => if (skipBlanks rest).isEmpty then some v else none
  | none => none

end SmokeTest.Json
