/-
Sets of characters that share a property of the Unicode Character Database.

Design notes: a set is written as run lengths, in hexadecimal: so many characters outside, so many
inside, so many outside, and so on from U+0000. Names are written the way patterns are compared with
them: in small letters, without blanks, hyphens, underscores and a leading `is`.
-/
import SmokeTest.Text.Numeral
import SmokeTest.Text.Split

namespace SmokeTest.Regex

/-- A property of characters: its names and the characters that have it. -/
structure Property where
  names : List String
  /-- Run lengths in hexadecimal, outside and inside in turn, in lines. -/
  runs : List String

namespace Property

/-- The closed ranges that run lengths describe, from the character number `next` on. -/
def rangesFrom (next : Nat) : List Nat → List (Nat × Nat)
  | outside :: inside :: rest =>
    (next + outside, next + outside + inside - 1) :: rangesFrom (next + outside + inside) rest
  | _ => []

/-- The closed ranges of characters that have the property, in ascending order. -/
def ranges (p : Property) : List (Nat × Nat) :=
  rangesFrom 0 (p.runs.flatMap fun line =>
    (Text.pieces ' ' line.toList).filterMap (Text.readDigits? 16))

/-- The property with the given name, among those listed. -/
def find? (ps : List Property) (name : String) : Option Property :=
  ps.find? fun p => p.names.contains name

end Property

/-- The form in which names of properties are compared: small ASCII letters without blanks,
hyphens and underscores, and without a leading `is`. -/
def looseName (name : List Char) : String :=
  let lowered := name.map Char.toLower
  let body := (Text.dropPrefix? ['i', 's'] lowered).getD lowered
  let kept := body.filter fun c => c.toNat < 0x80 && c != ' ' && c != '_' && c != '-'
  if body.length < lowered.length && kept == ['c'] then "isc" else String.ofList kept

end SmokeTest.Regex
