/-
What plain scalars mean: null, truth values, numbers, or texts.

Main statement: `resolve text` is the meaning of a plain scalar.

Design notes: numbers are decimal, or hexadecimal, octal or binary after `0x`, `0o` or `0b`. Digits
after a leading zero are a text and no number. Whole numbers that need more than 64 bits, but no
more than 128, are told apart because they have no place in JSON values; larger ones are read as
fractions.
-/
import SmokeTest.Json.Value
import SmokeTest.Text.Numeral
import SmokeTest.Text.Split

namespace SmokeTest.Yaml

open Text

/-- What a plain scalar means. -/
inductive Meaning
  | null
  | bool (b : Bool)
  /-- A whole number without a sign, of at most 64 bits. -/
  | word (n : Nat)
  /-- Any other number that a JSON value can hold. -/
  | number
  /-- A whole number between 64 and 128 bits. -/
  | wide
  /-- An infinity or no number at all. -/
  | notFinite
  | text
  deriving DecidableEq, Repr

/-- Whether the text writes null. -/
def isNull (s : String) : Bool :=
  ["null", "Null", "NULL", "~"].contains s

/-- The truth value that the text writes. -/
def bool? (s : String) : Option Bool :=
  if ["true", "True", "TRUE"].contains s then some true
  else if ["false", "False", "FALSE"].contains s then some false
  else none

/-- Whether the text has more than one digit, nothing else but a sign, and a leading zero. -/
def hasLeadingZero (s : List Char) : Bool :=
  let digits := match s with
    | '-' :: rest | '+' :: rest => rest
    | s => s
  match digits with
  | '0' :: c :: rest => (c :: rest).all Char.isDigit
  | _ => false

/-- The number after one of the signs for a base. -/
def based? : List Char → Option Nat
  | '0' :: 'x' :: rest => readDigits? 16 rest
  | '0' :: 'o' :: rest => readDigits? 8 rest
  | '0' :: 'b' :: rest => readDigits? 2 rest
  | _ => none

/-- A whole number without a sign or with a `+`. -/
def natural? (s : List Char) : Option Nat :=
  let digits := match s with
    | '+' :: rest => rest
    | s => s
  match based? digits with
  | some n => some n
  | none => if hasLeadingZero s then none else readDigits? 10 digits

/-- The size of a whole number with a `-`. -/
def negative? : List Char → Option Nat
  | '-' :: digits =>
    match based? digits with
    | some n => some n
    | none => if hasLeadingZero ('-' :: digits) then none else readDigits? 10 digits
  | _ => none

/-- A decimal number with a fraction or an exponent, or one that is too large for a whole number;
the sign is left out. -/
def fraction? (s : List Char) : Option Json.Number := do
  let whole := s.takeWhile Char.isDigit
  let rest := s.dropWhile Char.isDigit
  let (fraction, rest) := match rest with
    | '.' :: rest => (rest.takeWhile Char.isDigit, rest.dropWhile Char.isDigit)
    | rest => ([], rest)
  if whole.isEmpty && fraction.isEmpty then none
  let digits ← digitsValue? 10 0 (whole ++ fraction)
  let number (exponent : Int) : Json.Number :=
    { negative := false, digits, exponent := exponent - fraction.length, whole := false }
  match rest with
  | [] => return number 0
  | c :: rest =>
    if c != 'e' && c != 'E' then none
    match rest with
    | '-' :: rest => return number (-(← readDigits? 10 rest))
    | '+' :: rest => return number (← readDigits? 10 rest)
    | rest => return number (← readDigits? 10 rest)

/-- Whether the text is an infinity or the value that is no number. -/
def isNotFinite (s : List Char) : Bool :=
  let unsigned := match s with
    | '+' :: rest | '-' :: rest => rest
    | s => s
  [".inf", ".Inf", ".INF"].contains (String.ofList unsigned) ||
    [".nan", ".NaN", ".NAN"].contains (String.ofList s)

/-- Whether the text is a number that a double can hold. -/
def isFraction (s : List Char) : Bool :=
  let unsigned := match s with
    | '+' :: '-' :: _ | '+' :: '+' :: _ => []
    | '+' :: rest | '-' :: rest => rest
    | s => s
  (fraction? unsigned).any Json.Number.isFinite

/-- The meaning of a plain scalar as a whole number. -/
def wholeMeaning? (s : List Char) : Option Meaning :=
  match natural? s with
  | some n =>
    if n ≤ wordMax then some (.word n) else if n < Nat.pow 2 128 then some .wide else none
  | none =>
    match negative? s with
    | some n =>
      if n ≤ Nat.pow 2 63 then some .number
      else if n ≤ Nat.pow 2 127 then some .wide
      else none
    | none => none

/-- The meaning of a plain scalar as a number with a fraction. -/
def fractionMeaning? (s : List Char) : Option Meaning :=
  if isNotFinite s then some .notFinite
  else if isFraction s then some .number
  else none

/-- The meaning of a plain scalar. -/
def resolve (text : String) : Meaning :=
  if text.isEmpty || isNull text then .null
  else
    match bool? text with
    | some b => .bool b
    | none =>
      let s := text.toList
      match wholeMeaning? s with
      | some m => m
      | none => if hasLeadingZero s then .text else (fractionMeaning? s).getD .text

end SmokeTest.Yaml
