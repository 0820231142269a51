/-
Unsigned decimal numerals with an upper limit.

Main statements:

* `readDecimal? limit s` — the number that `s` writes, an optional `+` and at least one digit,
  if it does not exceed `limit`;
* `decimal n` — the digits of `n`, without leading zeros;
* `charOf? n` — the character with the number `n`.

Design notes: the value is computed exactly and compared with the limit once, so a numeral of any
length is read or refused and nothing wraps around.
-/

namespace SmokeTest.Text

/-- The largest number of a 64 bit word. -/
def wordMax : Nat := 18446744073709551615

/-- The value of an ASCII digit. -/
def digit? (c : Char) : Option Nat :=
  if '0' ≤ c ∧ c ≤ '9' then some (c.toNat - '0'.toNat) else none

/-- The value of a digit of a base up to sixteen. -/
def hexDigit? (c : Char) : Option Nat :=
  if '0' ≤ c ∧ c ≤ '9' then some (c.toNat - '0'.toNat)
  else if 'a' ≤ c ∧ c ≤ 'f' then some (c.toNat - 'a'.toNat + 10)
  else if 'A' ≤ c ∧ c ≤ 'F' then some (c.toNat - 'A'.toNat + 10)
  else none

/-- The number written by the digits, most significant first, after `acc`; none if one of the
characters is no digit of the base. -/
def digitsValue? (base acc : Nat) : List Char → Option Nat
  | [] => some acc
  | c :: rest =>
    match hexDigit? c with
    | some d => if d < base then digitsValue? base (acc * base + d) rest else none
    | none => none

/-- The number that a non-empty list of digits of the base writes. -/
def readDigits? (base : Nat) : List Char → Option Nat
  | [] => none
  | s => digitsValue? base 0 s

/-- The number written by an optional `+` and at least one decimal digit, up to `limit`. -/
def readDecimal? (limit : Nat) (s : List Char) : Option Nat :=
  let digits := match s with
    | '+' :: rest => rest
    | s => s
  (readDigits? 10 digits).filter (· ≤ limit)

/-- The character with the given number; surrogates and numbers above U+10FFFF are none. -/
def charOf? (n : Nat) : Option Char :=
  if n < 0xD800 || (0xDFFF < n && n < 0x110000) then some (Char.ofNat n) else none

/-- The decimal digits of a number. -/
def decimal (n : Nat) : String :=
  String.ofList (Nat.toDigits 10 n)

end SmokeTest.Text
