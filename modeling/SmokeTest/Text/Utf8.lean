/-
UTF-8: texts as bytes.

Main definitions:

* `encodeChar c`, `encodeUtf8 s` — the bytes of a character and of a text;
* `decodeUtf8? bytes` — the text that the bytes encode, if they are well formed;
* `decodeLossy bytes` — the text in which every maximal part that is not well formed has become a
  replacement character.

Design notes: one step of decoding looks at the first byte and at the range that its kind allows for
the second one, so that neither overlong forms nor surrogates are accepted.
-/

namespace SmokeTest.Text

/-- The bytes of a character. -/
def encodeChar (c : Char) : List UInt8 :=
  let n := c.toNat
  if n < 0x80 then [n.toUInt8]
  else if n < 0x800 then [(0xC0 + n / 0x40).toUInt8, (0x80 + n % 0x40).toUInt8]
  else if n < 0x10000 then
    [(0xE0 + n / 0x1000).toUInt8, (0x80 + n / 0x40 % 0x40).toUInt8, (0x80 + n % 0x40).toUInt8]
  else
    [(0xF0 + n / 0x40000).toUInt8, (0x80 + n / 0x1000 % 0x40).toUInt8,
      (0x80 + n / 0x40 % 0x40).toUInt8, (0x80 + n % 0x40).toUInt8]

/-- The bytes of a text. -/
def encodeUtf8 (s : String) : List UInt8 :=
  s.toList.flatMap encodeChar

/-- What the first byte of a character says: the number of bytes after it, its share of the number
of the character, and the range of the second byte. -/
def leadByte? (b : UInt8) : Option (Nat × Nat × Nat × Nat) :=
  let n := b.toNat
  if n < 0x80 then some (0, n, 0, 0)
  else if 0xC2 ≤ n && n ≤ 0xDF then some (1, n - 0xC0, 0x80, 0xBF)
  else if n == 0xE0 then some (2, 0, 0xA0, 0xBF)
  else if n == 0xED then some (2, 0xD, 0x80, 0x9F)
  else if 0xE1 ≤ n && n ≤ 0xEF then some (2, n - 0xE0, 0x80, 0xBF)
  else if n == 0xF0 then some (3, 0, 0x90, 0xBF)
  else if 0xF1 ≤ n && n ≤ 0xF3 then some (3, n - 0xF0, 0x80, 0xBF)
  else if n == 0xF4 then some (3, 4, 0x80, 0x8F)
  else none

/-- Reads the bytes after the first one of a character, the next of which lies in the given range:
the number of the character if all of them are there, and what follows the accepted ones. -/
def decodeTail : Nat → Nat → (low high : Nat) → List UInt8 → Option Nat × List UInt8
  | 0, value, _, _, rest => (some value, rest)
  | _, _, _, _, [] => (none, [])
  | n + 1, value, low, high, b :: rest =>
    if low ≤ b.toNat && b.toNat ≤ high then
      decodeTail n (value * 0x40 + (b.toNat - 0x80)) 0x80 0xBF rest
    else (none, b :: rest)

/-- Decodes the first character or refuses a maximal part; gives back the bytes after it. -/
def decodeFirst (b : UInt8) (rest : List UInt8) : Option Char × List UInt8 :=
  match leadByte? b with
  | none => (none, rest)
  | some (n, value, low, high) =>
    match decodeTail n value low high rest with
    | (some v, rest) => (some (Char.ofNat v), rest)
    | (none, rest) => (none, rest)

/-- Decodes the bytes, as many characters as there may be at most. -/
def decodeFrom : Nat → List UInt8 → List (Option Char)
  | _, [] => []
  | 0, _ => []
  | fuel + 1, b :: rest =>
    let (c, rest) := decodeFirst b rest
    c :: decodeFrom fuel rest

/-- The text that the bytes encode. -/
def decodeUtf8? (bytes : List UInt8) : Option String :=
  ((decodeFrom bytes.length bytes).mapM id).map String.ofList

/-- The text in which parts that are not well formed have become replacement characters. -/
def decodeLossy (bytes : List UInt8) : String :=
  String.ofList ((decodeFrom bytes.length bytes).map fun c => c.getD '\ufffd')

end SmokeTest.Text
