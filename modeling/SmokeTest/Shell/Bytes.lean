/-
Bytes as the text of the shell, and back.

What a command writes need not be text, and the shell counts and cuts by bytes. Inside the shell a
text has one character for every byte.

Main definitions:

* `ofBytes bytes`, `toBytes s` — between bytes and the texts of the shell;
* `inward s`, `outward s` — between texts and the texts of the shell.
-/
import SmokeTest.Text.Utf8

namespace SmokeTest.Shell

/-- The character that stands for a byte. -/
def byteChar (b : UInt8) : Char := Char.ofNat b.toNat

/-- The byte of a character. -/
def charByte (c : Char) : UInt8 := c.toNat.toUInt8

/-- The bytes of a text of the shell. -/
def toBytes (s : String) : List UInt8 := s.toList.map charByte

/-- The text of the shell that bytes are. -/
def ofBytes (bytes : List UInt8) : String := String.ofList (bytes.map byteChar)

/-- A text as the shell sees it. -/
def inward (s : String) : String := ofBytes (Text.encodeUtf8 s)

/-- A text of the shell as others see it. -/
def outward (s : String) : String := Text.decodeLossy (toBytes s)

end SmokeTest.Shell
