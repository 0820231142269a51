/-
Commands that show bytes as text and back.
-/
import SmokeTest.Shell.Utility.Basic

namespace SmokeTest.Shell.Utility

open Text

/-- A text with blanks before it, up to a width. -/
def rightAligned (width : Nat) (s : List Char) : List Char :=
  List.replicate (width - s.length) ' ' ++ s

/-- A number with zeros before it, up to a width. -/
def zeroPadded (base width n : Nat) : List Char :=
  let digits := Nat.toDigits base n
  List.replicate (width - digits.length) '0' ++ digits

/-- A byte as a character, or as the escape or octal number that stands for it. -/
def byteAsChar (b : UInt8) : List Char :=
  match b.toNat with
  | 0 => ['\\', '0']
  | 7 => ['\\', 'a']
  | 8 => ['\\', 'b']
  | 9 => ['\\', 't']
  | 10 => ['\\', 'n']
  | 11 => ['\\', 'v']
  | 12 => ['\\', 'f']
  | 13 => ['\\', 'r']
  | n => if 0x20 ≤ n && n < 0x7f then [Char.ofNat n] else zeroPadded 8 3 n

/-- How one unit of bytes is shown: the size of the unit and its text with the blanks before it. -/
def dumpStyle (os : List (Char × String)) : Nat × (List UInt8 → List Char) :=
  let number (unit : List UInt8) : Nat := unit.foldr (fun b n => b.toNat + 256 * n) 0
  let bytewise (f : Nat → List Char) : Nat × (List UInt8 → List Char) := (1, fun u => f (number u))
  if has os 'c' then (1, fun u => rightAligned 4 (u.flatMap byteAsChar))
  else if has os 'b' then bytewise fun n => ' ' :: zeroPadded 8 3 n
  else if has os 'x' then (2, fun u => ' ' :: zeroPadded 16 4 (number u))
  else
    match value? os 't' with
    | some "x1" => bytewise fun n => ' ' :: zeroPadded 16 2 n
    | some "o1" => bytewise fun n => ' ' :: zeroPadded 8 3 n
    | some "u1" => bytewise fun n => rightAligned 4 (Nat.toDigits 10 n)
    | some "d1" => bytewise fun n =>
      let digits := Nat.toDigits 10 (if n < 128 then n else 256 - n)
      rightAligned 5 (if n < 128 then digits else '-' :: digits)
    | some "c" => (1, fun u => rightAligned 4 (u.flatMap byteAsChar))
    | some "x2" => (2, fun u => ' ' :: zeroPadded 16 4 (number u))
    | _ => (2, fun u => ' ' :: zeroPadded 8 6 (number u))

/-- A list in pieces of a size, the last of which may be shorter. -/
def chunksOf {α : Type} (size : Nat) : Nat → List α → List (List α)
  | fuel + 1, x :: xs => (x :: xs).take size :: chunksOf size fuel ((x :: xs).drop size)
  | _, _ => []

/-- Shows bytes, sixteen on a line; lines like the one before them are shown as a star. -/
def od (c : Call) : Effect :=
  let (os, paths) := options ['A', 't', 'N'] c.arguments
  onText c paths fun bytes =>
    let bytes := match (value? os 'N').bind natural? with
      | some n => bytes.take n
      | none => bytes
    let (size, unit) := dumpStyle os
    let rows := chunksOf 16 (bytes.length + 1) bytes
    let address (n : Nat) : List Char :=
      if value? os 'A' == some "n" then [] else zeroPadded 8 7 n
    let row (r : List UInt8) (i : Nat) : List Char :=
      address (16 * i) ++ (chunksOf size (r.length + 1) r).flatMap unit
    let shown := (List.range rows.length).filterMap fun i =>
      let r := (rows[i]?).getD []
      let same := !has os 'v' && 0 < i && rows[i - 1]? == some r
      let sameBefore := 1 < i && rows[i - 1]? == rows[i - 2]?
      if same then if sameBefore then none else some ['*'] else some (row r i)
    let last := address bytes.length
    unlines (shown ++ if last.isEmpty then [] else [last])

/-- The sixty-four digits of a text that stands for bytes. -/
def digits64 : List Char :=
  "ABCDEFGHIJKLMNOPQRSTUVWXYZabcdefghijklmnopqrstuvwxyz0123456789+/".toList

/-- Three bytes as four digits. -/
def encode64 : List UInt8 → List Char
  | a :: b :: c :: rest =>
    let n := a.toNat * 65536 + b.toNat * 256 + c.toNat
    [n / 262144, n / 4096 % 64, n / 64 % 64, n % 64].map digit ++ encode64 rest
  | [a, b] =>
    let n := a.toNat * 256 + b.toNat
    [n / 1024, n / 16 % 64, n % 16 * 4].map digit ++ ['=']
  | [a] => [a.toNat / 4, a.toNat % 4 * 16].map digit ++ ['=', '=']
  | [] => []
where
  /-- The digit with a number. -/
  digit (n : Nat) : Char := (digits64[n]?).getD '='

/-- The bytes that digits stand for; none if a character is no digit. -/
def decode64? (s : List Char) : Option (List UInt8) := do
  let numbers ← (s.filter (· != '=')).mapM fun c => digits64.findIdx? (· == c)
  let bytes := (chunksOf 4 (numbers.length + 1) numbers).flatMap fun group =>
    let n := group.foldl (fun n d => n * 64 + d) 0 * Nat.pow 64 (4 - group.length)
    [n / 65536, n / 256 % 256, n % 256].take (group.length - 1)
  some (bytes.map Nat.toUInt8)

/-- Writes bytes as digits, or digits as bytes. -/
def base64 (c : Call) : Effect :=
  let (os, paths) := options ['w'] c.arguments
  let width := ((value? os 'w').bind natural?).getD 76
  if has os 'd' || c.arguments.contains "--decode" then
    let (texts, errors) := readAll c paths
    let s := (texts.flatMap fun (_, b) => (ofBytes b).toList).filter (· != '\n')
    match decode64? s with
    | some output =>
      { output, errors, reads := paths.isEmpty, status := if errors.isEmpty then 0 else 1 }
    | none => { errors := "base64: invalid input\n", reads := paths.isEmpty, status := 1 }
  else
    onText c paths fun bytes =>
      let s := encode64 bytes
      if width = 0 then s.map charByte else unlines (chunksOf width (s.length + 1) s)

end SmokeTest.Shell.Utility
