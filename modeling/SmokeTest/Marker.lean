/-
Markers: the pieces of a word such as `#:dev:+sit:-prod:` and what they say about a tag.

Main definitions:

* `Marker.selects token tag` — whether a marker selects a tag. A piece is *enclosed* if a colon
  stands on both sides of it. An enclosed `-` excludes every tag and an enclosed `-tag` excludes the
  tag; failing these, an enclosed `+` selects every tag and an enclosed `tag` or `+tag` selects the
  tag; failing these, the marker selects the tag if it lists no tag at all or lists the tag, where
  the text after the last colon is listed too;
* `Marker.selectsByPieces token tag` — the same rule said of the list of pieces instead of the text.

Design notes: letter case never matters, so both sides are compared in small letters.
-/
import SmokeTest.Text.Case
import SmokeTest.Text.Split

namespace SmokeTest.Marker

open Text

/-- Whether `:piece:` stands in the token. -/
def encloses (token piece : List Char) : Bool :=
  occursIn (':' :: piece ++ [':']) token

/-- The text of a token after its leader; empty if the token does not begin with a character of one
byte. -/
def body : List Char → List Char
  | c :: rest => if c.toNat < 0x80 then rest else []
  | [] => []

/-- The tags that a marker lists in favour, an explicit `+` taken off. -/
def listed (token : List Char) : List (List Char) :=
  ((pieces ':' (body token)).filter fun p => !p.isEmpty && !startsWith ['-'] p).map fun p =>
    (dropPrefix? ['+'] p).getD p

/-- Whether a marker selects a tag, both in small letters. -/
def selectsLower (token tag : List Char) : Bool :=
  if encloses token ['-'] || encloses token ('-' :: tag) then false
  else if encloses token ['+'] || encloses token tag || encloses token ('+' :: tag) then true
  else (listed token).isEmpty || (listed token).contains tag

/-- Whether a marker selects a tag. -/
def selects (token tag : String) : Bool :=
  selectsLower (lower token.toList) (lower tag.toList)

/-- The pieces of a token that have a colon on both sides. -/
def enclosedPieces (token : List Char) : List (List Char) :=
  ((pieces ':' token).drop 1).dropLast

/-- The rule of `selectsLower`, said of the pieces of the token. -/
def selectsByPieces (token tag : List Char) : Bool :=
  let enclosed := enclosedPieces token
  let listed := (((pieces ':' token).drop 1).filter fun p =>
    !p.isEmpty && !startsWith ['-'] p).map fun p => (dropPrefix? ['+'] p).getD p
  if enclosed.contains ['-'] || enclosed.contains ('-' :: tag) then false
  else if enclosed.contains ['+'] || enclosed.contains tag || enclosed.contains ('+' :: tag) then
    true
  else listed.isEmpty || listed.contains tag

end SmokeTest.Marker
