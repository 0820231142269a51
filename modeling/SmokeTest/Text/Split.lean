/-
Cutting a text at a separator character, and finding one text inside another.

Main definitions:

* `cut c s` — the parts of `s` before and after the first `c`;
* `pieces c s` — all parts of `s` between the `c`s, never the empty list;
* `occursIn t s` — whether `t` stands somewhere in `s`.
-/

namespace SmokeTest.Text

/-- The text before and the text after the first `c`, if there is one. -/
def cut (c : Char) : List Char → Option (List Char × List Char)
  | [] => none
  | x :: rest =>
    if x = c then some ([], rest)
    else (cut c rest).map fun (front, back) => (x :: front, back)

/-- The maximal parts of the text that hold no `c`, empty parts included. -/
def pieces (c : Char) : List Char → List (List Char)
  | [] => [[]]
  | x :: rest =>
    if x = c then [] :: pieces c rest
    else
      match pieces c rest with
      | [] => [[x]]
      | p :: ps => (x :: p) :: ps

/-- Whether `t` is what `s` begins with. -/
def startsWith : (t s : List Char) → Bool
  | [], _ => true
  | _ :: _, [] => false
  | a :: t, b :: s => a == b && startsWith t s

/-- Whether `t` stands somewhere in `s`; the empty text stands in every text. -/
def occursIn (t : List Char) : List Char → Bool
  | [] => t.isEmpty
  | c :: s => startsWith t (c :: s) || occursIn t s

/-- What follows `t` in a text that begins with it. -/
def dropPrefix? : (t s : List Char) → Option (List Char)
  | [], s => some s
  | _ :: _, [] => none
  | a :: t, b :: s => if a = b then dropPrefix? t s else none

end SmokeTest.Text
