/-
JSON values.

Design notes: a string may be written with escapes that name half of a surrogate pair. It is then
well formed as JSON but has no text, so the text of a string is optional, for names of members as
well as for values. Numbers are kept as they are written, digits and exponent apart, so that reading
never rounds.
-/

namespace SmokeTest

namespace Json

/-- A number as it is written: `digits` times the power of ten with the given exponent. -/
structure Number where
  negative : Bool
  digits : Nat
  exponent : Int
  /-- Written without a fraction and without an exponent. -/
  whole : Bool
  deriving DecidableEq, Repr, Inhabited

namespace Number

/-- The number without a fraction and a sign. -/
def ofNat (n : Nat) : Number := ⟨false, n, 0, true⟩

/-- The value, if it is written as a whole number without a sign and does not exceed `limit`. -/
def toNat? (n : Number) (limit : Nat) : Option Nat :=
  if n.whole && !n.negative && n.digits ≤ limit then some n.digits else none

/-- Whether the value is less than the least power of two that a double cannot hold, rounding
included. -/
def isFinite (n : Number) : Bool :=
  if n.digits == 0 then true
  else
    let places := (Nat.toDigits 10 n.digits).length
    let size := n.exponent + places
    if size < 308 then true
    else if 310 < size then false
    else
      let bound := Nat.pow 2 1024 - Nat.pow 2 970
      if 0 ≤ n.exponent then n.digits * Nat.pow 10 n.exponent.toNat < bound
      else n.digits < bound * Nat.pow 10 (-n.exponent).toNat

end Number

end Json

/-- A JSON value. -/
inductive Json
  | null
  | bool (b : Bool)
  | number (n : Json.Number)
  /-- A string; it has no text if an escape in it is half of a surrogate pair. -/
  | string (s : Option String)
  | array (items : List Json)
  /-- The members in the order in which they are written. -/
  | object (members : List (Option String × Json))
  deriving Repr, Inhabited

namespace Json

/-- The string with the given text. -/
def text (s : String) : Json := string (some s)

mutual

/-- Whether the value can be held in memory when so many levels of nesting are left: every string
has a text, every number is finite, and arrays and objects are not nested too deeply. -/
def isStorable (levels : Nat) : Json → Bool
  | null | bool _ => true
  | number n => n.isFinite
  | string s => s.isSome
  | array items =>
    match levels with
    | 0 => false
    | levels + 1 => areStorable levels items
  | object members =>
    match levels with
    | 0 => false
    | levels + 1 => membersStorable levels members

/-- The same for every item of a list. -/
def areStorable (levels : Nat) : List Json → Bool
  | [] => true
  | v :: rest => isStorable levels v && areStorable levels rest

/-- The same for every member of a list, names included. -/
def membersStorable (levels : Nat) : List (Option String × Json) → Bool
  | [] => true
  | (name, v) :: rest => name.isSome && isStorable levels v && membersStorable levels rest

end

/-- Puts a member into a list: in the place of the member with the same name, or at the end. -/
def putMember {α : Type} [BEq α] (name : α) (v : Json) : List (α × Json) → List (α × Json)
  | [] => [(name, v)]
  | (n, w) :: rest => if n == name then (name, v) :: rest else (n, w) :: putMember name v rest

/-- The list in which no name occurs twice: the last value of a name, in the place of the first. -/
def mergeMembers {α : Type} [BEq α] (members : List (α × Json)) : List (α × Json) :=
  members.foldl (fun merged (name, v) => putMember name v merged) []

mutual

/-- The value in which no object has a name twice. -/
def merged : Json → Json
  | array items => array (mergedItems items)
  | object members => object (mergeMembers (mergedMembers members))
  | v => v

/-- The same for every item of a list. -/
def mergedItems : List Json → List Json
  | [] => []
  | v :: rest => merged v :: mergedItems rest

/-- The same for every member of a list. -/
def mergedMembers : List (Option String × Json) → List (Option String × Json)
  | [] => []
  | (name, v) :: rest => (name, merged v) :: mergedMembers rest

end

end Json

end SmokeTest
