/-
Patterns: regular expressions as they are written.

A pattern keeps what the text says (groups, flags, the kinds of escapes); what it means is decided
when it is given a meaning under flags.

Main definitions:

* `Pattern` — the syntax tree of a pattern;
* `Pattern.depth` — how deeply groups, repetitions, classes, alternations and sequences are nested.
-/

namespace SmokeTest.Regex

/-- What a pattern can switch on and off. -/
inductive Flag
  | ignoreCase
  | multiLine
  | dotMatchesNewline
  | swapGreed
  | unicode
  | carriageReturns
  | spaced
  deriving DecidableEq, Repr

/-- A change of flags: those before the `-` are switched on, those after it off. -/
structure FlagChange where
  on : List Flag
  off : List Flag
  deriving DecidableEq, Repr

/-- The new state of a flag. -/
def FlagChange.apply (change : FlagChange) (flag : Flag) (old : Bool) : Bool :=
  if change.off.contains flag then false
  else if change.on.contains flag then true
  else old

/-- Conditions on a position that consume nothing. -/
inductive Assertion
  | lineStart
  | lineEnd
  | textStart
  | textEnd
  | wordBoundary
  | notWordBoundary
  | wordStart
  | wordEnd
  | wordStartHalf
  | wordEndHalf
  deriving DecidableEq, Repr

/-- A character as it is written. -/
structure Literal where
  char : Char
  /-- Written as `\x` and two digits, which means a byte where Unicode is switched off. -/
  isByte : Bool := false
  deriving DecidableEq, Repr

/-- The classes with a one letter escape. -/
inductive ShortClass
  | digit
  | space
  | word
  deriving DecidableEq, Repr

/-- The classes with a name between `[:` and `:]`. -/
inductive NamedClass
  | alnum | alpha | ascii | blank | cntrl | digit | graph | lower | print | punct | space | upper
  | word | xdigit
  deriving DecidableEq, Repr

/-- The operators of bracketed classes. -/
inductive SetOp
  | inter
  | diff
  | symmDiff
  deriving DecidableEq, Repr

/-- A property asked for by name, or by name and value. -/
inductive PropertyQuery
  | named (name : List Char)
  | valued (name value : List Char)
  deriving DecidableEq, Repr

/-- What can stand in a bracketed class. -/
inductive ClassSet
  | literal (c : Literal)
  | range (first last : Literal)
  | named (negated : Bool) (c : NamedClass)
  | short (negated : Bool) (c : ShortClass)
  | property (negated : Bool) (q : PropertyQuery)
  | bracket (negated : Bool) (inside : ClassSet)
  | none
  | union (first second : ClassSet) (more : List ClassSet)
  | op (o : SetOp) (left right : ClassSet)
  deriving Repr, Inhabited

/-- A regular expression as it is written. -/
inductive Pattern
  | empty
  | flags (change : FlagChange)
  | literal (c : Literal)
  | dot
  | assertion (a : Assertion)
  | short (negated : Bool) (c : ShortClass)
  | property (negated : Bool) (q : PropertyQuery)
  | bracket (negated : Bool) (inside : ClassSet)
  | repeated (p : Pattern) (min : Nat) (max : Option Nat)
  | group (change : Option FlagChange) (p : Pattern)
  | choice (first second : Pattern) (more : List Pattern)
  | sequence (first second : Pattern) (more : List Pattern)
  deriving Repr, Inhabited

namespace ClassSet

/-- The union of the sets in the list. -/
def ofList : List ClassSet → ClassSet
  | [] => none
  | [s] => s
  | a :: b :: more => union a b more

mutual

/-- How deeply the parts of a bracketed class are nested. -/
def depth : ClassSet → Nat
  | literal _ | range .. | named .. | short .. | property .. | none => 0
  | bracket _ inside => inside.depth + 1
  | union a b more => max (max a.depth b.depth) (maxDepth more) + 1
  | op _ left right => max left.depth right.depth + 1

/-- The greatest depth in a list. -/
def maxDepth : List ClassSet → Nat
  | [] => 0
  | s :: more => max s.depth (maxDepth more)

end

end ClassSet

namespace Pattern

/-- The patterns of the list one after the other. -/
def sequenceOf : List Pattern → Pattern
  | [] => empty
  | [p] => p
  | p :: q :: more => sequence p q more

/-- One of the patterns of the list. -/
def choiceOf : List Pattern → Pattern
  | [] => empty
  | [p] => p
  | p :: q :: more => choice p q more

mutual

/-- How deeply the parts of a pattern are nested. -/
def depth : Pattern → Nat
  | empty | flags _ | literal _ | dot | assertion _ | short .. | property .. => 0
  | bracket _ inside => inside.depth + 1
  | repeated p _ _ => p.depth + 1
  | group _ p => p.depth + 1
  | choice p q more | sequence p q more => max (max p.depth q.depth) (maxDepth more) + 1

/-- The greatest depth in a list. -/
def maxDepth : List Pattern → Nat
  | [] => 0
  | p :: more => max p.depth (maxDepth more)

end

/-- How deeply a pattern may be nested. -/
def depthLimit : Nat := 250

end Pattern

end SmokeTest.Regex
