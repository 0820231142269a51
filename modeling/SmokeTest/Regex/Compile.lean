/-
The meaning of patterns.

Main definitions:

* `Pattern.meaning flags p` — the regular expression that a pattern writes under flags, and the
  flags that hold after it; none if the pattern asks for a property that does not exist, or without
  Unicode for bytes that are no text;
* `Regex.ofPattern? text` — the regular expression that a text writes, if its size is acceptable.

Design notes: a change of flags holds up to the end of the group it stands in, also in the branches
that follow. With Unicode switched off the classes are those of ASCII, and a set that reaches beyond
ASCII is refused, because a single byte above 127 is no text.
-/
import SmokeTest.Regex.Age
import SmokeTest.Regex.Basic
import SmokeTest.Regex.Binary
import SmokeTest.Regex.Category
import SmokeTest.Regex.Reader
import SmokeTest.Regex.Script
import SmokeTest.Regex.ScriptExtension
import SmokeTest.Regex.Weight

namespace SmokeTest.Regex

/-! ### Properties -/

/-- The union of the sets of characters. -/
def CharSet.unionOf (sets : List CharSet) : CharSet :=
  sets.foldr CharSet.union CharSet.empty

/-- The set of the characters that have the property. -/
def Property.toSet (p : Property) : CharSet :=
  .ranges p.ranges

/-- The general categories that are unions of others, by their names. -/
def categoryGroups : List (List String × List String) := [
  (["l", "letter"], ["lu", "ll", "lt", "lm", "lo"]),
  (["lc", "casedletter"], ["lu", "ll", "lt"]),
  (["m", "mark", "combiningmark"], ["mn", "mc", "me"]),
  (["n", "number"], ["nd", "nl", "no"]),
  (["p", "punctuation", "punct"], ["pc", "pd", "ps", "pe", "pi", "pf", "po"]),
  (["s", "symbol"], ["sm", "sc", "sk", "so"]),
  (["z", "separator"], ["zs", "zl", "zp"])]

/-- The characters that have a general category other than unassigned. -/
def assigned : CharSet :=
  CharSet.unionOf (categories.map Property.toSet)

/-- The set of a general category. -/
def categorySet? (name : String) : Option CharSet :=
  match categoryGroups.find? fun (names, _) => names.contains name with
  | some (_, parts) =>
    some (CharSet.unionOf (parts.filterMap fun part =>
      (Property.find? categories part).map Property.toSet))
  | none =>
    match name with
    | "any" => some (.compl .empty)
    | "ascii" => some (.ranges [(0, 0x7F)])
    | "assigned" => some assigned
    | "cn" | "unassigned" => some (.compl assigned)
    | "c" | "other" =>
      some (.union (.compl assigned) (CharSet.unionOf (["cc", "cf", "co"].filterMap fun part =>
        (Property.find? categories part).map Property.toSet)))
    | _ => (Property.find? categories name).map Property.toSet

/-- The set of a script. -/
def scriptSet? (name : String) : Option CharSet :=
  (Property.find? scripts name).map Property.toSet

/-- The characters that are used with a script. -/
def scriptExtensionSet? (name : String) : Option CharSet :=
  match Property.find? scriptExtensions name with
  | some p => some p.toSet
  | none => scriptSet? name

/-- The characters that were assigned in a version or earlier. -/
def ageSet? (version : String) : Option CharSet :=
  if (Property.find? ages version).isSome then
    let later := (ages.dropWhile fun p => !p.names.contains version).drop 1
    some (CharSet.unionOf ((ages.take (ages.length - later.length)).map Property.toSet))
  else none

/-- The set that a query asks for. A single name is looked for among the binary properties, the
general categories and the scripts, in this order. -/
def PropertyQuery.set? : PropertyQuery → Option CharSet
  | .named text =>
    let name := looseName text
    match Property.find? binaryProperties name with
    | some p => some p.toSet
    | none => (categorySet? name).or (scriptSet? name)
  | .valued property value =>
    match looseName property with
    | "gc" | "generalcategory" => categorySet? (looseName value)
    | "sc" | "script" => scriptSet? (looseName value)
    | "scx" | "scriptextensions" => scriptExtensionSet? (looseName value)
    | "age" => ageSet? (looseName value)
    | _ => none

/-! ### Classes -/

/-- The flags that decide what a part of a pattern means. -/
structure Mode where
  ignoreCase : Bool := false
  multiLine : Bool := false
  dotMatchesNewline : Bool := false
  unicode : Bool := true
  carriageReturns : Bool := false
  deriving DecidableEq, Repr

/-- The mode after a change of flags. -/
def Mode.change (m : Mode) (c : FlagChange) : Mode :=
  { ignoreCase := c.apply .ignoreCase m.ignoreCase
    multiLine := c.apply .multiLine m.multiLine
    dotMatchesNewline := c.apply .dotMatchesNewline m.dotMatchesNewline
    unicode := c.apply .unicode m.unicode
    carriageReturns := c.apply .carriageReturns m.carriageReturns }

/-- The decimal digits, blanks and word characters of ASCII. -/
def ShortClass.asciiSet : ShortClass → CharSet
  | .digit => .ranges [(0x30, 0x39)]
  | .space => .ranges [(0x09, 0x0D), (0x20, 0x20)]
  | .word => .ranges [(0x30, 0x39), (0x41, 0x5A), (0x5F, 0x5F), (0x61, 0x7A)]

/-- The word characters: letters, marks, decimal digits, connectors and the two joiners. -/
def wordSet : CharSet :=
  CharSet.unionOf
    ((["alpha", "joinc"].filterMap fun name =>
        (Property.find? binaryProperties name).map Property.toSet) ++
      ["m", "nd", "pc"].filterMap categorySet?)

/-- The decimal digits, blanks and word characters. -/
def ShortClass.unicodeSet : ShortClass → CharSet
  | .digit => (categorySet? "nd").getD .empty
  | .space => ((Property.find? binaryProperties "wspace").map Property.toSet).getD .empty
  | .word => wordSet

/-- The characters of a class with a name. -/
def NamedClass.set : NamedClass → CharSet
  | .alnum => .ranges [(0x30, 0x39), (0x41, 0x5A), (0x61, 0x7A)]
  | .alpha => .ranges [(0x41, 0x5A), (0x61, 0x7A)]
  | .ascii => .ranges [(0x00, 0x7F)]
  | .blank => .ranges [(0x09, 0x09), (0x20, 0x20)]
  | .cntrl => .ranges [(0x00, 0x1F), (0x7F, 0x7F)]
  | .digit => .ranges [(0x30, 0x39)]
  | .graph => .ranges [(0x21, 0x7E)]
  | .lower => .ranges [(0x61, 0x7A)]
  | .print => .ranges [(0x20, 0x7E)]
  | .punct => .ranges [(0x21, 0x2F), (0x3A, 0x40), (0x5B, 0x60), (0x7B, 0x7E)]
  | .space => .ranges [(0x09, 0x0D), (0x20, 0x20)]
  | .upper => .ranges [(0x41, 0x5A)]
  | .word => .ranges [(0x30, 0x39), (0x41, 0x5A), (0x5F, 0x5F), (0x61, 0x7A)]
  | .xdigit => .ranges [(0x30, 0x39), (0x41, 0x46), (0x61, 0x66)]

/-- Adds what differs in case only, if case is ignored. -/
def Mode.closeCase (m : Mode) (s : CharSet) : CharSet :=
  if !m.ignoreCase then s
  else if m.unicode then .sameCase s
  else .sameCaseAscii s

/-- The complement, if it is asked for. -/
def complIf (negated : Bool) (s : CharSet) : CharSet :=
  if negated then .compl s else s

/-- Refuses a set of bytes that are no text. -/
def Mode.admit? (m : Mode) (s : CharSet) : Option CharSet :=
  if m.unicode || s.isAscii then some s else none

/-- The character that a literal means. -/
def Mode.char? (m : Mode) (l : Literal) : Option Char :=
  if !m.unicode && l.isByte && 0x7F < l.char.toNat then none else some l.char

/-- The character that a literal means inside a bracketed class. -/
def Mode.classChar? (m : Mode) (l : Literal) : Option Char :=
  (m.char? l).filter fun c => m.unicode || c.toNat < 0x80

/-- The set of a class with a one letter escape. -/
def Mode.shortSet? (m : Mode) (negated : Bool) (c : ShortClass) : Option CharSet :=
  if m.unicode then some (complIf negated c.unicodeSet)
  else m.admit? (complIf negated c.asciiSet)

/-- The set of a property. -/
def Mode.propertySet? (m : Mode) (negated : Bool) (q : PropertyQuery) : Option CharSet :=
  if m.unicode then q.set?.map fun s => complIf negated (m.closeCase s) else none

mutual

/-- The set that the inside of a bracketed class writes. -/
def Mode.classSet? (m : Mode) : ClassSet → Option CharSet
  | .literal l => (m.classChar? l).map .single
  | .range a b => do
    let first ← m.classChar? a
    let last ← m.classChar? b
    return .ranges [(first.toNat, last.toNat)]
  | .named negated c => m.admit? (complIf negated (m.closeCase c.set))
  | .short negated c => m.shortSet? negated c
  | .property negated q => m.propertySet? negated q
  | .bracket negated inside => do
    let s ← m.classSet? inside
    m.admit? (complIf negated (m.closeCase s))
  | .none => some .empty
  | .union a b more => do
    let a ← m.classSet? a
    let b ← m.classSet? b
    return .union a (.union b (← m.classSets? more))
  | .op o left right => do
    let left ← m.classSet? left
    let right ← m.classSet? right
    let left := m.closeCase left
    let right := m.closeCase right
    match o with
    | .inter => return .inter left right
    | .diff => return .diff left right
    | .symmDiff => return .symmDiff left right

/-- The union of the sets that the list writes. -/
def Mode.classSets? (m : Mode) : List ClassSet → Option CharSet
  | [] => some .empty
  | s :: more => do
    let s ← m.classSet? s
    return .union s (← m.classSets? more)

end

/-! ### Patterns -/

/-- The word characters of the mode. -/
def Mode.word (m : Mode) : CharSet :=
  if m.unicode then ShortClass.word.unicodeSet else ShortClass.word.asciiSet

/-- The condition that an assertion means. -/
def Mode.look (m : Mode) : Assertion → Look
  | .lineStart =>
    if !m.multiLine then .textStart else if m.carriageReturns then .lineStartReturn else .lineStart
  | .lineEnd =>
    if !m.multiLine then .textEnd else if m.carriageReturns then .lineEndReturn else .lineEnd
  | .textStart => .textStart
  | .textEnd => .textEnd
  | .wordBoundary => .wordBoundary m.word
  | .notWordBoundary => .notWordBoundary m.word
  | .wordStart => .wordStart m.word
  | .wordEnd => .wordEnd m.word
  | .wordStartHalf => .wordStartHalf m.word
  | .wordEndHalf => .wordEndHalf m.word

/-- The characters that a dot means. -/
def Mode.dotSet? (m : Mode) : Option CharSet :=
  if !m.unicode then none
  else if m.dotMatchesNewline then some (.compl .empty)
  else if m.carriageReturns then some (.compl (.ranges [(0x0A, 0x0A), (0x0D, 0x0D)]))
  else some (.compl (.ranges [(0x0A, 0x0A)]))

/-- Whether the expression never consumes a character. -/
def onlyEmpty : Regex → Bool
  | .empty | .look _ => true
  | .chars _ => false
  | .seq a b | .alt a b => onlyEmpty a && onlyEmpty b
  | .group a => onlyEmpty a
  | .rep a _ max => onlyEmpty a || max == some 0

/-- So many repetitions; those of the empty text are not counted. -/
def repeated (r : Regex) (min : Nat) (max : Option Nat) : Regex :=
  if onlyEmpty r then .rep r (Nat.min min 1) (some (Nat.min (max.getD 1) 1))
  else .rep r min max

mutual

/-- The expression that a pattern writes in a mode, and the mode after it. -/
def Pattern.meaning? (m : Mode) : Pattern → Option (Regex × Mode)
  | .empty => some (.empty, m)
  | .flags change => some (.empty, m.change change)
  | .literal l => do
    let c ← m.char? l
    return (.chars (m.closeCase (.single c)), m)
  | .dot => do return (.chars (← m.dotSet?), m)
  | .assertion a => some (.look (m.look a), m)
  | .short negated c => do return (.chars (← m.shortSet? negated c), m)
  | .property negated q => do return (.chars (← m.propertySet? negated q), m)
  | .bracket negated inside => do
    let s ← m.classSet? inside
    return (.chars (← m.admit? (complIf negated (m.closeCase s))), m)
  | .repeated p min max => do
    let (r, after) ← p.meaning? m
    return (repeated r min max, after)
  | .group change p => do
    match change with
    | some c =>
      let (r, _) ← p.meaning? (m.change c)
      return (r, m)
    | none =>
      let (r, _) ← p.meaning? m
      return (.group r, m)
  | .choice p q more => do
    let (a, after) ← p.meaning? m
    let (b, after) ← q.meaning? after
    let (c, after) ← choiceMeaning? after b more
    return (.alt a c, after)
  | .sequence p q more => do
    let (a, after) ← p.meaning? m
    let (b, after) ← q.meaning? after
    let (c, after) ← sequenceMeaning? after more
    return (.seq a (.seq b c), after)

/-- One of the patterns of the list, or `first`. -/
def choiceMeaning? (m : Mode) (first : Regex) : List Pattern → Option (Regex × Mode)
  | [] => some (first, m)
  | p :: more => do
    let (a, after) ← p.meaning? m
    let (b, after) ← choiceMeaning? after a more
    return (.alt first b, after)

/-- The patterns of the list one after the other. -/
def sequenceMeaning? (m : Mode) : List Pattern → Option (Regex × Mode)
  | [] => some (.empty, m)
  | p :: more => do
    let (a, after) ← p.meaning? m
    let (b, after) ← sequenceMeaning? after more
    return (.seq a b, after)

end

/-- The regular expression that a text writes, if it writes one of acceptable size. -/
def ofPattern? (text : List Char) : Option Regex := do
  let p ← Pattern.read? text
  let (r, _) ← p.meaning? {}
  if r.weight ≤ weightLimit then some r else none

end SmokeTest.Regex
