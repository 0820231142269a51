/-
YAML documents as trees.

Main definitions:

* `Node` — scalars, sequences and mappings, with their tags, anchors and aliases;
* `Node.read? text` — the tree of a text that holds at most one document.

Design notes: an alias names the number of an anchor, and the nodes with anchors are listed beside
the tree, because an anchored node may contain its own alias. The number of an anchor is the number
of names that are known before it, so an anchor that takes up a known name gets the number of the
next new name; what an alias means is the last node with its number.
-/
import SmokeTest.Yaml.Lexer

namespace SmokeTest.Yaml

/-- A node of a document. -/
inductive Node
  | scalar (tag : Option String) (text : String) (style : Style)
  | sequence (tag : Option String) (items : List Node)
  | mapping (tag : Option String) (pairs : List (Node × Node))
  /-- The node with the given anchor. -/
  | ref (anchor : Nat)
  /-- A node that can be referred to. -/
  | anchored (anchor : Nat) (node : Node)
  deriving Repr, Inhabited

namespace Node

/-- A scalar where nothing is written. -/
def missing : Node := scalar none "" .plain

mutual

/-- The nodes with anchors, in the order in which they begin. -/
def anchors : Node → List (Nat × Node)
  | scalar .. | ref _ => []
  | sequence _ items => anchorsOfItems items
  | mapping _ pairs => anchorsOfPairs pairs
  | anchored anchor node => (anchor, node) :: anchors node

/-- The same for the items of a sequence. -/
def anchorsOfItems : List Node → List (Nat × Node)
  | [] => []
  | n :: rest => anchors n ++ anchorsOfItems rest

/-- The same for the pairs of a mapping. -/
def anchorsOfPairs : List (Node × Node) → List (Nat × Node)
  | [] => []
  | (k, v) :: rest => anchors k ++ anchors v ++ anchorsOfPairs rest

end

mutual

/-- The number of events that write a node: one for a leaf, two for a collection. -/
def events : Node → Nat
  | scalar .. | ref _ => 1
  | sequence _ items => eventsOfItems items + 2
  | mapping _ pairs => eventsOfPairs pairs + 2
  | anchored _ node => events node

/-- The same for the items of a sequence. -/
def eventsOfItems : List Node → Nat
  | [] => 0
  | n :: rest => events n + eventsOfItems rest

/-- The same for the pairs of a mapping. -/
def eventsOfPairs : List (Node × Node) → Nat
  | [] => 0
  | (k, v) :: rest => events k + events v + eventsOfPairs rest

end

end Node

/-! ### From tokens to nodes -/

/-- What is left to read, and what has been defined so far. -/
structure Source where
  tokens : List Token
  /-- The names of anchors with their numbers. -/
  names : List (String × Nat) := []
  /-- The handles of tags with what they stand for. -/
  handles : List (String × String) := [("!", "!"), ("!!", "tag:yaml.org,2002:")]

/-- A reader of nodes. -/
abbrev Builder := StateT Source Option

namespace Builder

/-- The next token. -/
def peek : Builder Token := do
  match (← get).tokens with
  | t :: _ => return t
  | [] => failure

/-- Consumes a token. -/
def skip : Builder Unit :=
  modify fun s => { s with tokens := s.tokens.tail }

/-- Goes on only if the condition holds. -/
def require (b : Bool) : Builder Unit :=
  if b then pure () else failure

/-- The number of a new anchor. -/
def defineAnchor (name : String) : Builder Nat := do
  let names := (← get).names
  let number := names.length
  let names :=
    if names.any (·.1 == name) then
      names.map fun n => if n.1 == name then (name, number) else n
    else names ++ [(name, number)]
  modify fun s => { s with names }
  return number

/-- The tag that a handle and a suffix write. -/
def resolveTag (handle suffix : String) : Builder String := do
  if handle.isEmpty then return suffix
  match (← get).handles.lookup handle with
  | some start => return start ++ suffix
  | none => failure

/-- What precedes a node: an anchor and a tag, each at most once and in any order. -/
def properties : Builder (Option String × Option String) := do
  match ← peek with
  | .anchor name =>
    skip
    match ← peek with
    | .tag handle suffix =>
      skip
      return (some name, some (← resolveTag handle suffix))
    | _ => return (some name, none)
  | .tag handle suffix =>
    skip
    match ← peek with
    | .anchor name =>
      skip
      return (some name, some (← resolveTag handle suffix))
    | _ => return (none, some (← resolveTag handle suffix))
  | _ => return (none, none)

/-- The tag that a scalar keeps: the tag that says nothing is dropped. -/
def scalarTag (tag : Option String) : Option String :=
  tag.filter (· != "!")

mutual

/-- A node. In a block mapping a sequence may stand without indentation. -/
def node : Nat → (block unindented : Bool) → Builder Node
  | 0, _, _ => failure
  | fuel + 1, block, unindented => do
    match ← peek with
    | .aliasTo name =>
      skip
      match (← get).names.lookup name with
      | some number => return .ref number
      | none => failure
    | _ =>
      let (anchor, tag) ← properties
      let number ← anchor.mapM defineAnchor
      let content ←
        match ← peek with
        | .scalar text style =>
          skip
          pure (Node.scalar (scalarTag tag) text style)
        | .flowSequenceStart =>
          skip
          pure (Node.sequence tag (← flowItems fuel true []))
        | .flowMappingStart =>
          skip
          pure (Node.mapping tag (← flowPairs fuel true []))
        | .blockSequenceStart =>
          require block
          skip
          pure (Node.sequence tag (← blockItems fuel []))
        | .blockMappingStart =>
          require block
          skip
          pure (Node.mapping tag (← blockPairs fuel []))
        | .blockEntry =>
          if unindented then
            pure (Node.sequence tag (← unindentedItems fuel []))
          else
            require (anchor.isSome || tag.isSome)
            pure (Node.scalar tag "" .plain)
        | _ =>
          require (anchor.isSome || tag.isSome)
          pure (Node.scalar tag "" .plain)
      return match number with
        | some n => .anchored n content
        | none => content

/-- The items of a block sequence and its end. -/
def blockItems : Nat → List Node → Builder (List Node)
  | 0, _ => failure
  | fuel + 1, read => do
    match ← peek with
    | .blockEntry =>
      skip
      match ← peek with
      | .blockEntry | .blockEnd => blockItems fuel (.missing :: read)
      | _ =>
        let n ← node fuel true false
        blockItems fuel (n :: read)
    | .blockEnd =>
      skip
      return read.reverse
    | _ => failure

/-- The items of a sequence that ends without a mark. -/
def unindentedItems : Nat → List Node → Builder (List Node)
  | 0, _ => failure
  | fuel + 1, read => do
    match ← peek with
    | .blockEntry =>
      skip
      match ← peek with
      | .blockEntry | .key | .value | .blockEnd => unindentedItems fuel (.missing :: read)
      | _ =>
        let n ← node fuel true false
        unindentedItems fuel (n :: read)
    | _ => return read.reverse

/-- A key or a value of a block mapping, which may be missing. -/
def blockPart : Nat → Builder Node
  | 0 => failure
  | fuel + 1 => do
    match ← peek with
    | .key | .value | .blockEnd => return .missing
    | _ => node fuel true true

/-- The pairs of a block mapping and its end. -/
def blockPairs : Nat → List (Node × Node) → Builder (List (Node × Node))
  | 0, _ => failure
  | fuel + 1, read => do
    match ← peek with
    | .key =>
      skip
      let k ← blockPart fuel
      let v ← blockValue fuel
      blockPairs fuel ((k, v) :: read)
    | .blockEnd =>
      skip
      return read.reverse
    | _ => failure

/-- The value of a block mapping behind its mark, if there is one. -/
def blockValue : Nat → Builder Node
  | 0 => failure
  | fuel + 1 => do
    match ← peek with
    | .value =>
      skip
      blockPart fuel
    | _ => return .missing

/-- The items of a flow sequence and its end. An item with a key is a mapping of one pair. -/
def flowItems : Nat → (first : Bool) → List Node → Builder (List Node)
  | 0, _, _ => failure
  | fuel + 1, first, read => do
    if (← peek) == .flowSequenceEnd then
      skip
      return read.reverse
    if !first then
      require ((← peek) == .flowEntry)
      skip
    match ← peek with
    | .flowSequenceEnd =>
      skip
      return read.reverse
    | .key =>
      skip
      let pair ← flowItemPair fuel
      flowItems fuel false (.mapping none [pair] :: read)
    | _ =>
      let n ← node fuel false false
      flowItems fuel false (n :: read)

/-- The pair that an item of a flow sequence writes. Where the key is missing, the mark behind it is
dropped as well. -/
def flowItemPair : Nat → Builder (Node × Node)
  | 0 => failure
  | fuel + 1 => do
    let k ←
      match ← peek with
      | .value | .flowEntry | .flowSequenceEnd =>
        skip
        pure Node.missing
      | _ => node fuel false false
    match ← peek with
    | .value =>
      skip
      match ← peek with
      | .flowEntry | .flowSequenceEnd => return (k, .missing)
      | _ => return (k, ← node fuel false false)
    | _ => return (k, .missing)

/-- The pairs of a flow mapping and its end. -/
def flowPairs : Nat → (first : Bool) → List (Node × Node) → Builder (List (Node × Node))
  | 0, _, _ => failure
  | fuel + 1, first, read => do
    if (← peek) == .flowMappingEnd then
      skip
      return read.reverse
    if !first then
      require ((← peek) == .flowEntry)
      skip
    match ← peek with
    | .flowMappingEnd =>
      skip
      return read.reverse
    | .key =>
      skip
      let k ←
        match ← peek with
        | .value | .flowEntry | .flowMappingEnd => pure Node.missing
        | _ => node fuel false false
      let v ← flowValue fuel
      flowPairs fuel false ((k, v) :: read)
    | _ =>
      let k ← node fuel false false
      flowPairs fuel false ((k, .missing) :: read)

/-- The value of a flow mapping behind its mark, if there is one. -/
def flowValue : Nat → Builder Node
  | 0 => failure
  | fuel + 1 => do
    match ← peek with
    | .value =>
      skip
      match ← peek with
      | .flowEntry | .flowMappingEnd => return .missing
      | _ => node fuel false false
    | _ => return .missing

end

/-- The directives before a document; each at most once, and of a version that is understood. -/
def directives : Nat → (versionSeen : Bool) → List (String × String) → Builder Unit
  | 0, _, _ => failure
  | fuel + 1, versionSeen, handles => do
    match ← peek with
    | .versionDirective major minor =>
      require (!versionSeen && major == 1 && (minor == 1 || minor == 2))
      skip
      directives fuel true handles
    | .tagDirective handle start =>
      require !(handles.any (·.1 == handle))
      skip
      directives fuel versionSeen (handles ++ [(handle, start)])
    | _ => modify fun s => { s with handles := handles ++ s.handles }

/-- The marks that end a document. -/
def documentEnds : Nat → Builder Unit
  | 0 => failure
  | fuel + 1 => do
    if (← peek) == .documentEnd then
      skip
      documentEnds fuel

/-- The only document of a stream, or none in an empty stream. -/
def document (fuel : Nat) : Builder (Option Node) := do
  match ← peek with
  | .streamEnd => return none
  | .versionDirective .. | .tagDirective .. | .documentStart =>
    directives fuel false []
    require ((← peek) == .documentStart)
    skip
    let root ←
      match ← peek with
      | .versionDirective .. | .tagDirective .. | .documentStart | .documentEnd | .streamEnd =>
        pure Node.missing
      | _ => node fuel true false
    documentEnds fuel
    require ((← peek) == .streamEnd)
    return some root
  | _ =>
    let root ← node fuel true false
    documentEnds fuel
    require ((← peek) == .streamEnd)
    return some root

end Builder

/-- The tree of a text that holds at most one document; an empty stream has none. -/
def Node.read? (text : String) : Option (Option Node) := do
  let tokens ← Token.ofText? text
  let (root, _) ← (Builder.document (4 * tokens.length + 8)).run { tokens }
  return root

end SmokeTest.Yaml
