/-
What parameters give, and how it goes into fields.

Main definitions:

* `Given` — what an expansion gives: nothing, one text, or several;
* `Run.parameter?` — the value of a parameter that has no subscript;
* `Run.addGiven` — the fields behind an expansion;
* `slice`, `trimmed`, `replaced` — what operations make of a text.
-/
import SmokeTest.Shell.Builtin
import SmokeTest.Shell.Fields
import SmokeTest.Shell.Parameter

namespace SmokeTest.Shell

/-- What an expansion gives. -/
inductive Given
  | nothing
  | one (text : String)
  | letters (letters : List Letter)
  /-- Several texts, which quotes join if `joined` holds and keep apart if not. -/
  | many (texts : List String) (joined : Bool)
  deriving DecidableEq, Repr, Inhabited

namespace Given

/-- Whether something is given. -/
def isSet : Given → Bool
  | nothing => false
  | many texts _ => !texts.isEmpty
  | _ => true

/-- Whether no text is in what is given. -/
def isNull : Given → Bool
  | nothing => true
  | one s => s.isEmpty
  | letters ls => ls.isEmpty
  | many texts _ => texts.all String.isEmpty

/-- Every text of what is given, changed. -/
def map (f : String → String) : Given → Given
  | nothing => one (f "")
  | one s => one (f s)
  | letters ls => one (f (textOf ls))
  | many texts joined => many (texts.map f) joined

/-- The text that is given, if one is. -/
def asOption : Given → Option String
  | one s => some s
  | _ => none

/-- What is given as one text. -/
def text (separator : String) : Given → String
  | nothing => ""
  | one s => s
  | letters ls => textOf ls
  | many texts _ => separator.intercalate texts

end Given

/-! ### Operations on texts -/

/-- The part of a list from an offset on, of a length; negative numbers count from the end. -/
def slice {α : Type} (offset : Int) (length : Option Int) (s : List α) : List α :=
  let size : Int := s.length
  let start := if offset < 0 then size + offset else offset
  if start < 0 then []
  else
    let stop := match length with
      | none => size
      | some n => if n < 0 then size + n else start + n
    (s.drop start.toNat).take (stop - start).toNat

/-- The text without what a pattern fits at one end: the longest or the shortest part. -/
def trimmed (back longest : Bool) (pattern : List GlobItem) (s : List Char) : List Char :=
  let sizes := List.range (s.length + 1)
  let sizes := if longest then sizes.reverse else sizes
  let part (n : Nat) : List Char := if back then s.drop (s.length - n) else s.take n
  match sizes.find? fun n => Glob.accepts pattern (part n) with
  | some n => if back then s.take (s.length - n) else s.drop n
  | none => s

/-- The length of the longest beginning that a pattern fits. -/
def longestFit? (pattern : List GlobItem) (s : List Char) : Option Nat :=
  (List.range (s.length + 1)).reverse.find? fun n => Glob.accepts pattern (s.take n)

/-- The text in which matches of a pattern are replaced by what is put for them. -/
def replaced (anchor : Anchor) (pattern : List GlobItem) (put : List Char → List Char)
    (s : List Char) : List Char :=
  match anchor with
  | .front =>
    match longestFit? pattern s with
    | some n => put (s.take n) ++ s.drop n
    | none => s
  | .back =>
    let cut := trimmed true true pattern s
    if cut.length < s.length then cut ++ put (s.drop cut.length) else s
  | .first => go false s
  | .all => go true s
where
  /-- The same from the beginning of a text on. -/
  go (all : Bool) : List Char → List Char
    | [] => []
    | c :: rest =>
      match longestFit? pattern (c :: rest) with
      | some (n + 1) =>
        put (c :: rest.take n) ++ if all then skipping n rest else rest.drop n
      | _ => c :: go all rest
  /-- The same behind a match that has so many more letters. -/
  skipping : Nat → List Char → List Char
    | _, [] => []
    | n + 1, _ :: rest => skipping n rest
    | 0, c :: rest =>
      match longestFit? pattern (c :: rest) with
      | some (n + 1) => put (c :: rest.take n) ++ skipping n rest
      | _ => c :: skipping 0 rest

/-- The text with its letters changed: the first or all of them. -/
def relettered (upper all : Bool) (s : List Char) : List Char :=
  let f (c : Char) : Char := if upper then c.toUpper else c.toLower
  match s with
  | c :: rest => if all then (c :: rest).map f else f c :: rest
  | [] => []

namespace Run

open Builtin

/-- The separator that joins positional parameters. -/
def joiner : Run String := do
  return match ← separators with
    | c :: _ => String.singleton c
    | [] => ""

/-- What a parameter without a subscript gives. -/
def parameter (name : String) : Run Given := do
  let s ← shell
  let number (n : Nat) : Given := .one (Text.decimal n)
  match name with
  | "@" => return .many s.positional false
  | "*" => return .many s.positional true
  | "#" => return number s.positional.length
  | "?" => return number s.status
  | "$" => return number processId
  | "BASHPID" => return number (processId + s.process + if s.nested && s.process = 0 then 1 else 0)
  | "RANDOM" | "SRANDOM" =>
    changeOutside fun o => { o with seed := (o.seed * 1103515245 + 12345) % 0x80000000 }
    return number ((← outside).seed / 0x10000)
  | "EPOCHSECONDS" => return number (1700000000 + (← outside).clock / 1000000000)
  | "!" => return .one (((s.bindings.lookup "!").bind fun v => valueText v.value).getD "")
  | "-" =>
    let letters := optionNames.filterMap fun (c, n) => if s.options.contains n then some c else none
    return .one (String.ofList letters ++ "hBc")
  | "0" => return .one s.zero
  | "LINENO" => return number s.line
  | "FUNCNAME" => return match s.callers with
    | name :: _ => .one name
    | [] => .nothing
  | "SECONDS" => return number ((← outside).clock / 1000000000)
  | "PIPESTATUS" => return number (s.pipeStatus.head?.getD 0)
  | _ =>
    match Text.readDigits? 10 name.toList with
    | some n =>
      return match s.positional[n - 1]? with
        | some text => .one text
        | none => .nothing
    | none =>
      return match (s.bindings.lookup name).bind fun v => valueText v.value with
        | some text => .one text
        | none => .nothing

/-- The place of a name in a table, which has 1024 of them. -/
def tablePlace (name : String) : Nat :=
  let mixed := (toBytes name).foldl (fun h b => (h * 16777619) ^^^ b.toUInt32) (2166136261 : UInt32)
  mixed.toNat % 1024

/-- The elements of a table in the order in which they are shown. -/
def inTableOrder (elements : List (String × String)) : List (String × String) :=
  elements.mergeSort fun a b => tablePlace a.1 ≤ tablePlace b.1

/-- All elements of a parameter. -/
def elements (name : String) : Run (List String) := do
  if name == "PIPESTATUS" then return (← shell).pipeStatus.map Text.decimal
  if name == "FUNCNAME" then return (← shell).callers
  return match (← binding? name).map Variable.value with
    | some (.array es) => es.map Prod.snd
    | some (.table es) => (inTableOrder es).map Prod.snd
    | some (.scalar s) => [s]
    | none => []

/-- The numbers or names of all elements of a parameter. -/
def elementKeys (name : String) : Run (List String) := do
  return match (← binding? name).map Variable.value with
    | some (.array es) => es.map fun (i, _) => Text.decimal i
    | some (.table es) => (inTableOrder es).map Prod.fst
    | some (.scalar _) => ["0"]
    | none => []

/-- The directory that a tilde and a name stand for. -/
def home? (name : List Char) : Run (Option String) := do
  match name with
  | [] => return some ((← textOf? "HOME").getD "/root")
  | ['+'] => textOf? "PWD"
  | ['-'] => textOf? "OLDPWD"
  | name => return if name == "root".toList then some "/root" else none

/-- The word in which a tilde at its beginning is replaced; the name behind the tilde goes up to a
slash, or up to a colon if one can end it. -/
def withHomeUpTo (colon : Bool) (w : Word) : Run Word := do
  match w with
  | .bare s :: rest =>
    match s.toList with
    | '~' :: more =>
      let name := more.takeWhile fun c => c != '/' && !(colon && c == ':')
      let behind := more.drop name.length
      if behind.isEmpty && !rest.isEmpty then return w
      match ← home? name with
      | some home =>
        let rest := if behind.isEmpty then rest else .bare (String.ofList behind) :: rest
        return .quoted home :: rest
      | none => return w
    | _ => return w
  | w => return w

/-- The word in which a tilde at its beginning is replaced. -/
def withHome (w : Word) : Run Word := withHomeUpTo false w

/-- The word in which tildes at its beginning and behind colons are replaced. -/
def withHomes (w : Word) : Run Word := do
  let pieces := w.flatMap fun
    | .bare s => (colonPieces s.toList).map fun p => Part.bare (String.ofList p)
    | p => [p]
  let rec go : Word → Run Word
    | [] => return []
    | p :: rest => do
      match p with
      | .bare s =>
        let ends (c : Char) : Bool := c == '/' || c == ':'
        if s.toList.head? == some '~' && (rest.isEmpty || s.toList.any ends) then
          let head ← withHomeUpTo true [p]
          return head ++ (← go rest)
        else return p :: (← go rest)
      | p => return p :: (← go rest)
  go pieces
where
  /-- The parts of a text that end behind its colons. -/
  colonPieces : List Char → List (List Char)
    | [] => []
    | ':' :: rest => [':'] :: colonPieces rest
    | c :: rest =>
      match colonPieces rest with
      | [':'] :: ps => [c, ':'] :: ps
      | p :: ps => (c :: p) :: ps
      | [] => [[c]]

/-- The fields behind what an expansion gives. -/
def addGiven (quoted split : Bool) (g : Given) (f : Fields) : Run Fields := do
  let separators ← separators
  let put (letters : List Letter) (f : Fields) : Fields :=
    if quoted then f.begun.add (letters.map fun l => { l with active := false })
    else if split then f.split separators letters
    else f.add letters
  match g with
  | .nothing => return if quoted then f.begun else f
  | .one s => return put (lettersOf true s) f
  | .letters ls => return put ls f
  | .many texts joined =>
    let text ← do
      if joined then pure ((← joiner).intercalate texts) else pure (" ".intercalate texts)
    if !split || (quoted && joined) then return put (lettersOf true text) f
    return (texts.zipIdx.foldl (fun (f : Fields) (t, i) =>
      put (lettersOf true t) (if i == 0 then f else f.finish)) f)

end Run

end SmokeTest.Shell
