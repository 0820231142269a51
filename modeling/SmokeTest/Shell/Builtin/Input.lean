/-
Commands of the shell that read input and arguments into variables.
-/
import SmokeTest.Shell.Calculation

namespace SmokeTest.Shell.Builtin

open Run

/-- The text without the characters of a set at its end. -/
def dropEnd (p : Char → Bool) (s : List Char) : List Char :=
  (s.reverse.dropWhile p).reverse

/-- The fields of a line: at most so many, the last of which is the rest of the line. A backslash
protects the character behind it, unless the line is taken as it is. -/
def lineFields (raw : Bool) (separators : List Char) : Nat → List Char → List (List Char)
  | 0, _ => []
  | 1, s =>
    let blank (c : Char) : Bool := separators.contains c && (c == ' ' || c == '\t' || c == '\n')
    [plainText raw (dropEnd blank (s.dropWhile blank))]
  | n + 2, s =>
    let blank (c : Char) : Bool := separators.contains c && (c == ' ' || c == '\t' || c == '\n')
    let (field, rest) := cutField (s.length + 1) (s.dropWhile blank)
    let rest := rest.dropWhile blank
    let rest := match rest with
      | c :: more => if separators.contains c && !blank c then more else rest
      | [] => []
    field :: lineFields raw separators (n + 1) rest
where
  /-- The text without the backslashes that protect. -/
  plainText (raw : Bool) : List Char → List Char
    | '\\' :: c :: rest =>
      if raw then '\\' :: plainText raw (c :: rest) else c :: plainText raw rest
    | c :: rest => c :: plainText raw rest
    | [] => []
  /-- The first field and what is behind it. -/
  cutField : Nat → List Char → List Char × List Char
    | fuel + 1, '\\' :: c :: rest =>
      if raw then
        let (f, rest) := cutField fuel (c :: rest)
        ('\\' :: f, rest)
      else
        let (f, rest) := cutField fuel rest
        (c :: f, rest)
    | fuel + 1, c :: rest =>
      if separators.contains c then ([], c :: rest)
      else
        let (f, rest) := cutField fuel rest
        (c :: f, rest)
    | _, s => ([], s)

/-- The characters that separate fields. -/
def separators : Run (List Char) := do
  match ← binding? "IFS" with
  | some v => return ((valueText v.value).getD "").toList
  | none => return [' ', '\t', '\n']

/-- Takes a line, or a text up to another character, from what is left to be read; says whether its
end was found. Unless it is taken as it is, a line goes on behind a backslash at its end. -/
def takeLine (raw : Bool) (stop : Char) : Nat → List Char → List Char × Bool × List Char
  | fuel + 1, '\\' :: c :: rest =>
    if raw then
      let (l, ended, rest) := takeLine raw stop fuel (c :: rest)
      ('\\' :: l, ended, rest)
    else if c == '\n' then takeLine raw stop fuel rest
    else
      let (l, ended, rest) := takeLine raw stop fuel rest
      ('\\' :: c :: l, ended, rest)
  | fuel + 1, c :: rest =>
    if c == stop then ([], true, rest)
    else
      let (l, ended, rest) := takeLine raw stop fuel rest
      (c :: l, ended, rest)
  | _, s => ([], false, s)

/-- Options, of which the given ones have values, and the names behind them. -/
def readOptions (valued : List Char) : Nat → List String → List (Char × String) × List String
  | fuel + 1, a :: rest =>
    match a.toList with
    | '-' :: c :: more =>
      if valued.contains c then
        if more.isEmpty then
          let (os, names) := readOptions valued fuel (rest.drop 1)
          ((c, rest.head?.getD "") :: os, names)
        else
          let (os, names) := readOptions valued fuel rest
          ((c, String.ofList more) :: os, names)
      else
        let next := if more.isEmpty then rest else String.ofList ('-' :: more) :: rest
        let (os, names) := readOptions valued fuel next
        ((c, "") :: os, names)
    | _ => ([], a :: rest)
  | _, names => ([], names)

/-- Reads a line into variables. -/
def read (arguments : List String) : Run Nat := do
  let (options, names) := readOptions "adinNptu".toList (2 * arguments.length + 8) arguments
  let raw := options.any (·.1 == 'r')
  let descriptor := ((options.lookup 'u').bind fun s => Text.readDigits? 10 s.toList).getD 0
  let stop := match options.lookup 'd' with
    | some s => (s.toList.head?).getD '\x00'
    | none => '\n'
  let text := (ofBytes (← pending descriptor)).toList
  let count := ((options.lookup 'n').orElse fun _ => options.lookup 'N').bind
    fun s => Text.readDigits? 10 s.toList
  let (line, ended, rest) := match count with
    | some n =>
      let (l, ended, _) := takeLine raw stop (text.length + 1) (text.take n)
      (l, ended || n ≤ text.length, text.drop (if ended then l.length + 1 else n))
    | none => takeLine raw stop (text.length + 1) text
  leave descriptor (rest.map charByte)
  let separators ← separators
  match options.lookup 'a' with
  | some name =>
    let fields := lineFields raw separators (line.length + 2) line
    let fields := (fields.reverse.dropWhile (· == [])).reverse
    let elements := fields.zipIdx.map fun (f, i) => (i, String.ofList f)
    putVariable name (some { value := .array elements })
  | none =>
    if names.isEmpty then
      assign "REPLY" (String.ofList (lineFields.plainText raw line))
    else
      let fields := lineFields raw separators names.length line
      for (name, i) in names.zipIdx do
        assign name (String.ofList (fields[i]?.getD []))
  return if ended then 0 else 1

/-- Reads lines into an array. -/
def mapfile (arguments : List String) : Run Nat := do
  let (options, names) := readOptions "dnOsucC".toList (2 * arguments.length + 8) arguments
  let text := (ofBytes (← pending 0)).toList
  leave 0 []
  let lines := Text.pieces '\n' text
  let lines := if lines.getLast? == some [] then lines.dropLast else lines
  let ending := if options.any (·.1 == 't') then [] else ['\n']
  let elements := lines.zipIdx.map fun (l, i) => (i, String.ofList (l ++ ending))
  putVariable (names.head?.getD "MAPFILE") (some { value := .array elements })
  return 0

/-- Takes the next option from arguments: sets the variable with the given name to its letter, and
the status says whether there was one. -/
def getopts (arguments : List String) : Run Nat := do
  match arguments with
  | known :: name :: given =>
    let s ← shell
    let items := if given.isEmpty then s.positional else given
    let index := ((← textOf? "OPTIND").bind fun t => Text.readDigits? 10 t.toList).getD 1
    let finish (next : Nat) : Run Nat := do
      assign "OPTIND" (Text.decimal next)
      assign name "?"
      return 1
    match (items[index - 1]?).map String.toList with
    | some ['-', '-'] => finish (index + 1)
    | some ('-' :: c :: more) =>
      let place := max 1 s.letterPlace
      let letters := (c :: more).drop (place - 1)
      let letter := letters.head?.getD c
      let silent := known.toList.head? == some ':'
      let behind := known.toList.dropWhile (· != letter)
      let isKnown := !behind.isEmpty && letter != ':'
      let next (i p : Nat) : Run Unit := do
        assign "OPTIND" (Text.decimal i)
        change fun s => { s with letterPlace := p }
      let step : Run Unit :=
        if letters.length ≤ 1 then next (index + 1) 1 else next index (place + 1)
      let fault (shown message : String) : Run Nat := do
        if silent then
          assign name shown
          assign "OPTARG" (String.singleton letter)
        else
          let _ ← write 2 s!"{s.zero}: {message} -- {String.singleton letter}\n"
          assign name "?"
          putVariable "OPTARG" none
        return 0
      if !isKnown then
        step
        fault "?" "illegal option"
      else if behind[1]? == some ':' then
        if 1 < letters.length then
          next (index + 1) 1
          assign name (String.singleton letter)
          assign "OPTARG" (String.ofList (letters.drop 1))
          return 0
        else
          match items[index]? with
          | some value =>
            next (index + 2) 1
            assign name (String.singleton letter)
            assign "OPTARG" value
            return 0
          | none =>
            next (index + 1) 1
            fault ":" "option requires an argument"
      else
        step
        assign name (String.singleton letter)
        putVariable "OPTARG" none
        return 0
    | _ => finish index
  | _ =>
    let _ ← write 2 "getopts: usage: getopts optstring name [arg ...]\n"
    return 2

end SmokeTest.Shell.Builtin
