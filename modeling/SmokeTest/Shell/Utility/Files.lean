/-
Commands that read paths, list directories and change files.
-/
import SmokeTest.Shell.Glob
import SmokeTest.Shell.Utility.Basic

namespace SmokeTest.Shell.Utility

open Text

/-- The path without the slashes at its end. -/
def withoutSlashes (s : List Char) : List Char :=
  (s.reverse.dropWhile (· == '/')).reverse

/-- The last name of a path, without an ending. -/
def basename (c : Call) : Effect :=
  match c.arguments with
  | path :: rest =>
    let trimmed := withoutSlashes path.toList
    let name := if trimmed.isEmpty && !path.isEmpty then ['/']
      else ((pieces '/' trimmed).getLast?).getD []
    let ending := (rest.head?.getD "").toList
    let cutName :=
      match dropPrefix? ending.reverse name.reverse with
      | some front => if front.isEmpty then name else front.reverse
      | none => name
    say (String.ofList cutName ++ "\n")
  | [] => misuse c "missing operand"

/-- The path without its last name. -/
def dirname (c : Call) : Effect :=
  match c.arguments with
  | path :: _ =>
    let trimmed := withoutSlashes path.toList
    let front := (pieces '/' trimmed).dropLast
    let text :=
      if front.isEmpty then (if trimmed.isEmpty && !path.isEmpty then ['/'] else ['.'])
      else
        let d := withoutSlashes (['/'].intercalate front)
        if d.isEmpty then ['/'] else d
    say (String.ofList text ++ "\n")
  | [] => misuse c "missing operand"

/-- Lists directories. -/
def ls (c : Call) : Effect :=
  let (os, operands) := options [] c.arguments
  let operands := if operands.isEmpty then ["."] else operands
  let found := operands.map fun p => (p, c.files.find? c.directory p)
  let errors := String.join (found.filterMap fun (p, e) =>
    if e.isNone then some s!"ls: cannot access '{p}': No such file or directory\n" else none)
  let isDirectory : Option FileEntry → Bool
    | some .directory => !has os 'd'
    | _ => false
  let single := found.filterMap fun (p, e) =>
    if e.isSome && !isDirectory e then some p else none
  let listed (p : String) : List String :=
    let names := ((c.files.locate? c.directory p).map c.files.children).getD []
    let names := if has os 'r' then names.reverse else names
    if has os 'a' then "." :: ".." :: names
    else if has os 'A' then names
    else names.filter fun n => n.toList.head? != some '.'
  let directories := (found.filter fun (_, e) => isDirectory e).map Prod.fst
  let blocks := directories.map fun p =>
    if 1 < operands.length then (p ++ ":") :: listed p else listed p
  let single := if single.isEmpty then [] else [single.mergeSort fun a b => a < b || a = b]
  let all := single ++ blocks
  let rows := (all.zipIdx.flatMap fun (b, i) => if i == 0 then b else "" :: b)
  { output := toBytes (String.join (rows.map (· ++ "\n"))), errors
    status := if errors.isEmpty then 0 else 2 }

/-- Lists what lies below directories. -/
def find (c : Call) : Effect :=
  let paths := c.arguments.takeWhile fun a => a.toList.head? != some '-'
  let paths := if paths.isEmpty then ["."] else paths
  let tests := c.arguments.dropWhile fun a => a.toList.head? != some '-'
  let rec passes : List String → String → FileEntry → Bool
    | "-name" :: pattern :: rest, path, e =>
      let name := ((pieces '/' path.toList).getLast?).getD []
      Glob.accepts (Glob.ofWord (lettersOf true pattern)) name && passes rest path e
    | "-type" :: kind :: rest, path, e =>
      (if kind == "d" then e == .directory else e != .directory) && passes rest path e
    | _ :: rest, path, e => passes rest path e
    | [], _, _ => true
  let below (p : String) (l : Location) : List String :=
    let inside := c.files.entries.filter fun (k, _) => l.isPrefixOf k && k != l
    let found := ((l, (c.files.entry? l).getD .directory) :: inside).map fun (k, e) =>
      (String.intercalate "/" (p :: k.drop l.length), e)
    (found.filter fun (path, e) => passes tests path e).map Prod.fst
  let found := paths.map fun p => (p, (c.files.find? c.directory p).bind fun _ =>
    c.files.locate? c.directory p)
  let errors := String.join (found.filterMap fun (p, l) =>
    if l.isNone then some s!"find: '{p}': No such file or directory\n" else none)
  { output := toBytes (String.join ((found.flatMap fun (p, l) =>
      (l.map (below p)).getD []).map (· ++ "\n")))
    errors, status := if errors.isEmpty then 0 else 1 }

/-- Changes the files, operand by operand. -/
def editFiles (c : Call) (operands : List String)
    (f : FileTree → String → Except String FileTree) : Effect :=
  let (files, errors) := operands.foldl (fun (files, errors) p =>
    match f files p with
    | .ok files => (files, errors)
    | .error e => (files, errors ++ s!"{c.name}: {e}\n")) (c.files, "")
  { files := some files, errors, status := if errors.isEmpty then 0 else 1 }

/-- Makes directories. -/
def mkdir (c : Call) : Effect :=
  let (os, operands) := options ['m'] c.arguments
  editFiles c operands fun files p =>
    match files.find? c.directory p with
    | some .directory =>
      if has os 'p' then .ok files else .error s!"cannot create directory '{p}': File exists"
    | some _ => .error s!"cannot create directory '{p}': File exists"
    | none =>
      match files.locate? c.directory (String.ofList (withoutSlashes p.toList)) with
      | some l => .ok (files.put l .directory)
      | none =>
        if has os 'p' then
          let start := if p.toList.head? == some '/' then [] else c.directory
          .ok (files.makeDirectories (start ++ (FileTree.pathNames p).filter (· ≠ "")))
        else .error s!"cannot create directory '{p}': No such file or directory"

/-- Makes files that are not there. -/
def touch (c : Call) : Effect :=
  let (_, operands) := options [] c.arguments
  editFiles c operands fun files p =>
    match files.locate? c.directory p with
    | none => .error s!"cannot touch '{p}': No such file or directory"
    | some l => .ok (if (files.entry? l).isSome then files else files.put l (.file []))

/-- Removes files. -/
def rm (c : Call) : Effect :=
  let (os, operands) := options [] c.arguments
  let deep := has os 'r' || has os 'R'
  editFiles c operands fun files p =>
    match files.locate? c.directory p, files.find? c.directory p with
    | some l, some .directory =>
      if deep then .ok (files.remove l) else .error s!"cannot remove '{p}': Is a directory"
    | some l, some _ => .ok (files.remove l)
    | _, _ =>
      if has os 'f' then .ok files else .error s!"cannot remove '{p}': No such file or directory"

/-- Removes empty directories. -/
def rmdir (c : Call) : Effect :=
  let (_, operands) := options [] c.arguments
  editFiles c operands fun files p =>
    match files.locate? c.directory p, files.find? c.directory p with
    | some l, some .directory =>
      if (files.children l).isEmpty then .ok (files.remove l)
      else .error s!"failed to remove '{p}': Directory not empty"
    | _, some _ => .error s!"failed to remove '{p}': Not a directory"
    | _, none => .error s!"failed to remove '{p}': No such file or directory"

/-- The location that a file gets which is put to a path. -/
def placeFor? (c : Call) (files : FileTree) (target source : String) : Option Location := do
  let l ← files.locate? c.directory target
  if files.isDirectory l then
    let name := (pieces '/' (withoutSlashes source.toList)).getLast?.getD []
    some (l ++ [String.ofList name])
  else some l

/-- The entries at a location and below, put to another one. -/
def copyTree (files : FileTree) (source target : Location) : FileTree :=
  (files.entries.filter fun (k, _) => source.isPrefixOf k).foldl
    (fun t (k, e) => t.put (target ++ k.drop source.length) e) files

/-- Copies or moves files. -/
def transfer (move : Bool) (c : Call) : Effect :=
  let (os, operands) := options [] c.arguments
  match operands.getLast? with
  | none => misuse c "missing file operand"
  | some target =>
    editFiles c operands.dropLast fun files p =>
      match files.locate? c.directory p, files.find? c.directory p, placeFor? c files target p with
      | some l, some e, some place =>
        if e == .directory && !move && !(has os 'r' || has os 'R' || has os 'a') then
          .error s!"-r not specified; omitting directory '{p}'"
        else
          let copied := copyTree files l place
          .ok (if move && l != place then copied.remove l else copied)
      | some _, some _, none =>
        .error s!"cannot create regular file '{target}': No such file or directory"
      | _, _, _ => .error s!"cannot stat '{p}': No such file or directory"

/-- Writes its input to files and to its output. -/
def tee (c : Call) : Effect :=
  let (os, operands) := options [] c.arguments
  let e := editFiles c operands fun files p =>
    match files.locate? c.directory p with
    | none => .error s!"{p}: No such file or directory"
    | some l =>
      match files.entry? l with
      | some .directory => .error s!"{p}: Is a directory"
      | some .sink => .ok files
      | some (.file old) =>
        .ok (files.put l (.file (if has os 'a' then old ++ c.input else c.input)))
      | none => .ok (files.put l (.file c.input))
  { e with output := c.input, reads := true }

end SmokeTest.Shell.Utility
