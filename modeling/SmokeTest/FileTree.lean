/-
File trees: directories and files below one root.

Main definitions:

* `FileTree` — what is in a file system, by location;
* `FileTree.locate? start path` — the location that a path means from a directory;
* `FileTree.read? start path` — the bytes of the file at a path.

Design notes: a location lists the names from the root. Walking along a path goes through
directories only, so `f/`, `f/.` and `f/..` mean nothing if `f` is a file. The last name of a path
need not exist, which is how new files get their location.
-/
import SmokeTest.Text.Split
import SmokeTest.Text.Utf8

namespace SmokeTest

/-- The names from the root to a place in a file tree. -/
abbrev Location := List String

/-- What can be found at a location. -/
inductive FileEntry
  | directory
  | file (bytes : List UInt8)
  /-- Holds nothing and keeps nothing. -/
  | sink
  deriving DecidableEq, Repr, Inhabited

/-- The entries of a file system, by location; the root is a directory without being listed. -/
structure FileTree where
  entries : List (Location × FileEntry) := []
  deriving DecidableEq, Repr, Inhabited

namespace FileTree

open Text

/-- What is found at a location. -/
def entry? (t : FileTree) (l : Location) : Option FileEntry :=
  if l.isEmpty then some .directory else t.entries.lookup l

/-- Whether there is a directory at a location. -/
def isDirectory (t : FileTree) (l : Location) : Bool :=
  t.entry? l == some .directory

/-- Puts an entry at a location, in the place of what was there. -/
def put (t : FileTree) (l : Location) (e : FileEntry) : FileTree :=
  if (t.entries.lookup l).isSome then
    ⟨t.entries.map fun (k, old) => if k = l then (k, e) else (k, old)⟩
  else ⟨t.entries ++ [(l, e)]⟩

/-- Makes the directory at a location and those above it, where they are missing. -/
def makeDirectories (t : FileTree) (l : Location) : FileTree :=
  let above := (List.range (l.length + 1)).map l.take
  above.foldl (fun t l => if (t.entry? l).isSome then t else t.put l .directory) t

/-- Puts an entry at a location and makes the directories above it. -/
def create (t : FileTree) (l : Location) (e : FileEntry) : FileTree :=
  match e with
  | .directory => t.makeDirectories l
  | e => (t.makeDirectories l.dropLast).put l e

/-- Removes what is at a location and below it. -/
def remove (t : FileTree) (l : Location) : FileTree :=
  ⟨t.entries.filter fun (k, _) => !l.isPrefixOf k⟩

/-- The tree in which all names are changed. -/
def rename (t : FileTree) (f : String → String) : FileTree :=
  ⟨t.entries.map fun (l, e) => (l.map f, e)⟩

/-- The names in a directory, in order. -/
def children (t : FileTree) (l : Location) : List String :=
  let names := t.entries.filterMap fun (k, _) =>
    match k.getLast? with
    | some name => if k.dropLast = l then some name else none
    | none => none
  names.mergeSort fun a b => a < b || a = b

/-- Goes on from a location along the names of a path; none if a name has to be looked up in what is
no directory. -/
def walk? (t : FileTree) : Location → List String → Option Location
  | l, [] => some l
  | l, name :: rest =>
    if !t.isDirectory l then none
    else if name = "" || name = "." then t.walk? l rest
    else if name = ".." then t.walk? l.dropLast rest
    else t.walk? (l ++ [name]) rest

/-- The names of a path, the empty ones between slashes included. -/
def pathNames (path : String) : List String :=
  (pieces '/' path.toList).map String.ofList

/-- The location that a path means when it is read in a directory. No location has a name with a
NUL, and the empty path means nothing. -/
def locate? (t : FileTree) (start : Location) (path : String) : Option Location :=
  if path.isEmpty || path.toList.contains '\x00' then none
  else t.walk? (if path.toList.head? = some '/' then [] else start) (pathNames path)

/-- The entry at a path. -/
def find? (t : FileTree) (start : Location) (path : String) : Option FileEntry :=
  (t.locate? start path).bind t.entry?

/-- The bytes of the file at a path. -/
def read? (t : FileTree) (start : Location) (path : String) : Option (List UInt8) :=
  match t.find? start path with
  | some (.file bytes) => some bytes
  | some .sink => some []
  | _ => none

/-- Whether there is a directory at a path. -/
def hasDirectory (t : FileTree) (start : Location) (path : String) : Bool :=
  t.find? start path == some .directory

/-- The tree of a system in which nobody has put anything yet. -/
def system : FileTree :=
  let directories :=
    [["bin"], ["dev"], ["etc"], ["home"], ["lib"], ["opt"], ["proc"], ["root"], ["run"], ["sbin"],
      ["sys"], ["tmp"], ["usr", "bin"], ["usr", "lib"], ["usr", "local", "bin"], ["usr", "sbin"],
      ["var", "log"], ["var", "tmp"]]
  let t := directories.foldl makeDirectories {}
  let t := ["bash", "cat", "ls", "sh"].foldl (fun t n => t.create ["bin", n] (.file [0x7f])) t
  let t := ["bash", "env", "sh"].foldl (fun t n => t.create ["usr", "bin", n] (.file [0x7f])) t
  let t := t.create ["etc", "passwd"] (.file (Text.encodeUtf8 "root:x:0:0:root:/root:/bin/bash\n"))
  t.create ["dev", "null"] .sink

end FileTree

end SmokeTest
