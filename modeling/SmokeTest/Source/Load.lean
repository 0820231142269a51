/-
Loading the plan of a run from a file.

Main definitions:

* `FileTree.readText?` — the text of a file that is well-formed UTF-8;
* `Plan.load` — the plan of the source at a path, in the format that the path shows;
* `Plan.loadDocument` — the same where the source has to be a document.
-/
import SmokeTest.Document.Plan
import SmokeTest.FileTree
import SmokeTest.Scan
import SmokeTest.Text.Utf8

namespace SmokeTest

/-- The text of the file at a path. -/
def FileTree.readText? (t : FileTree) (start : Location) (path : String) : Option String :=
  (t.read? start path).bind Text.decodeUtf8?

namespace Plan

/-- The plan of the document at a path; what is not YAML is read as JSON. -/
def loadDocument (t : FileTree) (start : Location) (path : String) (o : Options)
    (i : Invocation) : Except Error Plan :=
  match t.readText? start path with
  | some text => ofDocument o i (Format.ofPath path) text
  | none => .error .unreadable

/-- The plan of the source at a path. -/
def load (t : FileTree) (start : Location) (path : String) (o : Options) (i : Invocation) :
    Except Error Plan :=
  if (Format.ofPath path).isDeclarative then loadDocument t start path o i
  else
    match t.readText? start path with
    | some text => ofLines o (Line.ofText text)
    | none => .error .unreadable

end Plan

end SmokeTest
