/-
What a directive means for a run under one tag: whether it selects its command, and which value is
in force after it. Tags are compared without regard to letter case.
-/
import SmokeTest.Directive
import SmokeTest.Marker

namespace SmokeTest

/-- Whether two tags are the same up to letter case. -/
def sameTag (a b : String) : Bool :=
  Text.lower a.toList == Text.lower b.toList

namespace Directive

/-- Whether the directive selects its command under the tag; assignments and settings select
nothing. -/
def selects (d : Directive) (tag : String) : Bool :=
  match d with
  | always => true
  | never => false
  | ifTagIn tags => tags.any (sameTag · tag)
  | unlessTagIn tags => !tags.any (sameTag · tag)
  | marker token => Marker.selects token tag
  | assignment .. | setting .. => false

/-- The value in force after the directive: an assignment to the tag replaces it, everything else
keeps it. -/
def carry (d : Directive) (tag : String) (current : Option String) : Option String :=
  match d with
  | assignment assigned value => if sameTag assigned tag then some value else current
  | _ => current

end Directive

end SmokeTest
