/-
Texts without the blanks around them.

* `trim_eq_nil_iff` — nothing is left exactly of a text of blanks;
* `trim_of_solid` — a text without blanks stays as it is;
* `trim_append_of_blank`, `solids_trim` — leading blanks do not count, and of the other characters
  none is lost.

Design notes: `trimEnd` is the library's `List.rdropWhile`, whose laws are used.
-/
import Mathlib.Data.List.DropRight
import SmokeTest.Text.Blank

namespace SmokeTest.Text

/-- Whether the text has no blank in it. -/
def IsSolid (s : List Char) : Prop := ∀ c ∈ s, isBlank c = false

instance (s : List Char) : Decidable (IsSolid s) :=
  List.decidableBAll _ s

theorem trimEnd_eq_rdropWhile (s : List Char) : trimEnd s = s.rdropWhile isBlank := rfl

theorem trim_eq_nil_iff {s : List Char} : trim s = [] ↔ s.all isBlank = true := by
  rw [trim, trimEnd_eq_rdropWhile, List.rdropWhile_eq_nil_iff, List.all_eq_true]
  constructor
  · intro blank c mem
    -- a character that is no blank would be left after the leading blanks are gone
    rw [← List.takeWhile_append_dropWhile (p := isBlank) (l := s), List.mem_append] at mem
    rcases mem with mem | mem
    · exact List.mem_takeWhile_imp mem
    · exact blank c mem
  · exact fun blank c mem => blank c ((List.dropWhile_suffix isBlank).subset mem)

theorem trim_of_solid {s : List Char} (solid : IsSolid s) : trim s = s := by
  have start : trimStart s = s := by
    refine List.dropWhile_eq_self_iff.mpr fun pos => ?_
    exact Bool.eq_false_iff.mp (solid _ (List.getElem_mem pos))
  rw [trim, start, trimEnd_eq_rdropWhile, List.rdropWhile_eq_self_iff]
  exact fun some_left => Bool.eq_false_iff.mp (solid _ (List.getLast_mem some_left))

theorem trim_append_of_blank {a : List Char} (blank : ∀ c ∈ a, isBlank c = true)
    (b : List Char) : trim (a ++ b) = trim b := by
  rw [trim, trim, trimStart, trimStart, List.dropWhile_append_of_pos blank]

/-- How many characters of the text are no blanks. -/
def solids (s : List Char) : Nat := s.countP fun c => !isBlank c

theorem solids_append (a b : List Char) : solids (a ++ b) = solids a + solids b :=
  List.countP_append

theorem solids_eq_zero_iff {s : List Char} : solids s = 0 ↔ ∀ c ∈ s, isBlank c = true := by
  simp [solids]

theorem solids_trimStart (s : List Char) : solids (trimStart s) = solids s := by
  have leading : solids (s.takeWhile isBlank) = 0 :=
    solids_eq_zero_iff.mpr fun c mem => List.mem_takeWhile_imp mem
  have whole : s.takeWhile isBlank ++ trimStart s = s := List.takeWhile_append_dropWhile
  have sum := solids_append (s.takeWhile isBlank) (trimStart s)
  rw [whole] at sum
  omega

theorem solids_reverse (s : List Char) : solids s.reverse = solids s :=
  List.countP_reverse

/-- Only blanks are lost when a text is trimmed. -/
theorem solids_trim (s : List Char) : solids (trim s) = solids s := by
  rw [trim, trimEnd, solids_reverse]
  show solids (trimStart (trimStart s).reverse) = solids s
  rw [solids_trimStart, solids_reverse, solids_trimStart]

end SmokeTest.Text

namespace String

open SmokeTest

theorem trimBlank_eq_empty_iff {s : String} : s.trimBlank = "" ↔ s.isAllBlank = true := by
  rw [← String.toList_inj, toList_trimBlank, isAllBlank]
  exact Text.trim_eq_nil_iff

theorem trimBlank_of_solid {s : String} (solid : Text.IsSolid s.toList) : s.trimBlank = s := by
  rw [trimBlank, Text.trim_of_solid solid, String.ofList_toList]

end String
