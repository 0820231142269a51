/-
Blank space in the sense of the Unicode property White_Space, and what is cut by it: the first
word of a line, and a text without the blanks around it.

Once the blanks around a text are gone, there are none left to go: `String.trimBlank_trimBlank`.

Design notes: texts are handled as lists of characters, so that every function here is a
`takeWhile` or a `dropWhile`, and the laws about them are those of the list library.
-/

namespace SmokeTest.Text

/-- The characters of the Unicode property White_Space. -/
def isBlank (c : Char) : Bool :=
  let n := c.toNat
  (0x09 ≤ n && n ≤ 0x0D) || n == 0x20 || n == 0x85 || n == 0xA0 || n == 0x1680 ||
    (0x2000 ≤ n && n ≤ 0x200A) || n == 0x2028 || n == 0x2029 || n == 0x202F || n == 0x205F ||
    n == 0x3000

/-- The text from its first character that is not blank on. -/
def trimStart (s : List Char) : List Char :=
  s.dropWhile isBlank

/-- The text up to its last character that is not blank. -/
def trimEnd (s : List Char) : List Char :=
  (s.reverse.dropWhile isBlank).reverse

/-- The text without the blanks around it. -/
def trim (s : List Char) : List Char :=
  trimEnd (trimStart s)

theorem dropWhile_dropWhile {α : Type} (p : α → Bool) (s : List α) :
    (s.dropWhile p).dropWhile p = s.dropWhile p := by
  induction s with
  | nil => rfl
  | cons c rest ih =>
    cases blank : p c with
    | true => rw [List.dropWhile_cons_of_pos blank, ih]
    | false =>
      have stays : (c :: rest).dropWhile p = c :: rest :=
        List.dropWhile_cons_of_neg (Bool.eq_false_iff.mp blank)
      rw [stays, stays]

theorem isBlank_of_trimStart {s rest : List Char} {c : Char} (h : trimStart s = c :: rest) :
    isBlank c = false := by
  have first := List.head?_dropWhile_not isBlank s
  rw [show s.dropWhile isBlank = c :: rest from h] at first
  exact first

theorem trimEnd_prefix (s : List Char) : trimEnd s <+: s := by
  have front := List.reverse_prefix.mpr (List.dropWhile_suffix isBlank (l := s.reverse))
  rwa [List.reverse_reverse] at front

/-- A text that begins with no blank keeps its beginning when its end is trimmed. -/
theorem trimStart_trimEnd_trimStart (s : List Char) :
    trimStart (trimEnd (trimStart s)) = trimEnd (trimStart s) := by
  obtain ⟨back, whole⟩ := trimEnd_prefix (trimStart s)
  cases h : trimEnd (trimStart s) with
  | nil => rfl
  | cons c rest =>
    rw [h] at whole
    have first := isBlank_of_trimStart whole.symm
    exact List.dropWhile_cons_of_neg (Bool.eq_false_iff.mp first)

theorem trim_trim (s : List Char) : trim (trim s) = trim s := by
  rw [trim, trim, trimStart_trimEnd_trimStart, trimEnd, trimEnd, List.reverse_reverse,
    dropWhile_dropWhile]

/-- The first maximal run of characters that are not blank; empty exactly for a blank text. -/
def firstWord (s : List Char) : List Char :=
  (trimStart s).takeWhile fun c => !isBlank c

end SmokeTest.Text

namespace String

/-- The text without the blanks around it. -/
def trimBlank (s : String) : String :=
  String.ofList (SmokeTest.Text.trim s.toList)

theorem toList_trimBlank (s : String) : s.trimBlank.toList = SmokeTest.Text.trim s.toList :=
  String.toList_ofList

@[simp] theorem trimBlank_trimBlank (s : String) : s.trimBlank.trimBlank = s.trimBlank := by
  rw [trimBlank, toList_trimBlank, SmokeTest.Text.trim_trim]
  rfl

theorem bare_trimBlank (s : String) : s.trimBlank = s.trimBlank.trimBlank :=
  s.trimBlank_trimBlank.symm

theorem isEmpty_trimBlank {s : String} (some_left : s.trimBlank ≠ "") :
    s.trimBlank.isEmpty = false :=
  String.isEmpty_eq_false_iff.mpr some_left

/-- The text without the blanks at its end. -/
def trimBlankEnd (s : String) : String :=
  String.ofList (SmokeTest.Text.trimEnd s.toList)

/-- Whether the text consists of blanks only. -/
def isAllBlank (s : String) : Bool :=
  s.toList.all SmokeTest.Text.isBlank

end String
