/-
Which lines are directives.

* `IsEntry` — a key and a value that a setting or an assignment can have;
* `keyValue?_eq_some_iff`, `markerToken?_eq_some_iff` — the lines that each of the three readings
  accepts, and what it makes of them;
* `readings` — the three readings, of which at most one accepts a line;
* `parse_eq_setting_iff`, `parse_eq_assignment_iff`, `parse_eq_marker_iff`, `parse_eq_none_iff` —
  when a line is which directive, or none;
* `parse_iff` — a line is read as what it writes, and as nothing else.

Design notes: a setting and an assignment are cut at the first sentinel behind the key, so a key
without the sentinel is found again, whatever stands in the value. The second character of the line
tells the readings apart; only in front of a marker there may be blanks.
-/
import Mathlib.Data.List.Pairwise
import Mathlib.Data.List.Perm.Basic
import SmokeTest.Directive
import SmokeTest.Proofs.Text.Case
import SmokeTest.Proofs.Text.Split
import SmokeTest.Proofs.Text.Word

namespace SmokeTest.Directive

open Text

/-! ### Keys and values -/

/-- A key and a value that can be written with the sentinel: a key without it, and a value with
some other character. -/
structure IsEntry (sentinel : Char) (key value : String) : Prop where
  some_key : key ≠ ""
  free : sentinel ∉ key.toList
  some_value : ∃ c ∈ value.toList, c ≠ sentinel

theorem utf8ByteSize_ofList (line : List Char) :
    (String.ofList line).utf8ByteSize = byteLength line := by
  induction line with
  | nil => rfl
  | cons c line ih =>
    have parts : String.ofList (c :: line) = String.singleton c ++ String.ofList line := by
      simp
    rw [parts, String.utf8ByteSize_append, String.utf8ByteSize_singleton, ih]
    rfl

/-- The shortest line with a key and a value has five bytes. -/
theorem IsEntry.five_le_utf8ByteSize {sentinel : Char} {key value : String}
    (h : IsEntry sentinel key value) : 5 ≤ (assignmentLine sentinel key value).utf8ByteSize := by
  have parts : assignmentLine sentinel key value =
      "#" ++ String.singleton sentinel ++ key ++ String.singleton sentinel ++ value := by
    rw [assignmentLine, ← String.toList_inj]
    simp
  have some_key : key.utf8ByteSize ≠ 0 := by
    rw [Ne, String.utf8ByteSize_eq_zero_iff]
    exact h.some_key
  have some_value : value.utf8ByteSize ≠ 0 := by
    rw [Ne, String.utf8ByteSize_eq_zero_iff]
    rintro rfl
    obtain ⟨c, mem, -⟩ := h.some_value
    exact absurd mem List.not_mem_nil
  have byte : 0 < sentinel.utf8Size := sentinel.utf8Size_pos
  have leader : "#".utf8ByteSize = 1 := rfl
  rw [parts]
  simp only [String.utf8ByteSize_append, String.utf8ByteSize_singleton]
  omega

/-- No line with a key and a value is too short to be read. -/
theorem IsEntry.not_short {sentinel : Char} {key value : String} (h : IsEntry sentinel key value) :
    ¬ byteLength (assignmentLine sentinel key value).toList < shortestEntry := by
  rw [← utf8ByteSize_ofList, String.ofList_toList, Nat.not_lt]
  exact h.five_le_utf8ByteSize

theorem keyValue?_eq_some_iff {sentinel : Char} {line key value : List Char} :
    keyValue? sentinel line = some (key, value) ↔
      line = ['#', sentinel] ++ key ++ [sentinel] ++ value ∧
        key ≠ [] ∧ sentinel ∉ key ∧ ∃ c ∈ value, c ≠ sentinel := by
  have refused : (key.isEmpty || value.all (· == sentinel)) = false ↔
      key ≠ [] ∧ ∃ c ∈ value, c ≠ sentinel := by
    simp
  constructor
  · intro read
    rw [keyValue?] at read
    split at read
    · cases read
    split at read
    · cases read
    · next rest leader =>
      split at read
      · cases read
      · next key' value' cut =>
        split at read
        · cases read
        · next accepted =>
          cases read
          obtain ⟨whole, free⟩ := cut_eq_some_iff.mp cut
          obtain ⟨some_key, some_value⟩ := refused.mp (Bool.eq_false_iff.mpr accepted)
          refine ⟨?_, some_key, free, some_value⟩
          rw [dropPrefix?_eq_some_iff.mp leader, whole]
          simp
  · rintro ⟨rfl, some_key, free, some_value⟩
    have leader : dropPrefix? ['#', sentinel] (['#', sentinel] ++ key ++ [sentinel] ++ value) =
        some (key ++ sentinel :: value) :=
      dropPrefix?_eq_some_iff.mpr (by simp)
    have cut : cut sentinel (key ++ sentinel :: value) = some (key, value) :=
      cut_eq_some_iff.mpr ⟨rfl, free⟩
    have entry : IsEntry sentinel (String.ofList key) (String.ofList value) :=
      ⟨by simpa [← String.toList_inj] using some_key, by simpa using free,
        by simpa using some_value⟩
    have long := entry.not_short
    rw [assignmentLine, String.toList_ofList, String.toList_ofList, String.toList_ofList] at long
    rw [keyValue?, if_neg long, leader]
    simp only [cut, refused.mpr ⟨some_key, some_value⟩, Bool.false_eq_true, if_false]

/-- A key and a value are found again in the line that writes them. -/
theorem keyValue?_ofList_iff {sentinel : Char} {line key value : String} :
    keyValue? sentinel line.toList = some (key.toList, value.toList) ↔
      line = assignmentLine sentinel key value ∧ IsEntry sentinel key value := by
  have written : line.toList = ['#', sentinel] ++ key.toList ++ [sentinel] ++ value.toList ↔
      line = assignmentLine sentinel key value := by
    rw [assignmentLine, ← String.toList_inj, String.toList_ofList]
  have some_key : key.toList ≠ [] ↔ key ≠ "" := by
    rw [Ne, String.toList_eq_nil_iff]
  rw [keyValue?_eq_some_iff, written, some_key]
  constructor
  · rintro ⟨written, some_key, free, some_value⟩
    exact ⟨written, some_key, free, some_value⟩
  · rintro ⟨written, entry⟩
    exact ⟨written, entry.some_key, entry.free, entry.some_value⟩

/-- The line that writes a key and a value tells them. -/
theorem IsEntry.unique {sentinel : Char} {key value key' value' : String}
    (h : IsEntry sentinel key value) (h' : IsEntry sentinel key' value')
    (same : assignmentLine sentinel key value = assignmentLine sentinel key' value') :
    key = key' ∧ value = value' := by
  have read := keyValue?_ofList_iff.mpr ⟨rfl, h⟩
  have read' := keyValue?_ofList_iff.mpr ⟨rfl, h'⟩
  rw [same, read'] at read
  obtain ⟨keys, values⟩ := Prod.mk.inj (Option.some.inj read)
  exact ⟨String.toList_inj.mp keys.symm, String.toList_inj.mp values.symm⟩

/-! ### Markers -/

/-- A line has a marker if its first word begins as markers do; the marker is that word in small
letters. -/
theorem markerToken?_eq_some_iff {line token : List Char} :
    markerToken? line = some token ↔
      ∃ lead word rest, Worded line lead word rest ∧ ['#', ':'] <+: word ∧ lower word = token := by
  have leads : startsWith ['#', ':'] (lower (firstWord line)) = true ↔
      ['#', ':'] <+: firstWord line := by
    rw [startsWith_iff, lower, prefix_lowerFrom_iff leader_signs]
  constructor
  · intro read
    rw [markerToken?] at read
    split at read
    · next accepted =>
      cases read
      have word : ['#', ':'] <+: firstWord line := leads.mp accepted
      obtain ⟨lead, rest, worded⟩ := exists_worded (s := line) (by
        rintro none
        rw [none] at word
        cases List.prefix_nil.mp word)
      exact ⟨lead, _, rest, worded, word, rfl⟩
    · cases read
  · rintro ⟨lead, word, rest, worded, begins, rfl⟩
    rw [← worded.firstWord_eq] at begins ⊢
    rw [markerToken?, if_pos (leads.mpr begins)]

/-! ### Three readings -/

/-- The line as a directive that has a key and a value. -/
def entryOf? (sentinel : Char) (make : String → String → Directive) (line : List Char) :
    Option Directive :=
  (keyValue? sentinel line).map fun (key, value) =>
    make (String.ofList key) (String.ofList value)

/-- The line as a marker with its command. -/
def markerOf? (line : List Char) : Option Directive :=
  (markerToken? line).map fun token => .marker (String.ofList token)

/-- The ways in which a line can be read. -/
def readings : List (List Char → Option Directive) :=
  [entryOf? '@' .setting, entryOf? '=' .assignment, markerOf?]

theorem entryOf?_eq_some_iff {sentinel : Char} {make : String → String → Directive}
    {line : String} {d : Directive} :
    entryOf? sentinel make line.toList = some d ↔
      ∃ key value, line = assignmentLine sentinel key value ∧ IsEntry sentinel key value ∧
        make key value = d := by
  rw [entryOf?, Option.map_eq_some_iff]
  constructor
  · rintro ⟨⟨key, value⟩, read, made⟩
    have entry : keyValue? sentinel line.toList =
        some ((String.ofList key).toList, (String.ofList value).toList) := by
      rw [read, String.toList_ofList, String.toList_ofList]
    obtain ⟨written, entry⟩ := keyValue?_ofList_iff.mp entry
    exact ⟨_, _, written, entry, made⟩
  · rintro ⟨key, value, written, entry, made⟩
    refine ⟨_, keyValue?_ofList_iff.mpr ⟨written, entry⟩, ?_⟩
    simpa only [String.ofList_toList] using made

/-- The first word of the line begins as markers do, and in small letters it is the given text. -/
def IsMarker (line token : String) : Prop :=
  ∃ lead word rest, Worded line.toList lead word rest ∧ ['#', ':'] <+: word ∧
    String.ofList (lower word) = token

theorem markerOf?_eq_some_iff {line : String} {d : Directive} :
    markerOf? line.toList = some d ↔ ∃ token, IsMarker line token ∧ .marker token = d := by
  rw [markerOf?, Option.map_eq_some_iff]
  constructor
  · rintro ⟨token, read, made⟩
    obtain ⟨lead, word, rest, worded, begins, rfl⟩ := markerToken?_eq_some_iff.mp read
    exact ⟨_, ⟨lead, word, rest, worded, begins, rfl⟩, made⟩
  · rintro ⟨token, ⟨lead, word, rest, worded, begins, rfl⟩, made⟩
    exact ⟨_, markerToken?_eq_some_iff.mpr ⟨lead, word, rest, worded, begins, rfl⟩, made⟩

/-- A line that is read with a sentinel has it for a second character. -/
theorem exists_eq_of_entryOf? {sentinel : Char} {make : String → String → Directive}
    {line : List Char} {d : Directive} (read : entryOf? sentinel make line = some d) :
    ∃ rest, line = '#' :: sentinel :: rest := by
  obtain ⟨⟨key, value⟩, entry, -⟩ := Option.map_eq_some_iff.mp read
  obtain ⟨whole, -⟩ := keyValue?_eq_some_iff.mp entry
  exact ⟨key ++ [sentinel] ++ value, by simpa using whole⟩

/-- A line that begins `#` and is read as a marker has a colon for a second character. -/
theorem eq_colon_of_markerOf? {c : Char} {rest : List Char} {d : Directive}
    (read : markerOf? ('#' :: c :: rest) = some d) : c = ':' := by
  obtain ⟨token, marker, -⟩ := Option.map_eq_some_iff.mp read
  obtain ⟨lead, word, after, worded, begins, -⟩ := markerToken?_eq_some_iff.mp marker
  -- there is no blank in front of the word
  have front : '#' :: c :: rest = word ++ after := by
    rw [← worded.trimStart_eq, trimStart, List.dropWhile_cons_of_neg (by decide)]
  have leads : ['#', ':'] <+: '#' :: c :: rest := front ▸ begins.trans (List.prefix_append _ _)
  rw [List.cons_prefix_cons, List.cons_prefix_cons] at leads
  exact leads.2.1.symm

/-- Of two ways to read a line one refuses it. -/
theorem pairwise_readings :
    readings.Pairwise fun read read' => ∀ line, read line = none ∨ read' line = none := by
  have apart : ∀ {sentinel : Char} {make : String → String → Directive}
      {read : List Char → Option Directive},
      (∀ rest d, read ('#' :: sentinel :: rest) = some d → False) →
        ∀ line, entryOf? sentinel make line = none ∨ read line = none := by
    intro sentinel make read other line
    cases first : entryOf? sentinel make line with
    | none => exact .inl rfl
    | some d =>
      obtain ⟨rest, rfl⟩ := exists_eq_of_entryOf? first
      cases second : read ('#' :: sentinel :: rest) with
      | none => exact .inr rfl
      | some d' => exact (other rest d' second).elim
  have assignment : ∀ rest d, entryOf? '=' .assignment ('#' :: '@' :: rest) = some d → False := by
    intro rest d read
    obtain ⟨rest', same⟩ := exists_eq_of_entryOf? read
    simp at same
  have marker : ∀ sentinel : Char, sentinel ≠ ':' →
      ∀ rest d, markerOf? ('#' :: sentinel :: rest) = some d → False :=
    fun sentinel ne rest d read => ne (eq_colon_of_markerOf? read)
  simp only [readings, List.pairwise_cons, List.mem_cons, List.not_mem_nil, or_false,
    forall_eq_or_imp, forall_eq, List.Pairwise.nil, and_true]
  exact ⟨⟨apart assignment, apart (marker '@' (by decide))⟩, apart (marker '=' (by decide)),
    nofun⟩

/-! ### Lines -/

theorem parse_eq_findSome? (line : String) :
    parse line = readings.findSome? fun read => read line.toList := by
  rw [parse, parseChars, readings, List.findSome?_cons, entryOf?]
  cases keyValue? '@' line.toList with
  | some entry => rfl
  | none =>
    rw [Option.map_none, List.findSome?_cons, entryOf?]
    cases keyValue? '=' line.toList with
    | some entry => rfl
    | none =>
      rw [Option.map_none, List.findSome?_cons, markerOf?]
      cases markerToken? line.toList <;> rfl

/-- Two ways to read a line that both accept it make the same of it. -/
theorem eq_of_readings {line : List Char} {d d' : Directive}
    {read read' : List Char → Option Directive} (mem : read ∈ readings) (mem' : read' ∈ readings)
    (first : read line = some d) (second : read' line = some d') : d = d' := by
  have agree : readings.Pairwise fun read read' =>
      ∀ d d', read line = some d → read' line = some d' → d = d' := by
    refine pairwise_readings.imp fun apart d d' first second => ?_
    rcases apart line with none | none
    · cases none.symm.trans first
    · cases none.symm.trans second
  have itself : ∀ read ∈ readings, ∀ d d', read line = some d → read line = some d' → d = d' :=
    fun _ _ d d' first second => Option.some.inj (first.symm.trans second)
  have backwards := agree.imp fun one d d' first second => (one d' d second first).symm
  exact agree.forall_of_forall_of_flip itself backwards mem mem' d d' first second

theorem parse_eq_some_iff {line : String} {d : Directive} :
    parse line = some d ↔ ∃ read ∈ readings, read line.toList = some d := by
  rw [parse_eq_findSome?]
  constructor
  · exact List.exists_of_findSome?_eq_some
  · rintro ⟨read, mem, accepted⟩
    cases found : readings.findSome? fun read => read line.toList with
    | none =>
      have refused := List.findSome?_eq_none_iff.mp found read mem
      cases refused.symm.trans accepted
    | some d' =>
      obtain ⟨read', mem', accepted'⟩ := List.exists_of_findSome?_eq_some found
      rw [eq_of_readings mem' mem accepted' accepted]

/-- The order in which the readings are tried does not matter. -/
theorem findSome?_of_perm {order : List (List Char → Option Directive)}
    (perm : order.Perm readings) (line : String) :
    (order.findSome? fun read => read line.toList) = parse line := by
  cases found : order.findSome? fun read => read line.toList with
  | some d =>
    obtain ⟨read, mem, accepted⟩ := List.exists_of_findSome?_eq_some found
    exact (parse_eq_some_iff.mpr ⟨read, perm.mem_iff.mp mem, accepted⟩).symm
  | none =>
    cases parsed : parse line with
    | none => rfl
    | some d =>
      obtain ⟨read, mem, accepted⟩ := parse_eq_some_iff.mp parsed
      have refused := List.findSome?_eq_none_iff.mp found read (perm.mem_iff.mpr mem)
      cases refused.symm.trans accepted

/-- What a line writes, in one of the three ways. -/
theorem parse_cases_iff {line : String} {d : Directive} :
    parse line = some d ↔
      (∃ name value, line = assignmentLine '@' name value ∧ IsEntry '@' name value ∧
        .setting name value = d) ∨
      (∃ tag value, line = assignmentLine '=' tag value ∧ IsEntry '=' tag value ∧
        .assignment tag value = d) ∨
      ∃ token, IsMarker line token ∧ .marker token = d := by
  rw [parse_eq_some_iff, ← entryOf?_eq_some_iff, ← entryOf?_eq_some_iff, ← markerOf?_eq_some_iff]
  simp [readings]

theorem parse_eq_setting_iff {line name value : String} :
    parse line = some (.setting name value) ↔
      line = assignmentLine '@' name value ∧ IsEntry '@' name value := by
  simp [parse_cases_iff]

theorem parse_eq_assignment_iff {line tag value : String} :
    parse line = some (.assignment tag value) ↔
      line = assignmentLine '=' tag value ∧ IsEntry '=' tag value := by
  simp [parse_cases_iff]

theorem parse_eq_marker_iff {line token : String} :
    parse line = some (.marker token) ↔ IsMarker line token := by
  simp [parse_cases_iff]

/-- A line that is written in none of the three ways is no directive. -/
theorem parse_eq_none_iff {line : String} :
    parse line = none ↔
      (∀ name value, ¬ (line = assignmentLine '@' name value ∧ IsEntry '@' name value)) ∧
      (∀ tag value, ¬ (line = assignmentLine '=' tag value ∧ IsEntry '=' tag value)) ∧
      ∀ token, ¬ IsMarker line token := by
  constructor
  · intro none
    refine ⟨fun name value written => ?_, fun tag value written => ?_, fun token written => ?_⟩
    · cases none.symm.trans (parse_eq_setting_iff.mpr written)
    · cases none.symm.trans (parse_eq_assignment_iff.mpr written)
    · cases none.symm.trans (parse_eq_marker_iff.mpr written)
  · rintro ⟨noSetting, noAssignment, noMarker⟩
    cases parsed : parse line with
    | none => rfl
    | some d =>
      rcases parse_cases_iff.mp parsed with ⟨name, value, written, entry, -⟩ |
        ⟨tag, value, written, entry, -⟩ | ⟨token, written, -⟩
      · exact (noSetting name value ⟨written, entry⟩).elim
      · exact (noAssignment tag value ⟨written, entry⟩).elim
      · exact (noMarker token written).elim

/-- **Which lines are directives.** A line is a setting, an assignment or a marker exactly if it is
written as one, and no directive otherwise. The three readings may be tried in any order, as of two
of them one refuses the line; a key and a value are told by the line that writes them; and a line of
fewer than five bytes writes none. -/
theorem parse_iff (line : String) :
    (∀ name value, parse line = some (.setting name value) ↔
      line = assignmentLine '@' name value ∧ IsEntry '@' name value) ∧
    (∀ tag value, parse line = some (.assignment tag value) ↔
      line = assignmentLine '=' tag value ∧ IsEntry '=' tag value) ∧
    (∀ token, parse line = some (.marker token) ↔ IsMarker line token) ∧
    (parse line = none ↔
      (∀ name value, ¬ (line = assignmentLine '@' name value ∧ IsEntry '@' name value)) ∧
      (∀ tag value, ¬ (line = assignmentLine '=' tag value ∧ IsEntry '=' tag value)) ∧
      ∀ token, ¬ IsMarker line token) ∧
    (readings.Pairwise fun read read' => read line.toList = none ∨ read' line.toList = none) ∧
    (∀ order : List (List Char → Option Directive), order.Perm readings →
      (order.findSome? fun read => read line.toList) = parse line) ∧
    ∀ sentinel key value key' value',
      line = assignmentLine sentinel key value → IsEntry sentinel key value →
      line = assignmentLine sentinel key' value' → IsEntry sentinel key' value' →
        key = key' ∧ value = value' ∧ 5 ≤ line.utf8ByteSize := by
  refine ⟨fun _ _ => parse_eq_setting_iff, fun _ _ => parse_eq_assignment_iff,
    fun _ => parse_eq_marker_iff, parse_eq_none_iff,
    pairwise_readings.imp fun apart => apart line.toList,
    fun order perm => findSome?_of_perm perm line, ?_⟩
  intro sentinel key value key' value' written entry written' entry'
  obtain ⟨keys, values⟩ := entry.unique entry' (written.symm.trans written')
  exact ⟨keys, values, written ▸ entry.five_le_utf8ByteSize⟩

/-- A line that assigns a value with sentinels of both kinds to a tag with a letter of two bytes. -/
theorem parse_iff_umlaut :
    parse "#=Ä=@b=" = some (.assignment "Ä" "@b=") ∧
      ([markerOf?, entryOf? '=' .assignment, entryOf? '@' .setting].findSome? fun read =>
        read "#=Ä=@b=".toList) = some (.assignment "Ä" "@b=") ∧
      5 ≤ "#=Ä=@b=".utf8ByteSize := by
  have entry : IsEntry '=' "Ä" "@b=" := ⟨by decide, by decide, 'b', by decide, by decide⟩
  have written : "#=Ä=@b=" = assignmentLine '=' "Ä" "@b=" := rfl
  obtain ⟨-, assignment, -, -, -, order, unique⟩ := parse_iff "#=Ä=@b="
  have parsed := (assignment "Ä" "@b=").mpr ⟨written, entry⟩
  have perm : [markerOf?, entryOf? '=' .assignment, entryOf? '@' .setting].Perm readings :=
    List.reverse_perm readings
  exact ⟨parsed, (order _ perm).trans parsed,
    (unique '=' "Ä" "@b=" "Ä" "@b=" written entry written entry).2.2⟩

end SmokeTest.Directive
