/-
Which command a marked line is given.

A marker is the first word of its line, whatever blanks stand around it. The command is looked for
by another rule: it is what follows the first space of the line or, in a line without spaces, the
first tab.

* `separator` — the character that the command is looked for by;
* `commandIn` — the command that a text amounts to, none if the text is blank;
* `trim_afterFirstSpace_iff` — when what follows the separator is what follows the marker;
* `Plan.commandsAt_ofLines` — the command of a marked line, and when it is what follows the marker;
* `Plan.commandsAt_strayText` — three lines for which it is not.

Design notes: trimming loses blanks only, so two texts that are the same when they are trimmed have
the same number of other characters. A text that is left out of the command, or let into it, makes
no difference only if it is blank.
-/
import SmokeTest.Proofs.Directive.Grammar
import SmokeTest.Proofs.Scan.Positional

namespace SmokeTest

open Text

/-! ### What follows the separator -/

namespace Directive

/-- The character behind which the command of a line is looked for: a space if the line has one, a
tab otherwise. -/
def separator (line : List Char) : Char := if ' ' ∈ line then ' ' else '\t'

theorem isBlank_separator (line : List Char) : isBlank (separator line) = true := by
  rw [separator]
  split <;> decide

theorem afterFirstSpace_eq {line front back : List Char}
    (whole : line = front ++ separator line :: back) (free : separator line ∉ front) :
    afterFirstSpace line = back := by
  have found : cut (separator line) line = some (front, back) :=
    cut_eq_some_iff.mpr ⟨whole, free⟩
  rw [afterFirstSpace]
  by_cases space : ' ' ∈ line
  · rw [separator, if_pos space] at found
    rw [found]
  · rw [separator, if_neg space] at found
    rw [cut_eq_none_iff.mpr space, found]

theorem afterFirstSpace_eq_nil {line : List Char} (absent : separator line ∉ line) :
    afterFirstSpace line = [] := by
  have space : ' ' ∉ line := by
    intro space
    rw [separator, if_pos space] at absent
    exact absent space
  rw [separator, if_neg space] at absent
  rw [afterFirstSpace, cut_eq_none_iff.mpr space, cut_eq_none_iff.mpr absent]

/-- What stands before the first separator of a text, and what follows it. -/
theorem takeWhile_ne_eq {c : Char} {front : List Char} (free : c ∉ front) (back : List Char) :
    (front ++ c :: back).takeWhile (fun d => d != c) = front := by
  have kept : ∀ d ∈ front, (d != c) = true := by
    intro d mem
    rw [bne_iff_ne]
    rintro rfl
    exact free mem
  rw [List.takeWhile_append_of_pos kept, List.takeWhile_cons_of_neg (by simp), List.append_nil]

variable {line lead word rest : List Char}

/-- The separator is no part of the marker. -/
theorem separator_notMem_word (worded : Worded line lead word rest) :
    separator line ∉ word := by
  intro mem
  have solid := worded.solid _ mem
  rw [isBlank_separator] at solid
  exact absurd solid (by decide)

/-- Behind a separator in front of the marker the marker itself is left. -/
theorem trim_ne_of_mem_lead (worded : Worded line lead word rest)
    (before : separator line ∈ lead) : trim (afterFirstSpace line) ≠ trim rest := by
  obtain ⟨front, back, whole, free⟩ := List.eq_append_cons_of_mem before
  have around : line = front ++ separator line :: (back ++ (word ++ rest)) := by
    have around := worded.whole
    rw [whole] at around
    simpa using around
  have left : afterFirstSpace line = back ++ (word ++ rest) := afterFirstSpace_eq around free
  -- the marker is lost on the other side, and it has a character that is no blank
  have some_solid : solids word ≠ 0 := by
    intro none
    obtain ⟨c, more, rfl⟩ := List.exists_cons_of_ne_nil worded.some_word
    have blank := solids_eq_zero_iff.mp none c List.mem_cons_self
    rw [worded.solid c List.mem_cons_self] at blank
    exact absurd blank (by decide)
  intro same
  have count := congrArg solids same
  rw [solids_trim, solids_trim, left, solids_append, solids_append] at count
  omega

/-- Behind a separator that follows the marker the text between the two is lost. -/
theorem trim_eq_iff_of_mem_rest (worded : Worded line lead word rest)
    (before : separator line ∉ lead) (behind : separator line ∈ rest) :
    trim (afterFirstSpace line) = trim rest ↔
      ∀ c ∈ rest.takeWhile (fun c => c != separator line), isBlank c = true := by
  obtain ⟨front, back, whole, free⟩ := List.eq_append_cons_of_mem behind
  have around : line = (lead ++ (word ++ front)) ++ separator line :: back := by
    have around := worded.whole
    rw [whole] at around
    simpa using around
  have free' : separator line ∉ lead ++ (word ++ front) := by
    rw [List.mem_append, List.mem_append]
    rintro (mem | mem | mem)
    · exact before mem
    · exact separator_notMem_word worded mem
    · exact free mem
  have left : afterFirstSpace line = back := afterFirstSpace_eq around free'
  have between : rest.takeWhile (fun c => c != separator line) = front := by
    rw [whole, takeWhile_ne_eq free]
  have gap : solids [separator line] = 0 :=
    solids_eq_zero_iff.mpr (List.forall_mem_singleton.mpr (isBlank_separator line))
  have whole' : rest = (front ++ [separator line]) ++ back := by simpa using whole
  rw [left, between]
  constructor
  · intro same
    have count := congrArg solids same
    rw [solids_trim, solids_trim, whole', solids_append, solids_append] at count
    exact solids_eq_zero_iff.mp (by omega)
  · intro blank
    rw [whole', trim_append_of_blank]
    intro c mem
    rcases List.mem_append.mp mem with mem | mem
    · exact blank c mem
    · exact solids_eq_zero_iff.mp gap c mem

/-- In a line without a separator nothing is left. -/
theorem trim_eq_iff_of_notMem (worded : Worded line lead word rest)
    (absent : separator line ∉ line) :
    trim (afterFirstSpace line) = trim rest ↔
      ∀ c ∈ rest.takeWhile (fun c => c != separator line), isBlank c = true := by
  have behind : ∀ c ∈ rest, (c != separator line) = true := by
    intro c mem
    rw [bne_iff_ne]
    rintro rfl
    exact absent (worded.mem_iff.mpr (.inr (.inr mem)))
  have between : rest.takeWhile (fun c => c != separator line) = rest :=
    List.takeWhile_eq_self_iff.mpr behind
  rw [afterFirstSpace_eq_nil absent, between, eq_comm]
  exact trim_eq_nil_iff.trans List.all_eq_true

/-- What follows the separator is what follows the marker, but for blanks around it, exactly if the
separator does not stand before the marker and nothing but blanks stands between the two. -/
theorem trim_afterFirstSpace_iff (worded : Worded line lead word rest) :
    trim (afterFirstSpace line) = trim rest ↔
      separator line ∉ lead ∧
        ∀ c ∈ rest.takeWhile (fun c => c != separator line), isBlank c = true := by
  by_cases before : separator line ∈ lead
  · exact iff_of_false (trim_ne_of_mem_lead worded before) fun h => h.1 before
  · rw [and_iff_right before]
    by_cases behind : separator line ∈ rest
    · exact trim_eq_iff_of_mem_rest worded before behind
    · refine trim_eq_iff_of_notMem worded fun mem => ?_
      rcases worded.mem_iff.mp mem with mem | mem | mem
      · exact before mem
      · exact separator_notMem_word worded mem
      · exact behind mem

end Directive

/-! ### The command of a line -/

/-- The command that a text amounts to: the text without the blanks around it, and no command if
the text is blank. -/
def commandIn (text : List Char) : List String :=
  if text.all isBlank then [] else [String.ofList (trim text)]

theorem commandIn_eq (text : List Char) :
    commandIn text = if trim text = [] then [] else [String.ofList (trim text)] := by
  have blank : text.all isBlank = true ↔ trim text = [] := trim_eq_nil_iff.symm
  simp only [commandIn, blank]

/-- Two texts amount to the same command if they are the same but for blanks around them. -/
theorem commandIn_congr_iff {a b : List Char} : commandIn a = commandIn b ↔ trim a = trim b := by
  rw [commandIn_eq, commandIn_eq]
  constructor
  · intro same
    by_cases ha : trim a = [] <;> by_cases hb : trim b = []
    · rw [ha, hb]
    · simp [ha, hb] at same
    · simp [ha, hb] at same
    · rw [if_neg ha, if_neg hb] at same
      exact String.ofList_injective (List.singleton_inj.mp same)
  · intro same
    rw [same]

/-- The command of a line is what its text behind the separator amounts to. -/
theorem Line.commandIn_eq_command (line : Line) :
    commandIn (Directive.afterFirstSpace line.text.toList) =
      if line.command.isEmpty then [] else [line.command] := by
  have same : line.command =
      String.ofList (trim (Directive.afterFirstSpace line.text.toList)) := by
    rw [Line.command, Directive.commandOf, String.trimBlank, String.toList_ofList]
  rw [commandIn_eq, same]
  by_cases none : trim (Directive.afterFirstSpace line.text.toList) = []
  · rw [if_pos none, none]
    rfl
  · rw [if_neg none, if_neg]
    rw [String.isEmpty_iff, String.ofList_eq_empty_iff]
    exact none

/-! ### Sources -/

/-- The commands of the probes with the number for an id. -/
def Plan.commandsAt (plan : Plan) (number : Nat) : List String :=
  (plan.probes.filter fun p => p.id == Text.decimal number).map Probe.command

/-- The probes with the number of a line for an id are those of the lines with this number. -/
theorem commands_of_forall₂ {o : Options} {lines selected : List Line} {probes : List Probe}
    (collected : List.Forall₂ (ProbeOf o lines) selected probes) (number : Nat) :
    (probes.filter fun p => p.id == Text.decimal number).map Probe.command =
      (selected.filter fun a => a.number == number).map Line.command := by
  induction collected with
  | nil => rfl
  | @cons line p selected probes own _ ih =>
    by_cases here : line.number = number
    · have id : p.id = Text.decimal number := by rw [own.id, here]
      simp only [List.filter_cons, here, id, beq_self_eq_true, if_true, List.map_cons, ih,
        own.command]
    · have id : p.id ≠ Text.decimal number := by
        rw [own.id]
        exact fun same => here (Text.decimal_injective same)
      simp only [List.filter_cons, beq_eq_false_iff_ne.mpr here, beq_eq_false_iff_ne.mpr id,
        Bool.false_eq_true, if_false, ih]

/-- Along ascending numbers there is one line with a number. -/
theorem filter_number_eq {lines : List Line}
    (ascending : lines.Pairwise fun a b => a.number < b.number) {line : Line}
    (mem : line ∈ lines) : lines.filter (fun a => a.number == line.number) = [line] := by
  obtain ⟨front, back, rfl⟩ := List.append_of_mem mem
  obtain ⟨-, after, before⟩ := List.pairwise_append.mp ascending
  obtain ⟨after, -⟩ := List.pairwise_cons.mp after
  have above : front.filter (fun a => a.number == line.number) = [] := by
    refine List.filter_eq_nil_iff.mpr fun a mem => ?_
    have lt : a.number < line.number := before a mem line List.mem_cons_self
    simpa using Nat.ne_of_lt lt
  have below : back.filter (fun a => a.number == line.number) = [] := by
    refine List.filter_eq_nil_iff.mpr fun a mem => ?_
    have lt : line.number < a.number := after a mem
    simpa using Nat.ne_of_gt lt
  rw [List.filter_append, above, List.filter_cons, if_pos (beq_self_eq_true _), below]
  rfl

namespace Plan

theorem commandsAt_eq {o : Options} (unfiltered : o.filter = none) {lines : List Line}
    (ascending : lines.Pairwise fun a b => a.number < b.number) {plan : Plan}
    (scanned : ofLines o lines = .ok plan) {line : Line} (mem : line ∈ lines) :
    plan.commandsAt line.number = if line.isSelected o.tag then [line.command] else [] := by
  obtain ⟨s, steps, rfl⟩ := ofLines_ok scanned
  have collected := (Scan.collected_of_steps unfiltered ascending steps).2
  have single : (lines.filter (Line.isSelected o.tag)).filter
      (fun a => a.number == line.number) =
      if line.isSelected o.tag then [line] else [] := by
    rw [List.filter_comm, filter_number_eq ascending mem, List.filter_singleton]
    cases line.isSelected o.tag <;> rfl
  have own : (s.plan o).commandsAt line.number =
      (if line.isSelected o.tag then [line] else []).map Line.command := by
    rw [← single]
    exact commands_of_forall₂ collected line.number
  rw [own]
  split <;> rfl

/-- **The command of a marked line.** Let a text be scanned without a filter, and let one of its
lines have a marker that selects the tag. The marker is the first word of the line. The command is
the text behind the first space or, in a line without spaces, behind the first tab, without the
blanks around it; if this is blank, or if the line has neither, the line has no command. What
follows the marker is the command, and if it is blank there is none, exactly if the space or tab
does not stand before the marker and there are only blanks between the marker and it, or only blanks
behind the marker if the line has neither. -/
theorem commandsAt_ofLines {o : Options} (unfiltered : o.filter = none) {text : String}
    {plan : Plan} (scanned : ofLines o (Line.ofText text) = .ok plan) {line : Line}
    (mem : line ∈ Line.ofText text) {token : String}
    (parsed : Directive.parse line.text = some (.marker token))
    (selected : (Directive.marker token).selects o.tag = true) :
    ∃ lead word rest, Worded line.text.toList lead word rest ∧
      String.ofList (lower word) = token ∧
      (∀ front back, line.text.toList = front ++ Directive.separator line.text.toList :: back →
        Directive.separator line.text.toList ∉ front →
          plan.commandsAt line.number = commandIn back) ∧
      (Directive.separator line.text.toList ∉ line.text.toList →
        plan.commandsAt line.number = []) ∧
      (plan.commandsAt line.number = commandIn rest ↔
        Directive.separator line.text.toList ∉ lead ∧
          ∀ c ∈ rest.takeWhile (fun c => c != Directive.separator line.text.toList),
            isBlank c = true) := by
  obtain ⟨lead, word, rest, worded, -, token_eq⟩ := Directive.parse_eq_marker_iff.mp parsed
  have own : plan.commandsAt line.number =
      commandIn (Directive.afterFirstSpace line.text.toList) := by
    rw [commandsAt_eq unfiltered (ascending_ofText text) scanned mem, line.commandIn_eq_command,
      Line.isSelected]
    simp only [parsed, selected, Bool.true_and]
    cases line.command.isEmpty <;> rfl
  refine ⟨lead, word, rest, worded, token_eq, fun front back whole free => ?_, fun absent => ?_, ?_⟩
  · rw [own, Directive.afterFirstSpace_eq whole free]
  · rw [own, Directive.afterFirstSpace_eq_nil absent]
    rfl
  · rw [own, commandIn_congr_iff, Directive.trim_afterFirstSpace_iff worded]

/-- A line with blanks of several kinds, before and behind its marker and in its command. -/
def spacedLine : Line := ⟨1, "\u00a0#:Dev:\u2003 echo  a\tb "⟩

/-- What is scanned from `spacedLine` for the tag `dev`. -/
def spacedPlan : Plan where
  context := { tag := "dev", poolSize := 5, timeoutSeconds := 600 }
  probes := [
    { id := "1", command := "echo  a\tb"
      overrides := .ofList [("ST_LINE", "1"), ("ST_OS", "unix"), ("ST_TAG", "dev")] }]

theorem commandsAt_spacedLine :
    ofLines { tag := .dev } (Line.ofText spacedLine.text) = .ok spacedPlan ∧
      spacedLine ∈ Line.ofText spacedLine.text ∧
      Directive.parse spacedLine.text = some (.marker "#:dev:") ∧
      (Directive.marker "#:dev:").selects "dev" = true ∧
      Worded spacedLine.text.toList ['\u00a0'] "#:Dev:".toList "\u2003 echo  a\tb ".toList ∧
      spacedPlan.commandsAt 1 = commandIn "\u2003 echo  a\tb ".toList := by
  have scanned : ofLines { tag := .dev } (Line.ofText spacedLine.text) = .ok spacedPlan := rfl
  have mem : spacedLine ∈ Line.ofText spacedLine.text := by decide +kernel
  have parsed : Directive.parse spacedLine.text = some (.marker "#:dev:") := by decide +kernel
  have selected : (Directive.marker "#:dev:").selects "dev" = true := by decide +kernel
  have worded : Worded spacedLine.text.toList ['\u00a0'] "#:Dev:".toList
      "\u2003 echo  a\tb ".toList := by decide +kernel
  obtain ⟨lead, word, rest, worded', -, -, -, follows⟩ :=
    commandsAt_ofLines rfl scanned mem parsed selected
  obtain ⟨rfl, -, rfl⟩ := worded.unique worded'
  have before : Directive.separator spacedLine.text.toList ∉ ['\u00a0'] := by decide +kernel
  have between : ("\u2003 echo  a\tb ".toList.takeWhile
      fun c => c != Directive.separator spacedLine.text.toList).all isBlank = true := by
    decide +kernel
  exact ⟨scanned, mem, parsed, selected, worded,
    follows.mpr ⟨before, List.all_eq_true.mp between⟩⟩

/-- A line with a tab before its first space, one with a space before its marker, and one with a
blank of another kind behind it. -/
def strayText : String := "#:+:\techo hi\n #:+: ls\n#:+:\u00a0date\n"

/-- What is scanned from `strayText` for the tag `dev`. -/
def strayPlan : Plan where
  context := { tag := "dev", poolSize := 5, timeoutSeconds := 600 }
  probes := [
    { id := "1", command := "hi"
      overrides := .ofList [("ST_LINE", "1"), ("ST_OS", "unix"), ("ST_TAG", "dev")] },
    { id := "2", command := "#:+: ls"
      overrides := .ofList [("ST_LINE", "2"), ("ST_OS", "unix"), ("ST_TAG", "dev")] }]

/-- The command of a marked line is not always what follows the marker: the first line gives `hi`
and not `echo hi`, the second one its own marker and not `ls`, and the third one nothing and not
`date`. -/
theorem commandsAt_strayText :
    ofLines { tag := .dev } (Line.ofText strayText) = .ok strayPlan ∧
      (∀ line ∈ Line.ofText strayText, Directive.parse line.text = some (.marker "#:+:")) ∧
      (Directive.marker "#:+:").selects "dev" = true ∧
      (Worded "#:+:\techo hi".toList [] "#:+:".toList "\techo hi".toList ∧
        strayPlan.commandsAt 1 = ["hi"] ∧ commandIn "\techo hi".toList = ["echo hi"]) ∧
      (Worded " #:+: ls".toList [' '] "#:+:".toList " ls".toList ∧
        strayPlan.commandsAt 2 = ["#:+: ls"] ∧ commandIn " ls".toList = ["ls"]) ∧
      (Worded "#:+:\u00a0date".toList [] "#:+:".toList "\u00a0date".toList ∧
        strayPlan.commandsAt 3 = [] ∧ commandIn "\u00a0date".toList = ["date"]) := by
  refine ⟨rfl, by decide +kernel, by decide +kernel, ?_, ?_, ?_⟩ <;> decide +kernel

end Plan

end SmokeTest
