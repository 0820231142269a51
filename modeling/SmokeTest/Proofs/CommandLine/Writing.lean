/-
How command lines are written, and what comes of the other ones.

* `Written words groups` — the words are the spellings of the groups, one behind the other;
* `Asked groups settings` — what the groups ask for; the last value of a repeated option counts;
* `Writes words a` — the words are a way to write the arguments;
* `FirstEvent words r` — the first thing in the words that ends the reading, and what comes of it;
* `ofWords_eq_iff` — arguments are read back from every way to write them, and the first event
  decides about all other words.

Design notes: how often options are given, and where they stand among the other words, is up to the
list of groups, so nothing is said about interleavings. That nothing else can come of words follows
from there being something that comes of them: `exists_answers` goes along the words, one group
after the other.
-/
import Mathlib.Data.List.Forall2
import SmokeTest.CommandLine.Program
import SmokeTest.Proofs.CommandLine.Words
import SmokeTest.Proofs.Pool.Acceptance
import SmokeTest.Proofs.Text.Numeral

namespace SmokeTest.CommandLine

/-! ### Words -/

/-- The word can only be a source, a tag or a filter. One dash at its front does no harm, apart from
the three short options. -/
def IsPlain (word : String) : Prop :=
  ¬ ['-', '-'] <+: word.toList ∧ word ∉ ["-h", "-v", "-V"]

instance {word : String} : Decidable (IsPlain word) := inferInstanceAs (Decidable (_ ∧ _))

/-- The words that mean something by themselves. -/
def knownWords : List String :=
  ["--help", "-h", "--version", "-V", "--verbose", "-v", "--no-color", "--top", "--env-prefix",
    "--working-dir"]

/-- The word writes the number, which fits into a word of the machine. -/
def IsTop (word : String) (n : Nat) : Prop :=
  Text.Denotes word.toList n ∧ n ≤ Text.wordMax

variable {word value : String} {words front rest : List String} {g : Group} {groups : List Group}
  {p : Parameter}

theorem isOption_iff : isOption word = true ↔ ['-', '-'] <+: word.toList := by
  rw [isOption]
  split
  · next rest shape => simp [shape]
  · next other =>
    refine iff_of_false Bool.false_ne_true ?_
    rintro ⟨rest, shape⟩
    exact other rest shape.symm

theorem exists_switch_iff : (∃ s : Switch, word ∈ s.names) ↔
    word = "--verbose" ∨ word = "-v" ∨ word = "--no-color" := by
  constructor
  · rintro ⟨s, named⟩
    cases s with
    | verbose =>
      have named : word = "--verbose" ∨ word = "-v" := by simpa [Switch.names] using named
      exact named.imp_right .inl
    | noColor =>
      have named : word = "--no-color" := by simpa [Switch.names] using named
      exact .inr (.inr named)
  · rintro (rfl | rfl | rfl)
    · exact ⟨.verbose, by decide⟩
    · exact ⟨.verbose, by decide⟩
    · exact ⟨.noColor, by decide⟩

theorem exists_parameter_iff : (∃ p : Parameter, word = p.name) ↔
    word = "--top" ∨ word = "--env-prefix" ∨ word = "--working-dir" := by
  constructor
  · rintro ⟨p, rfl⟩
    cases p <;> simp [Parameter.name]
  · rintro (rfl | rfl | rfl)
    · exact ⟨.top, rfl⟩
    · exact ⟨.nameStart, rfl⟩
    · exact ⟨.directory, rfl⟩

theorem mem_knownWords_iff : word ∈ knownWords ↔
    isHelp word = true ∨ isVersion word = true ∨ (∃ s : Switch, word ∈ s.names) ∨
      ∃ p : Parameter, word = p.name := by
  rw [exists_switch_iff, exists_parameter_iff]
  simp only [knownWords, isHelp, isVersion, List.mem_cons, List.not_mem_nil, or_false,
    Bool.or_eq_true, beq_iff_eq, or_assoc]

/-- A plain word is one that has not the form of an option and means nothing by itself. -/
theorem isPlain_iff : IsPlain word ↔ isOption word = false ∧ word ∉ knownWords := by
  have known : ∀ word ∈ ["-h", "-v", "-V"], word ∈ knownWords := by decide
  have short : ∀ word ∈ knownWords, isOption word = false → word ∈ ["-h", "-v", "-V"] := by
    decide
  rw [IsPlain, ← isOption_iff, Bool.not_eq_true]
  exact and_congr_right fun noOption => not_congr ⟨known word, fun mem => short word mem noOption⟩

/-- What a word may be. -/
theorem word_cases (word : String) :
    isHelp word = true ∨ isVersion word = true ∨ (∃ s : Switch, word ∈ s.names) ∨
      (∃ p : Parameter, word = p.name) ∨ isOption word = true ∧ word ∉ knownWords ∨
        IsPlain word := by
  by_cases known : word ∈ knownWords
  · rcases mem_knownWords_iff.mp known with help | version | switch | parameter
    · exact .inl help
    · exact .inr (.inl version)
    · exact .inr (.inr (.inl switch))
    · exact .inr (.inr (.inr (.inl parameter)))
  · cases option : isOption word with
    | true => exact .inr (.inr (.inr (.inr (.inl ⟨rfl, known⟩))))
    | false => exact .inr (.inr (.inr (.inr (.inr (isPlain_iff.mpr ⟨option, known⟩)))))

/-! ### Groups -/

/-- The words are a way to write the group. -/
def Group.IsSpelling : Group → List String → Prop
  | switch s, words => ∃ name ∈ s.names, words = [name]
  | valued p value, words => words = [p.name, value]
  | plain word, words => IsPlain word ∧ words = [word]

/-- The words are the spellings of the groups, one behind the other. -/
def Written (words : List String) (groups : List Group) : Prop :=
  ∃ spellings, List.Forall₂ Group.IsSpelling groups spellings ∧ words = spellings.flatten

theorem written_nil : Written [] [] := ⟨[], .nil, rfl⟩

theorem Written.concat {spelling : List String} (h : Written front groups)
    (last : g.IsSpelling spelling) : Written (front ++ spelling) (groups ++ [g]) := by
  obtain ⟨spellings, each, rfl⟩ := h
  exact ⟨spellings ++ [spelling], List.rel_append each (.cons last .nil), by simp⟩

/-- Groups are read as they are written. -/
theorem Written.grouped (h : Written words groups) : Grouped words groups := by
  obtain ⟨spellings, each, rfl⟩ := h
  induction each with
  | nil => exact .nil
  | @cons g spelling groups spellings spelled _ ih =>
    rw [List.flatten_cons]
    cases g with
    | switch s =>
      obtain ⟨name, named, rfl⟩ := spelled
      exact .switch named ih
    | valued p value =>
      obtain rfl := spelled
      exact .valued p value ih
    | plain word =>
      obtain ⟨plain, rfl⟩ := spelled
      obtain ⟨noOption, unknown⟩ := isPlain_iff.mp plain
      simp only [mem_knownWords_iff, not_or, not_exists, Bool.not_eq_true] at unknown
      exact .plain unknown.1 unknown.2.1 unknown.2.2.1 noOption ih

/-- The word that a group adds to the source, the tag and the filter. -/
def Group.plain? : Group → Option String
  | plain word => some word
  | switch _ | valued _ _ => none

/-- The value that a group gives to an option. -/
def Group.value? (p : Parameter) : Group → Option String
  | valued q value => if q = p then some value else none
  | switch _ | plain _ => none

/-- The words that are no options and no values, in their order. -/
def plainWords (groups : List Group) : List String := groups.filterMap Group.plain?

/-- The last value that is given to an option. -/
def lastValue? (p : Parameter) (groups : List Group) : Option String :=
  (groups.filterMap (Group.value? p)).getLast?

theorem plainWords_concat (groups : List Group) (g : Group) :
    plainWords (groups ++ [g]) = plainWords groups ++ g.plain?.toList := by
  cases added : g.plain? <;> simp [plainWords, added]

theorem lastValue?_concat (p : Parameter) (groups : List Group) (g : Group) :
    lastValue? p (groups ++ [g]) = (g.value? p).or (lastValue? p groups) := by
  cases given : g.value? p <;> simp [lastValue?, given]

/-- Nothing is wrong with the groups: the values that should be numbers are, and there are at most
three words for the source, the tag and the filter. -/
structure Fits (groups : List Group) : Prop where
  tops : ∀ value, .valued .top value ∈ groups → ∃ n, IsTop value n
  few : (plainWords groups).length ≤ 3

/-- The settings are what the groups ask for; the last value of a repeated option counts. -/
structure Asked (groups : List Group) (s : Settings) : Prop where
  top : lastValue? .top groups = none ∧ s.top = defaultTop ∨
    ∃ value, lastValue? .top groups = some value ∧ IsTop value s.top
  nameStart : s.nameStart = lastValue? .nameStart groups
  directory : s.directory = lastValue? .directory groups
  verbose : s.verbose = true ↔ .switch .verbose ∈ groups
  noColor : s.noColor = true ↔ .switch .noColor ∈ groups

theorem Asked.unique {s s' : Settings} (h : Asked groups s) (h' : Asked groups s') : s = s' := by
  have top : s.top = s'.top := by
    rcases h.top with ⟨none_given, top⟩ | ⟨value, given, top⟩
    · rcases h'.top with ⟨-, top'⟩ | ⟨_, given', -⟩
      · rw [top, top']
      · cases none_given.symm.trans given'
    · rcases h'.top with ⟨none_given, -⟩ | ⟨_, given', top'⟩
      · cases none_given.symm.trans given
      · cases given.symm.trans given'
        exact top.1.unique top'.1
  have verbose : s.verbose = s'.verbose := Bool.eq_iff_iff.mpr (h.verbose.trans h'.verbose.symm)
  have noColor : s.noColor = s'.noColor := Bool.eq_iff_iff.mpr (h.noColor.trans h'.noColor.symm)
  have nameStart := h.nameStart.trans h'.nameStart.symm
  have directory := h.directory.trans h'.directory.symm
  cases s
  cases s'
  simp only [Settings.mk.injEq]
  exact ⟨top, nameStart, directory, verbose, noColor⟩

/-- The draft holds what the groups amount to. -/
structure Drafted (groups : List Group) (d : Draft) : Prop where
  plain : d.plain = plainWords groups
  asked : Asked groups d.settings

theorem drafted_nil : Drafted [] {} :=
  ⟨rfl, .inl ⟨rfl, rfl⟩, rfl, rfl, by simp, by simp⟩

theorem readTop_eq_ok_iff {n : Nat} : Draft.readTop word = .ok n ↔ IsTop word n := by
  rw [IsTop, ← Text.readDecimal?_eq_some_iff, Draft.readTop]
  cases Text.readDecimal? Text.wordMax word.toList <;> simp

/-- What one more group amounts to. -/
theorem Drafted.concat {d d' : Draft} (h : Drafted groups d) (taken : d.take g = .ok d') :
    Drafted (groups ++ [g]) d' := by
  obtain ⟨plain, asked⟩ := h
  cases g with
  | switch s =>
    have plain : d.plain = plainWords (groups ++ [.switch s]) := by
      simpa [plainWords_concat, Group.plain?] using plain
    cases s with
    | verbose =>
      cases taken
      refine ⟨plain, ?_⟩
      constructor <;> simp [lastValue?_concat, Group.value?, asked.top, asked.nameStart,
        asked.directory, asked.noColor]
    | noColor =>
      cases taken
      refine ⟨plain, ?_⟩
      constructor <;> simp [lastValue?_concat, Group.value?, asked.top, asked.nameStart,
        asked.directory, asked.verbose]
  | valued p value =>
    have plain : d.plain = plainWords (groups ++ [.valued p value]) := by
      simpa [plainWords_concat, Group.plain?] using plain
    cases p with
    | top =>
      cases read : Draft.readTop value with
      | error fault =>
        rw [Draft.take, read] at taken
        cases taken
      | ok n =>
        rw [Draft.take, read] at taken
        cases taken
        refine ⟨plain, ?_⟩
        constructor <;> simp [lastValue?_concat, Group.value?, readTop_eq_ok_iff.mp read,
          asked.nameStart, asked.directory, asked.verbose, asked.noColor]
    | nameStart =>
      cases taken
      refine ⟨plain, ?_⟩
      constructor <;> simp [lastValue?_concat, Group.value?, asked.top, asked.directory,
        asked.verbose, asked.noColor]
    | directory =>
      cases taken
      refine ⟨plain, ?_⟩
      constructor <;> simp [lastValue?_concat, Group.value?, asked.top, asked.nameStart,
        asked.verbose, asked.noColor]
  | plain word =>
    rw [Draft.take] at taken
    split at taken
    · cases taken
      refine ⟨by simp [plainWords_concat, Group.plain?, plain], ?_⟩
      constructor <;> simp [lastValue?_concat, Group.value?, asked.top, asked.nameStart,
        asked.directory, asked.verbose, asked.noColor]
    · cases taken

theorem fits_nil : Fits [] := ⟨by simp, by simp [plainWords]⟩

/-- Nothing is wrong with one more group that is no bad number and no fourth word. -/
theorem Fits.concat (fits : Fits groups)
    (tops : ∀ value, g = .valued .top value → ∃ n, IsTop value n)
    (few : (plainWords groups ++ g.plain?.toList).length ≤ 3) : Fits (groups ++ [g]) := by
  refine ⟨fun value mem => ?_, by rwa [plainWords_concat]⟩
  rcases List.mem_append.mp mem with before | last
  · exact fits.tops value before
  · exact tops value (List.mem_singleton.mp last).symm

theorem Fits.before (fits : Fits (groups ++ [g])) : Fits groups := by
  refine ⟨fun value mem => fits.tops value (List.mem_append_left _ mem), ?_⟩
  have few := fits.few
  rw [plainWords_concat, List.length_append] at few
  omega

/-- A group can be taken if nothing is wrong with it. -/
theorem Drafted.exists_take {d : Draft} (h : Drafted groups d) (fits : Fits (groups ++ [g])) :
    ∃ d', d.take g = .ok d' := by
  cases g with
  | switch s => cases s <;> exact ⟨_, rfl⟩
  | valued p value =>
    cases p with
    | top =>
      obtain ⟨n, top⟩ := fits.tops value (by simp)
      rw [Draft.take, readTop_eq_ok_iff.mpr top]
      exact ⟨_, rfl⟩
    | nameStart => exact ⟨_, rfl⟩
    | directory => exact ⟨_, rfl⟩
  | plain word =>
    have few := fits.few
    rw [plainWords_concat, ← h.plain, List.length_append] at few
    exact ⟨_, if_pos (by simpa [Group.plain?, Nat.lt_succ_iff] using few)⟩

/-- Groups with which nothing is wrong can be taken one after the other. -/
theorem exists_drafted (fits : Fits groups) :
    ∃ d, groups.foldlM Draft.take {} = .ok d ∧ Drafted groups d := by
  induction groups using List.reverseRecOn with
  | nil => exact ⟨{}, rfl, drafted_nil⟩
  | append_singleton groups g ih =>
    obtain ⟨d, taken, drafted⟩ := ih fits.before
    obtain ⟨d', last⟩ := drafted.exists_take fits
    refine ⟨d', ?_, drafted.concat last⟩
    rw [List.foldlM_append, taken]
    show [g].foldlM Draft.take d = _
    rw [List.foldlM_cons, last]
    rfl

/-! ### What comes of words -/

/-- The words are a way to write the arguments: groups of which nothing is a bad number, with the
source, the tag and perhaps the filter among them in this order. -/
def Writes (words : List String) (a : Arguments) : Prop :=
  ∃ groups, Written words groups ∧ Fits groups ∧
    plainWords groups = a.source :: a.tag :: a.filter.toList ∧ Asked groups a.settings

/-- What the words behind the groups lead to at once: help or the version, or a fault. -/
inductive WordEvent (groups : List Group) : List String → Except UsageError Demand → Prop
  | help {word : String} {rest : List String} (asks : word ∈ ["--help", "-h"]) :
      WordEvent groups (word :: rest) (.ok .help)
  | version {word : String} {rest : List String} (asks : word ∈ ["--version", "-V"]) :
      WordEvent groups (word :: rest) (.ok .version)
  /-- No option is called like this. -/
  | unknown {word : String} {rest : List String} (option : ['-', '-'] <+: word.toList)
      (noName : word ∉ knownWords) : WordEvent groups (word :: rest) (.error (.unknown word))
  /-- There is no word left for the value of an option. -/
  | missing (p : Parameter) : WordEvent groups [p.name] (.error (.missing p))
  | badTop {value : String} {rest : List String} (noNumber : ∀ n, ¬ IsTop value n) :
      WordEvent groups ("--top" :: value :: rest) (.error (.badTop value))
  /-- A fourth word would stand behind the source, the tag and the filter. -/
  | unexpected {word : String} {rest : List String} (plain : IsPlain word)
      (full : (plainWords groups).length = 3) :
      WordEvent groups (word :: rest) (.error (.unexpected word))
  /-- The words end before there are a source and a tag. -/
  | tooFew (few : (plainWords groups).length < 2) : WordEvent groups [] (.error .tooFew)

/-- Behind some groups, with which nothing is wrong, there is an event. -/
def FirstEvent (words : List String) (r : Except UsageError Demand) : Prop :=
  ∃ front groups rest, words = front ++ rest ∧ Written front groups ∧ Fits groups ∧
    WordEvent groups rest r

/-- What may come of words. -/
inductive Answers (words : List String) : Except UsageError Demand → Prop
  | run {a : Arguments} (writes : Writes words a) : Answers words (.ok (.run a))
  | event {r : Except UsageError Demand} (first : FirstEvent words r) : Answers words r

theorem isHelp_iff : isHelp word = true ↔ word ∈ ["--help", "-h"] := by
  simp [isHelp]

theorem isVersion_iff : isVersion word = true ↔ word ∈ ["--version", "-V"] := by
  simp [isVersion]

/-- An event ends the reading. -/
theorem WordEvent.read {d : Draft} {r : Except UsageError Demand} (event : WordEvent groups rest r)
    (drafted : Drafted groups d) : d.read rest = r := by
  cases event with
  | help asks => exact (Draft.Decides.help (isHelp_iff.mpr asks) _).read
  | version asks => exact (Draft.Decides.version (isVersion_iff.mpr asks) _).read
  | unknown option noName =>
    simp only [mem_knownWords_iff, not_or, not_exists, Bool.not_eq_true] at noName
    obtain ⟨help, version, unnamed, noValue⟩ := noName
    rw [Draft.read_other help version unnamed noValue, if_pos (isOption_iff.mpr option)]
  | missing p => cases p <;> rfl
  | @badTop value rest noNumber =>
    have refused : Draft.readTop value = .error (.badTop value) := by
      cases read : Text.readDecimal? Text.wordMax value.toList with
      | some n => exact absurd (Text.readDecimal?_eq_some_iff.mp read) (noNumber n)
      | none => rw [Draft.readTop, read]
    show d.read (Parameter.top.name :: value :: rest) = _
    rw [Draft.read_valued, Draft.take, refused]
    rfl
  | unexpected plain full =>
    obtain ⟨noOption, noName⟩ := isPlain_iff.mp plain
    simp only [mem_knownWords_iff, not_or, not_exists, Bool.not_eq_true] at noName
    rw [Draft.read_plain noName.1 noName.2.1 noName.2.2.1 noOption, Draft.take, drafted.plain,
      full]
    rfl
  | tooFew few =>
    rw [← drafted.plain] at few
    rw [Draft.read, Draft.finish]
    split
    · next shape =>
      rw [shape, List.length_cons, List.length_cons] at few
      omega
    · rfl

/-- What comes of words is what they are read as. -/
theorem Answers.ofWords {r : Except UsageError Demand} (h : Answers words r) :
    Demand.ofWords words = r := by
  rw [Demand.ofWords]
  cases h with
  | @run a writes =>
    obtain ⟨groups, written, fits, plain, asked⟩ := writes
    obtain ⟨d, taken, drafted⟩ := exists_drafted fits
    have finished : d.finish = .ok a := by
      rw [Draft.finish, drafted.plain, plain, drafted.asked.unique asked]
      show Except.ok { a with filter := a.filter.toList.head? } = Except.ok a
      rw [Option.head?_toList]
    rw [← List.append_nil words, Draft.read_append written.grouped taken]
    exact (Draft.Decides.run finished).read
  | event first =>
    obtain ⟨front, groups, rest, rfl, written, fits, event⟩ := first
    obtain ⟨d, taken, drafted⟩ := exists_drafted fits
    rw [Draft.read_append written.grouped taken]
    exact event.read drafted

/-- Groups that are not followed by anything are a way to write arguments, or there are too few
words. -/
theorem answers_of_written (written : Written words groups) (fits : Fits groups) :
    ∃ r, Answers words r := by
  rcases Nat.lt_or_ge (plainWords groups).length 2 with few | enough
  · exact ⟨_, .event ⟨words, groups, [], (List.append_nil _).symm, written, fits, .tooFew few⟩⟩
  · obtain ⟨d, -, drafted⟩ := exists_drafted fits
    have atMost := fits.few
    rcases shape : plainWords groups with _ | ⟨source, _ | ⟨tag, _ | ⟨filter, _ | ⟨more, rest⟩⟩⟩⟩
    · simp [shape] at enough
    · simp [shape] at enough
    · exact ⟨_, .run (a := ⟨source, tag, none, d.settings⟩)
        ⟨groups, written, fits, shape, drafted.asked⟩⟩
    · exact ⟨_, .run (a := ⟨source, tag, some filter, d.settings⟩)
        ⟨groups, written, fits, shape, drafted.asked⟩⟩
    · rw [shape] at atMost
      simp only [List.length_cons] at atMost
      omega

/-- What stands behind groups is nothing, an event, or one more group that is in order. -/
theorem event_or_group (fits : Fits groups) (word : String) (rest : List String) :
    (∃ r, WordEvent groups (word :: rest) r) ∨
      ∃ g spelling behind, word :: rest = spelling ++ behind ∧ behind.length ≤ rest.length ∧
        g.IsSpelling spelling ∧ Fits (groups ++ [g]) := by
  have noMore {p value} :
      (plainWords groups ++ (Group.valued p value).plain?.toList).length ≤ 3 := by
    simpa [Group.plain?] using fits.few
  rcases word_cases word with help | version | ⟨s, named⟩ | ⟨p, rfl⟩ | ⟨option, noName⟩ | plain
  · exact .inl ⟨_, .help (isHelp_iff.mp help)⟩
  · exact .inl ⟨_, .version (isVersion_iff.mp version)⟩
  · refine .inr ⟨.switch s, [word], rest, rfl, Nat.le_refl _, ⟨word, named, rfl⟩, ?_⟩
    exact fits.concat (by simp) (by simpa [Group.plain?] using fits.few)
  · rcases rest with _ | ⟨value, rest⟩
    · exact .inl ⟨_, .missing p⟩
    · by_cases number : p = .top → ∃ n, IsTop value n
      · refine .inr ⟨.valued p value, [p.name, value], rest, rfl, Nat.le_succ _, rfl, ?_⟩
        refine fits.concat (fun other same => ?_) noMore
        cases same
        exact number rfl
      · -- the value of `--top` is no number
        obtain ⟨rfl, noNumber⟩ := Classical.not_imp.mp number
        exact .inl ⟨_, .badTop (not_exists.mp noNumber)⟩
  · exact .inl ⟨_, .unknown (isOption_iff.mp option) noName⟩
  · by_cases full : (plainWords groups).length = 3
    · exact .inl ⟨_, .unexpected plain full⟩
    · refine .inr ⟨.plain word, [word], rest, rfl, Nat.le_refl _, ⟨plain, rfl⟩, ?_⟩
      have few := fits.few
      exact fits.concat (by simp) (by simp [Group.plain?]; omega)

/-- Something comes of all words that begin with groups with which nothing is wrong. -/
theorem exists_answers_of_written (written : Written front groups) (fits : Fits groups)
    (rest : List String) : ∃ r, Answers (front ++ rest) r := by
  -- along the groups that the rest begins with
  induction size : rest.length using Nat.strong_induction_on generalizing front groups rest with
  | _ size ih =>
    subst size
    rcases rest with _ | ⟨word, rest⟩
    · rw [List.append_nil]
      exact answers_of_written written fits
    · rcases event_or_group fits word rest with
        ⟨r, event⟩ | ⟨g, spelling, behind, whole, shorter, spelled, fits'⟩
      · exact ⟨r, .event ⟨front, groups, _, rfl, written, fits, event⟩⟩
      · rw [whole, ← List.append_assoc]
        exact ih behind.length (Nat.lt_succ_of_le shorter) (written.concat spelled) fits' behind rfl

theorem exists_answers (words : List String) : ∃ r, Answers words r :=
  exists_answers_of_written written_nil fits_nil words

/-- An event is no run, and it ends the program at once: with success if it asks for help or the
version, and as bad usage otherwise. -/
theorem FirstEvent.begins {ω : Type} {r : Except UsageError Demand} (first : FirstEvent words r)
    (s : Surroundings) (invoke : Location → Invoker ω) :
    (∀ a, r ≠ .ok (.run a)) ∧ ∃ e, Beginning.ofWords words s invoke = .ended e ∧
      e.exitCode.toNat = if r.isOk then 0 else 1 := by
  have read := (Answers.event first).ofWords
  obtain ⟨_, _, _, _, _, _, event⟩ := first
  rw [Beginning.ofWords, read]
  cases event <;> exact ⟨nofun, _, rfl, rfl⟩

/-- **Reading a command line undoes writing it.** Words are read as arguments exactly if they are a
way to write them: groups in whatever order, of which each is a switch by one of its names, an
option with its value, whatever this looks like, or a word that stands for itself. All other words
come to an event if they are read from left to right; the first one decides what is read, and it
ends the program, with success if it asks for help or the version and as bad usage otherwise. -/
theorem ofWords_eq_iff {ω : Type} (words : List String) (s : Surroundings)
    (invoke : Location → Invoker ω) :
    (∀ a, Demand.ofWords words = .ok (.run a) ↔ Writes words a) ∧
      ((∃ a, Writes words a) ∨ ∃ r, FirstEvent words r) ∧
      ∀ r, FirstEvent words r → Demand.ofWords words = r ∧ (∀ a, r ≠ .ok (.run a)) ∧
        ∃ e, Beginning.ofWords words s invoke = .ended e ∧
          e.exitCode.toNat = if r.isOk then 0 else 1 := by
  obtain ⟨read, answers⟩ := exists_answers words
  refine ⟨fun a => ⟨fun demand => ?_, fun writes => (Answers.run writes).ofWords⟩, ?_, ?_⟩
  · -- what the words come to is what they are read as, and no event is a run
    cases answers.ofWords.symm.trans demand
    cases answers with
    | run writes => exact writes
    | event first => exact absurd rfl ((first.begins s invoke).1 a)
  · cases answers with
    | run writes => exact .inl ⟨_, writes⟩
    | event first => exact .inr ⟨_, first⟩
  · exact fun r first => ⟨(Answers.event first).ofWords, first.begins s invoke⟩

/-- A switch by its short name, an option with the name of another one as its value, two numbers of
passes, and a filter that begins with a dash. -/
def dashedWords : List String :=
  ["-v", "smoke.txt", "--top", "+007", "--env-prefix", "--top", "dev", "--top", "3", "-x"]

/-- What `dashedWords` are a way to write. -/
def dashedGroups : List Group :=
  [.switch .verbose, .plain "smoke.txt", .valued .top "+007", .valued .nameStart "--top",
    .plain "dev", .valued .top "3", .plain "-x"]

theorem written_dashedGroups : Written dashedWords dashedGroups := by
  refine ⟨[["-v"], ["smoke.txt"], ["--top", "+007"], ["--env-prefix", "--top"], ["dev"],
    ["--top", "3"], ["-x"]], ?_, rfl⟩
  refine .cons ⟨"-v", by decide, rfl⟩ (.cons ⟨by decide, rfl⟩ (.cons rfl (.cons rfl
    (.cons ⟨by decide, rfl⟩ (.cons rfl (.cons ⟨by decide, rfl⟩ .nil))))))

/-- Of the two numbers the last one counts. A number that is none ends the program before the help
behind it is reached. -/
theorem ofWords_dashedGroups :
    Demand.ofWords dashedWords =
        .ok (.run {
          source := "smoke.txt"
          tag := "dev"
          filter := some "-x"
          settings := { top := 3, nameStart := some "--top", verbose := true } }) ∧
      Demand.ofWords ["smoke.txt", "--top", "many", "--help"] = .error (.badTop "many") ∧
      ∃ e, Beginning.ofWords ["smoke.txt", "--top", "many", "--help"] default
        (fun _ => calmInvoker) = .ended e ∧ e.exitCode.toNat = 1 := by
  have seven : IsTop "+007" 7 := Text.readDecimal?_eq_some_iff.mp rfl
  have three : IsTop "3" 3 := Text.readDecimal?_eq_some_iff.mp rfl
  have fits : Fits dashedGroups := by
    refine ⟨fun value mem => ?_, by decide⟩
    simp only [dashedGroups, List.mem_cons, List.not_mem_nil, Group.valued.injEq, reduceCtorEq,
      true_and, false_and, or_false, false_or] at mem
    rcases mem with rfl | rfl
    · exact ⟨7, seven⟩
    · exact ⟨3, three⟩
  have noNumber : ∀ n, ¬ IsTop "many" n := fun n top =>
    nomatch (Text.readDecimal?_eq_some_iff.mpr top : none = some n)
  have first : FirstEvent ["smoke.txt", "--top", "many", "--help"] (.error (.badTop "many")) :=
    ⟨["smoke.txt"], [.plain "smoke.txt"], ["--top", "many", "--help"], rfl,
      written_nil.concat ⟨by decide, rfl⟩, fits_nil.concat (by simp) (by decide), .badTop noNumber⟩
  obtain ⟨runs, -, -⟩ := ofWords_eq_iff dashedWords default fun _ => calmInvoker
  obtain ⟨-, -, events⟩ := ofWords_eq_iff ["smoke.txt", "--top", "many", "--help"] default
    fun _ => calmInvoker
  obtain ⟨read, -, ended⟩ := events _ first
  exact ⟨(runs _).mpr ⟨dashedGroups, written_dashedGroups, fits, rfl,
    .inr ⟨"3", rfl, three⟩, rfl, rfl, by decide, by decide⟩, read, ended⟩

end SmokeTest.CommandLine
