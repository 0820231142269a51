/-
How the words of a command line are read.

* `Grouped words groups` — the words are written as the groups;
* `Draft.read_append` — words that are written as groups are taken group by group;
* `Draft.Decides` — what is asked for behind the last group that is taken;
* `ofWords_eq_help_iff` — help is given exactly if a word that asks for it is reached;
* `Draft.read_eq_ok_iff` — words ask for something exactly if some groups at their front can be
  taken and the words behind them decide what it is.

Design notes: a group is told by its words alone, and only taking it can fail. So a word that asks
for help is reached exactly if everything before it can be grouped and taken, and it is not reached
where it is the value of an option.
-/
import SmokeTest.CommandLine.Arguments

namespace SmokeTest.CommandLine

/-! ### Groups -/

/-- The words are written as the groups: a switch by one of its names, an option by its name with a
value behind it, and any other word that is neither of these, asks for nothing by itself and has not
the form of an option. -/
inductive Grouped : List String → List Group → Prop
  | nil : Grouped [] []
  | switch {word : String} {s : Switch} {words : List String} {groups : List Group}
      (named : word ∈ s.names) (rest : Grouped words groups) :
      Grouped (word :: words) (.switch s :: groups)
  | valued (p : Parameter) (value : String) {words : List String} {groups : List Group}
      (rest : Grouped words groups) :
      Grouped (p.name :: value :: words) (.valued p value :: groups)
  | plain {word : String} {words : List String} {groups : List Group}
      (help : isHelp word = false) (version : isVersion word = false)
      (unnamed : ∀ s : Switch, word ∉ s.names) (noOption : isOption word = false)
      (rest : Grouped words groups) : Grouped (word :: words) (.plain word :: groups)

theorem Switch.ofWord?_eq_some_iff {word : String} {s : Switch} :
    Switch.ofWord? word = some s ↔ word ∈ s.names := by
  constructor
  · intro found
    rw [ofWord?] at found
    have named := List.find?_some found
    exact List.contains_iff_mem.mp named
  · intro named
    cases s with
    | verbose =>
      obtain rfl | rfl : word = "--verbose" ∨ word = "-v" := by simpa [names] using named
      · rfl
      · rfl
    | noColor =>
      obtain rfl : word = "--no-color" := by simpa [names] using named
      rfl

theorem Parameter.ofWord?_eq_some_iff {word : String} {p : Parameter} :
    Parameter.ofWord? word = some p ↔ word = p.name := by
  constructor
  · intro found
    rw [ofWord?] at found
    have same := List.find?_some found
    exact (beq_iff_eq.mp same).symm
  · rintro rfl
    cases p <;> rfl

/-- A word that names a switch asks for nothing by itself. -/
theorem Switch.asks_nothing {word : String} {s : Switch} (named : word ∈ s.names) :
    isHelp word = false ∧ isVersion word = false := by
  cases s with
  | verbose =>
    obtain rfl | rfl : word = "--verbose" ∨ word = "-v" := by simpa [names] using named
    · exact ⟨rfl, rfl⟩
    · exact ⟨rfl, rfl⟩
  | noColor =>
    obtain rfl : word = "--no-color" := by simpa [names] using named
    exact ⟨rfl, rfl⟩

theorem isHelp_of_isVersion {word : String} (asks : isVersion word = true) :
    isHelp word = false := by
  obtain rfl | rfl : word = "--version" ∨ word = "-V" := by simpa [isVersion] using asks
  · rfl
  · rfl

namespace Draft

variable {d d' : Draft} {word : String} {rest : List String}

theorem foldlM_cons_ok {g : Group} {groups : List Group}
    (taken : (g :: groups).foldlM take d = .ok d') :
    ∃ next, d.take g = .ok next ∧ groups.foldlM take next = .ok d' := by
  rw [List.foldlM_cons] at taken
  cases own : d.take g with
  | error fault =>
    rw [own] at taken
    cases taken
  | ok next =>
    rw [own] at taken
    exact ⟨next, rfl, taken⟩

/-! ### One group -/

theorem read_switch {s : Switch} (named : word ∈ s.names) :
    d.read (word :: rest) = (d.take (.switch s)).bind fun d => d.read rest := by
  obtain ⟨help, version⟩ := Switch.asks_nothing named
  rw [read.eq_def]
  dsimp only
  rw [help, version, Switch.ofWord?_eq_some_iff.mpr named]
  rfl

theorem read_valued {p : Parameter} {value : String} :
    d.read (p.name :: value :: rest) = (d.take (.valued p value)).bind fun d => d.read rest := by
  cases p <;> rfl

/-- A word that means nothing by itself is no option, or it stands for itself. -/
theorem read_other (help : isHelp word = false) (version : isVersion word = false)
    (unnamed : ∀ s : Switch, word ∉ s.names) (noValue : ∀ p : Parameter, word ≠ p.name) :
    d.read (word :: rest) =
      if isOption word then .error (.unknown word)
      else (d.take (.plain word)).bind fun d => d.read rest := by
  have noSwitch : Switch.ofWord? word = none :=
    Option.eq_none_iff_forall_ne_some.mpr fun s found =>
      unnamed s (Switch.ofWord?_eq_some_iff.mp found)
  have noParameter : Parameter.ofWord? word = none :=
    Option.eq_none_iff_forall_ne_some.mpr fun p found =>
      noValue p (Parameter.ofWord?_eq_some_iff.mp found)
  rw [read.eq_def]
  dsimp only
  rw [help, version, noSwitch, noParameter]
  rfl

theorem read_plain (help : isHelp word = false) (version : isVersion word = false)
    (unnamed : ∀ s : Switch, word ∉ s.names) (noOption : isOption word = false) :
    d.read (word :: rest) = (d.take (.plain word)).bind fun d => d.read rest := by
  have noValue : ∀ p : Parameter, word ≠ p.name := by
    rintro p rfl
    cases p <;> cases noOption
  rw [read_other help version unnamed noValue, noOption, if_neg Bool.false_ne_true]

/-- Words that are written as groups are taken group by group. -/
theorem read_append {front : List String} {groups : List Group} (grouped : Grouped front groups)
    (taken : groups.foldlM take d = .ok d') (rest : List String) :
    d.read (front ++ rest) = d'.read rest := by
  induction grouped generalizing d with
  | nil =>
    cases taken
    rfl
  | switch named _ ih =>
    obtain ⟨next, own, others⟩ := foldlM_cons_ok taken
    rw [List.cons_append, read_switch named, own]
    exact ih others
  | valued p value _ ih =>
    obtain ⟨next, own, others⟩ := foldlM_cons_ok taken
    rw [List.cons_append, List.cons_append, read_valued, own]
    exact ih others
  | plain help version unnamed noOption _ ih =>
    obtain ⟨next, own, others⟩ := foldlM_cons_ok taken
    rw [List.cons_append, read_plain help version unnamed noOption, own]
    exact ih others

/-- What is asked for behind the last group that was taken: help or the version by the next word, or
a run if there are no more words. -/
inductive Decides (d : Draft) : List String → Demand → Prop
  | help {word : String} (asks : isHelp word = true) (rest : List String) :
      Decides d (word :: rest) .help
  | version {word : String} (asks : isVersion word = true) (rest : List String) :
      Decides d (word :: rest) .version
  | run {a : Arguments} (finished : d.finish = .ok a) : Decides d [] (.run a)

theorem Decides.read {words : List String} {demand : Demand} (h : d.Decides words demand) :
    d.read words = .ok demand := by
  cases h with
  | help asks rest =>
    rw [Draft.read.eq_def]
    exact if_pos asks
  | version asks rest =>
    rw [Draft.read.eq_def]
    dsimp only
    rw [isHelp_of_isVersion asks, if_neg Bool.false_ne_true, if_pos asks]
  | run finished =>
    rw [Draft.read, finished]
    rfl

/-- Some groups, from the first word on, can be taken one after the other, and the words behind them
decide what is asked for. -/
def Asks (d : Draft) (words : List String) (demand : Demand) : Prop :=
  ∃ front groups rest d', words = front ++ rest ∧ Grouped front groups ∧
    groups.foldlM take d = .ok d' ∧ Decides d' rest demand

theorem Decides.asks {words : List String} {demand : Demand} (h : d.Decides words demand) :
    d.Asks words demand := ⟨[], [], words, d, rfl, .nil, rfl, h⟩

/-- What is asked for behind one more group. -/
theorem asks_of_group (own : List String) {g : Group} {demand : Demand}
    (grouped : ∀ {words groups}, Grouped words groups → Grouped (own ++ words) (g :: groups))
    (asked : ((d.take g).bind fun d => d.read rest) = .ok demand)
    (ih : ∀ next : Draft, next.read rest = .ok demand → next.Asks rest demand) :
    d.Asks (own ++ rest) demand := by
  cases first : d.take g with
  | error fault =>
    rw [first] at asked
    cases asked
  | ok next =>
    rw [first] at asked
    obtain ⟨front, groups, behind, d', rfl, others, taken, decides⟩ := ih next asked
    refine ⟨own ++ front, g :: groups, behind, d', (List.append_assoc _ _ _).symm, grouped others,
      ?_, decides⟩
    rw [List.foldlM_cons, first]
    exact taken

theorem asks_of_read {words : List String} {demand : Demand} (asked : d.read words = .ok demand) :
    d.Asks words demand := by
  fun_induction d.read words with
  | case1 d =>
    cases finished : d.finish with
    | error fault =>
      rw [finished] at asked
      cases asked
    | ok a =>
      rw [finished] at asked
      cases asked
      exact (Decides.run finished).asks
  | case2 d word rest help =>
    cases asked
    exact (Decides.help help rest).asks
  | case3 d word rest _ version =>
    cases asked
    exact (Decides.version version rest).asks
  | case4 d word rest _ _ s named ih =>
    have named := Switch.ofWord?_eq_some_iff.mp named
    exact asks_of_group [word] (.switch named) asked ih
  | case5 => cases asked
  | case6 d word _ _ _ p value rest named ih =>
    obtain rfl := Parameter.ofWord?_eq_some_iff.mp named
    exact asks_of_group [p.name, value] (.valued p value) asked ih
  | case7 => cases asked
  | case8 d word help version noSwitch rest _ noOption ih =>
    have unnamed : ∀ s : Switch, word ∉ s.names := by
      intro s named
      cases noSwitch.symm.trans (Switch.ofWord?_eq_some_iff.mpr named)
    exact asks_of_group [word] (.plain (Bool.eq_false_iff.mpr help)
      (Bool.eq_false_iff.mpr version) unnamed (Bool.eq_false_iff.mpr noOption)) asked ih

/-- What the words ask for. -/
theorem read_eq_ok_iff {words : List String} {demand : Demand} :
    d.read words = .ok demand ↔ d.Asks words demand := by
  constructor
  · exact asks_of_read
  · rintro ⟨front, groups, rest, d', rfl, grouped, taken, decides⟩
    rw [read_append grouped taken]
    exact decides.read

end Draft

/-! ### Command lines -/

/-- The word is reached: the words before it are written as groups, and nothing is wrong with
taking them. -/
def Reached (words : List String) (word : String) : Prop :=
  ∃ front rest groups d, words = front ++ word :: rest ∧ Grouped front groups ∧
    groups.foldlM Draft.take {} = .ok d

/-- A command line asks for help exactly if a word that does so is reached. -/
theorem ofWords_eq_help_iff {words : List String} :
    Demand.ofWords words = .ok .help ↔ ∃ word, Reached words word ∧ isHelp word = true := by
  rw [Demand.ofWords, Draft.read_eq_ok_iff]
  constructor
  · rintro ⟨front, groups, _, d, rfl, grouped, taken, decides⟩
    cases decides with
    | @help word asks rest => exact ⟨word, ⟨front, rest, groups, d, rfl, grouped, taken⟩, asks⟩
  · rintro ⟨word, ⟨front, rest, groups, d, rfl, grouped, taken⟩, asks⟩
    exact ⟨front, groups, word :: rest, d, rfl, grouped, taken, .help asks rest⟩

/-- A command line asks for the version exactly if a word that does so is reached. -/
theorem ofWords_eq_version_iff {words : List String} :
    Demand.ofWords words = .ok .version ↔ ∃ word, Reached words word ∧ isVersion word = true := by
  rw [Demand.ofWords, Draft.read_eq_ok_iff]
  constructor
  · rintro ⟨front, groups, _, d, rfl, grouped, taken, decides⟩
    cases decides with
    | @version word asks rest => exact ⟨word, ⟨front, rest, groups, d, rfl, grouped, taken⟩, asks⟩
  · rintro ⟨word, ⟨front, rest, groups, d, rfl, grouped, taken⟩, asks⟩
    exact ⟨front, groups, word :: rest, d, rfl, grouped, taken, .version asks rest⟩

/-- A command line asks for a run, or there is something wrong with it, exactly if no word that asks
for help or for the version is reached. -/
theorem ofWords_eq_other_iff {words : List String} :
    (∀ word, Reached words word → isHelp word = false ∧ isVersion word = false) ↔
      (∃ e, Demand.ofWords words = .error e) ∨ ∃ a, Demand.ofWords words = .ok (.run a) := by
  constructor
  · intro none_asks
    cases demand : Demand.ofWords words with
    | error e => exact .inl ⟨e, rfl⟩
    | ok asked =>
      cases asked with
      | run a => exact .inr ⟨a, rfl⟩
      | help =>
        obtain ⟨word, reached, asks⟩ := ofWords_eq_help_iff.mp demand
        cases asks.symm.trans (none_asks word reached).1
      | version =>
        obtain ⟨word, reached, asks⟩ := ofWords_eq_version_iff.mp demand
        cases asks.symm.trans (none_asks word reached).2
  · intro other word reached
    refine ⟨Bool.eq_false_iff.mpr fun asks => ?_, Bool.eq_false_iff.mpr fun asks => ?_⟩
    · have demand := ofWords_eq_help_iff.mpr ⟨word, reached, asks⟩
      rcases other with ⟨e, other⟩ | ⟨a, other⟩ <;> cases demand.symm.trans other
    · have demand := ofWords_eq_version_iff.mpr ⟨word, reached, asks⟩
      rcases other with ⟨e, other⟩ | ⟨a, other⟩ <;> cases demand.symm.trans other

end SmokeTest.CommandLine
