/-
The letter case of the tag.

* `Plan.retag shows tag` — the plan with another tag, also as the value of the names that show it;
* `Plan.Shows shows tag` — the plan has the tag, also as the value of these names;
* `ofLines_retag`, `ofDocument_retag` — under a tag with the same small form a text has the plan
  that it has, with the other tag;
* `under` — the plan that is made under a tag as it is given, with blanks around it;
* `Caseless` — what is made under two tags is the same up to the places that show the tag;
* `Plan.caseless_texts` — this holds of all text sources and all documents.

Design notes: whether a name shows the tag is decided by the options or the setup, under the first
of the two tags. That the second one would decide the same is part of what is proved.
-/
import SmokeTest.Proofs.Document.Tests
import SmokeTest.Proofs.Document.Variables
import SmokeTest.Proofs.Scan.Filtering
import SmokeTest.Proofs.Text.Case

namespace SmokeTest

/-! ### Changing the tag -/

/-- The probe with another tag under the names that show the tag. -/
def Probe.retag (shows : String → Bool) (tag : String) (p : Probe) : Probe :=
  { p with overrides := p.overrides.mapValues fun name v => if shows name then tag else v }

/-- The plan with another tag. -/
def Plan.retag (shows : String → Bool) (tag : String) (plan : Plan) : Plan where
  context := { plan.context with tag }
  probes := plan.probes.map (·.retag shows tag)

/-- The plan has the tag in its context and under the names that show the tag. -/
structure Plan.Shows (shows : String → Bool) (tag : String) (plan : Plan) : Prop where
  context : plan.context.tag = tag
  values : ∀ p ∈ plan.probes, ∀ name, shows name = true → p.overrides.get? name = some tag

variable {t : Tag} {o : Options}

/-! ### Text sources -/

/-- Whether a command of a text source is given the tag under the name. -/
def Options.showsTag (o : Options) (name : String) : Bool :=
  name == o.names.tag

/-- A line makes the same probe under another tag, with the other tag. -/
theorem Line.probe_retag (o : Options) (t : Tag) (value : Option String) (line : Line) :
    line.probe { o with tag := t } value = (line.probe o value).retag o.showsTag t := by
  have environment : Scan.environment { o with tag := t } line.number value =
      (Scan.environment o line.number value).map fun e =>
        (e.1, if o.showsTag e.1 then t.text else e.2) := by
    -- the other three names differ from the one that shows the tag
    cases value <;>
      simp [Scan.environment, Options.showsTag, VariableNames.tag, VariableNames.value,
        VariableNames.os, VariableNames.line, String.append_right_inj]
  have empty : ∀ f, Overrides.empty.mapValues f = .empty := fun _ => rfl
  have overrides : ∀ o : Options, (line.probe o value).overrides =
      .ofList (Scan.environment o line.number value) := fun _ => rfl
  refine Probe.ext rfl rfl ?_
  rw [Probe.retag, overrides, overrides, environment, Overrides.ofList, Overrides.ofList,
    ← Overrides.insertAll_mapValues, empty]

theorem Scan.add_retag (o : Options) (t : Tag) (s : Scan) (line : Line) :
    (s.onProbes (List.map (·.retag o.showsTag t))).add { o with tag := t } line =
      (s.add o line).map (onProbes (List.map (·.retag o.showsTag t))) := by
  have asked : Options.accepts { o with tag := t } = o.accepts := rfl
  rw [add_eq, add_eq, asked, Line.probe_retag, onProbes]
  split <;> simp [Except.map, onProbes]

/-- Under a tag with the same small form lines have the same plan, with the other tag. -/
theorem Plan.ofLines_retag (same : sameTag o.tag t = true) (lines : List Line) :
    ofLines { o with tag := t } lines = (ofLines o lines).map (retag o.showsTag t) :=
  ofLines_onProbes o { o with tag := t } (List.map (·.retag o.showsTag t)) same rfl rfl rfl
    (Scan.add_retag o t) lines

/-- Every probe that a scan collects is given the tag. -/
theorem Scan.get?_tag_of_steps {lines : List Line} {s : Scan}
    (h : steps o (start o) lines = .ok s) :
    ∀ p ∈ s.probes, p.overrides.get? o.names.tag = some o.tag.text := by
  intro p mem
  obtain ⟨line, -, value, rfl⟩ := exists_line_of_mem h p mem
  exact Line.get?_probe.mpr (List.mem_append_left _ List.mem_cons_self)

theorem Plan.shows_of_ofLines {lines : List Line} {plan : Plan}
    (scanned : ofLines o lines = .ok plan) : plan.Shows o.showsTag o.tag := by
  refine ⟨tag_ofLines scanned, fun p mem name shown => ?_⟩
  rw [eq_of_beq shown]
  obtain ⟨s, steps, rfl⟩ := ofLines_ok scanned
  exact Scan.get?_tag_of_steps steps p mem

/-! ### Documents -/

/-- Whether a test of the setup is given the tag under the name. -/
def Setup.givesTag (s : Setup) (o : Options) (i : Invocation) : String → Bool :=
  s.showsTag (s.context o) i

section Documents

variable {i : Invocation}

theorem Entry.probe?_retag (same : sameTag o.tag t = true) (e : Entry) (s : Setup)
    (name : String) :
    e.probe? { o with tag := t } (s.resolve { s.context o with tag := t } i) name =
      (e.probe? o (s.resolve (s.context o) i) name).map
        (Option.map (·.retag (s.givesTag o i) t)) := by
  have asked : Options.accepts { o with tag := t } = o.accepts := rfl
  simp only [probe?, Directive.selects_congr same, asked]
  split
  · rfl
  · cases made : Probe.ofCommand name (e.command.getD "") with
    | error fault => rfl
    | ok p =>
      obtain ⟨-, -, bare⟩ := Probe.ofCommand_eq_ok_iff.mp made
      -- the variables of the setup are all that the new probe is given
      refine congrArg (Except.ok ∘ some) (Probe.ext rfl rfl ?_)
      simp only [Probe.retag, Probe.withOverrides, bare]
      exact s.overrides_retag (c := s.context o) same i p.id

/-- The tests of a setup make the same probes, with the other tag. -/
theorem probesOf_retag (same : sameTag o.tag t = true) (s : Setup) (tests : List (String × Json)) :
    probesOf { o with tag := t } (s.resolve { s.context o with tag := t } i) tests =
      (probesOf o (s.resolve (s.context o) i) tests).map
        (List.map (·.retag (s.givesTag o i) t)) := by
  induction tests with
  | nil => rfl
  | cons first rest ih =>
    obtain ⟨name, v⟩ := first
    rw [probesOf, probesOf]
    cases Entry.ofJson? v with
    | none => rfl
    | some e =>
      simp only [Entry.probe?_retag same, ih]
      cases e.probe? o (s.resolve (s.context o) i) name with
      | error fault => rfl
      | ok found =>
        cases probesOf o (s.resolve (s.context o) i) rest with
        | error fault => rfl
        | ok probes => cases found <;> rfl

theorem Document.plan_retag (same : sameTag o.tag t = true) (d : Document) (i : Invocation) :
    d.plan { o with tag := t } i = (d.plan o i).map (Plan.retag (d.setup.givesTag o i) t) := by
  simp only [plan, Setup.context_retag same, probesOf_retag same]
  cases probesOf o (d.setup.resolve (d.setup.context o) i) d.tests <;> rfl

/-- Whether a test of the document that a text writes is given the tag under the name. -/
def Document.givesTag (o : Options) (i : Invocation) (format : Format) (text name : String) :
    Bool :=
  match Document.parse format text with
  | .ok d => d.setup.givesTag o i name
  | .error _ => false

/-- Under a tag with the same small form a document has the same plan, with the other tag. -/
theorem Plan.ofDocument_retag (same : sameTag o.tag t = true) (i : Invocation) (format : Format)
    (text : String) :
    ofDocument { o with tag := t } i format text =
      (ofDocument o i format text).map (retag (Document.givesTag o i format text) t) := by
  have shows : Document.givesTag o i format text = fun name =>
      match Document.parse format text with
      | .ok d => d.setup.givesTag o i name
      | .error _ => false := rfl
  rw [ofDocument, ofDocument, shows]
  cases Document.parse format text with
  | error fault => rfl
  | ok d => exact d.plan_retag same i

theorem Plan.shows_of_ofDocument {format : Format} {text : String} {plan : Plan}
    (loaded : ofDocument o i format text = .ok plan) :
    plan.Shows (Document.givesTag o i format text) o.tag := by
  obtain ⟨d, read, planned⟩ := ofDocument_eq_ok_iff.mp loaded
  obtain ⟨-, context, -⟩ := Document.plan_eq_ok_iff.mp planned
  refine ⟨congrArg Context.tag context, fun p mem name shown => ?_⟩
  obtain ⟨w, -, made⟩ := Document.exists_written planned mem
  obtain ⟨-, -, overrides⟩ := Written.probe?_eq_some_iff.mp made
  rw [Document.givesTag, read] at shown
  rw [overrides]
  exact d.setup.get?_overrides_of_showsTag i p.id shown

end Documents

/-! ### Tags as they are given -/

/-- Of two texts with one small form both are empty or none. -/
theorem eq_empty_iff_of_sameTag {a b : String} (same : sameTag a b = true) : a = "" ↔ b = "" := by
  have empty : ∀ s : String, s = "" ↔ Text.lower s.toList = [] := fun s => by
    rw [Text.lower_eq_nil_iff, String.toList_eq_nil_iff]
  rw [empty, empty, sameTag_iff.mp same]

namespace Plan

/-- The plan that is made under a tag as it is given, with the other options as they are. -/
def under (given : String) (o : Options) (make : Options → Except Error Plan) :
    Except Error Plan :=
  match Options.ofTag given with
  | .ok asked => make { o with tag := asked.tag }
  | .error fault => .error fault

theorem under_of_none {given : String} (none_left : Tag.ofText? given = none) (o : Options)
    (make : Options → Except Error Plan) : under given o make = .error .emptyTag := by
  rw [under, Options.ofTag, none_left]

theorem under_of_some {given : String} (left : Tag.ofText? given = some t) (o : Options)
    (make : Options → Except Error Plan) : under given o make = make { o with tag := t } := by
  rw [under, Options.ofTag, left]

/-- What is made under two tags is the same up to the places that show the tag. If nothing is left
of one of them without its blanks, then neither can be used. If one of the two makes no plan then
neither does the other, for the same reason. Otherwise the plans only differ in the tag of their
context and in the values under the names that show the tag, which are the tags themselves. -/
structure Caseless (make : Options → Except Error Plan) (shows : Options → String → Bool)
    (o : Options) (given given' : String) : Prop where
  blank : given.trimBlank = "" →
    under given o make = .error .emptyTag ∧ under given' o make = .error .emptyTag
  retagged : ∀ t : Tag, t.text = given.trimBlank →
    under given' o make =
      (under given o make).map (retag (shows { o with tag := t }) given'.trimBlank)
  shown : ∀ (t : Tag) (plan : Plan), t.text = given.trimBlank → under given o make = .ok plan →
    plan.Shows (shows { o with tag := t }) given.trimBlank

theorem caseless_of_retag (make : Options → Except Error Plan) (shows : Options → String → Bool)
    (retags : ∀ (o : Options) (t : Tag), sameTag o.tag t = true →
      make { o with tag := t } = (make o).map (retag (shows o) t))
    (shown : ∀ (o : Options) (plan : Plan), make o = .ok plan → plan.Shows (shows o) o.tag)
    (o : Options) {given given' : String}
    (same : sameTag given.trimBlank given'.trimBlank = true) :
    Caseless make shows o given given' := by
  have empty := eq_empty_iff_of_sameTag same
  refine ⟨fun blank => ⟨?_, ?_⟩, fun t left => ?_, fun t plan left made => ?_⟩
  · exact under_of_none (Tag.ofText?_eq_none_iff.mpr blank) o make
  · exact under_of_none (Tag.ofText?_eq_none_iff.mpr (empty.mp blank)) o make
  · -- something is left of the one text, so something is left of the other
    have some_left : given'.trimBlank ≠ "" := fun blank =>
      t.text_ne_empty (left.trans (empty.mpr blank))
    obtain ⟨t', left'⟩ := Tag.exists_text_eq some_left
    rw [← left, ← left'] at same
    rw [under_of_some (Tag.ofText?_eq_some_iff.mpr left),
      under_of_some (Tag.ofText?_eq_some_iff.mpr left'), ← left']
    exact retags { o with tag := t } t' same
  · rw [under_of_some (Tag.ofText?_eq_some_iff.mpr left)] at made
    exact left ▸ shown { o with tag := t } plan made

/-- **The letter case of the tag never matters.** Whatever the options, two tags that have one small
form without the blanks around them make of every text source and of every document the same plan,
or fail for the same reason; the plans only differ in the tag of the context and in the values that
are the tag itself: in text sources those of one name, in documents those of the names for which the
last variable with a value shows the tag. -/
theorem caseless_texts (o : Options) {given given' : String}
    (same : sameTag given.trimBlank given'.trimBlank = true) :
    (∀ lines, Caseless (ofLines · lines) Options.showsTag o given given') ∧
      ∀ (i : Invocation) (format : Format) (text : String),
        Caseless (ofDocument · i format text) (Document.givesTag · i format text) o given
          given' := by
  constructor
  · intro lines
    exact caseless_of_retag (ofLines · lines) Options.showsTag
      (fun _ _ same => ofLines_retag same lines) (fun _ _ => shows_of_ofLines) o same
  · intro i format text
    exact caseless_of_retag (ofDocument · i format text) (Document.givesTag · i format text)
      (fun _ _ same => ofDocument_retag same i format text) (fun _ _ => shows_of_ofDocument) o same

/-- What the commands of `officeText` are given for the tag `DEV`. -/
def capitalPlan : Plan where
  context := { tag := "DEV", poolSize := 2, timeoutSeconds := 600, value := some "7" }
  probes := [
    { userProbe with
      overrides := .ofList [("ST_LINE", "2"), ("ST_OS", "unix"), ("ST_TAG", "DEV")] },
    { adminProbe with
      overrides := .ofList
        [("ST_LINE", "4"), ("ST_OS", "unix"), ("ST_TAG", "DEV"), ("ST_VALUE", "7")] }]

theorem caseless_texts_dev :
    sameTag " dev".trimBlank "DEV".trimBlank = true ∧
      under " dev" { tag := .prod } (ofLines · (Line.ofText officeText)) =
        .ok (officePlan [userProbe, adminProbe]) ∧
      under "DEV" { tag := .prod } (ofLines · (Line.ofText officeText)) = .ok capitalPlan ∧
      under "DEV" { tag := .prod } (ofDocument · {} .json paddedText) =
        .ok (paddedPlan.retag (Document.givesTag { tag := .dev } {} .json paddedText) "DEV") := by
  have same : sameTag " dev".trimBlank "DEV".trimBlank = true := rfl
  have scanned : under " dev" { tag := .prod } (ofLines · (Line.ofText officeText)) =
      .ok (officePlan [userProbe, adminProbe]) := rfl
  obtain ⟨lines, documents⟩ := caseless_texts { tag := .prod } same
  refine ⟨same, scanned, ?_, ?_⟩
  · exact ((lines (Line.ofText officeText)).retagged .dev rfl).trans
      (congrArg (Except.map _) scanned)
  · have planned : under " dev" { tag := .prod } (ofDocument · {} .json paddedText) =
        .ok paddedPlan :=
      (under_of_some (Tag.ofText?_eq_some_iff.mpr rfl) _ _).trans ofDocument_paddedText
    exact ((documents {} .json paddedText).retagged .dev rfl).trans
      (congrArg (Except.map _) planned)

end Plan

end SmokeTest
