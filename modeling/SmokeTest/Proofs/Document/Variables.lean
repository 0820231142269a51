/-
Which variable of a setup decides what a name is set to.

* `Setup.deciding?` — the last variable of a name that has a value in the run;
* `Setup.get?_resolve` — a name is set to the value of the variable that decides;
* `Setup.resolve_retag` — under a tag with the same small form a name is set to what it is set to,
  but for the names that show the tag.

Design notes: a variable without a value is no entry of the resolved ones, so it does not hide an
earlier variable of the same name.
-/
import SmokeTest.Document.Variables
import SmokeTest.Proofs.Overrides
import SmokeTest.Proofs.Scan.Comparison

namespace SmokeTest

open Overrides (lookup_cons_eq)

/-! ### The last variable of a name -/

/-- What the resolved variables set for a test with the given id. -/
def Setup.overrides (s : Setup) (c : Context) (i : Invocation) (id : String) : Overrides :=
  .ofList ((s.resolve c i).map fun (n, v) => (n, v.forId id))

/-- The last variable with the name that has a value in the run. -/
def Setup.deciding? (s : Setup) (c : Context) (i : Invocation) (name : String) : Option Variable :=
  s.systemVariables.reverse.find? fun v => v.name == name && (v.value? c i).isSome

/-- The first entry under a name is the one of the first variable of that name that has a value. -/
theorem lookup_filterMap_value? (vs : List Variable) (c : Context) (i : Invocation)
    (id name : String) :
    (vs.filterMap fun v => (v.value? c i).map fun value => (v.name, value.forId id)).lookup name =
      (vs.find? fun v => v.name == name && (v.value? c i).isSome).bind fun v =>
        (v.value? c i).map (·.forId id) := by
  induction vs with
  | nil => rfl
  | cons v rest ih =>
    rw [List.filterMap_cons, List.find?_cons]
    cases own : v.value? c i with
    | none => simpa using ih
    | some value =>
      rw [Option.map_some, lookup_cons_eq]
      by_cases named : name = v.name
      · simp [named, own]
      · have other : (v.name == name) = false := beq_eq_false_iff_ne.mpr (Ne.symm named)
        simpa [named, other] using ih

/-- A name is set to the value of the variable that decides. -/
theorem Setup.get?_overrides (s : Setup) (c : Context) (i : Invocation) (id name : String) :
    (s.overrides c i id).get? name =
      (s.deciding? c i name).bind fun v => (v.value? c i).map (·.forId id) := by
  have entries : (s.resolve c i).map (fun (n, v) => (n, v.forId id)) =
      s.systemVariables.filterMap fun v =>
        (v.value? c i).map fun value => (v.name, value.forId id) := by
    rw [resolve, List.map_filterMap]
    simp only [Option.map_map]
    rfl
  have nothing : Overrides.empty.get? name = none := rfl
  rw [overrides, Overrides.ofList, Overrides.get?_insertAll, nothing, Option.or_none, entries,
    ← List.filterMap_reverse, lookup_filterMap_value?, deciding?]

/-- Whether a name is set to the tag of the run: the variable that decides shows the tag. -/
def Setup.showsTag (s : Setup) (c : Context) (i : Invocation) (name : String) : Bool :=
  (s.deciding? c i name).any fun v => v.fact == some .tag

/-- Where the tag is shown, there is the tag. -/
theorem Setup.get?_overrides_of_showsTag (s : Setup) {c : Context} (i : Invocation) (id : String)
    {name : String} (shown : s.showsTag c i name = true) :
    (s.overrides c i id).get? name = some c.tag := by
  rw [get?_overrides]
  obtain ⟨v, decides, fact⟩ := (Option.any_eq_true ..).mp shown
  rw [decides, Option.bind_some, Variable.value?, eq_of_beq fact]
  rfl

/-! ### Runs under another tag -/

section Retag

variable {tag' : String}

theorem tagValue?_congr {tag : String} (same : sameTag tag tag' = true)
    (pairs : List (String × String)) : tagValue? tag' pairs = tagValue? tag pairs := by
  simp only [tagValue?, Directive.carry_congr same]

theorem Setup.listedValue?_congr {tag : String} (same : sameTag tag tag' = true) (s : Setup) :
    s.listedValue? tag' = s.listedValue? tag := by
  simp only [listedValue?, tagValue?_congr same]

theorem Setup.context_retag {o : Options} {t : Tag} (same : sameTag o.tag t = true) (s : Setup) :
    s.context { o with tag := t } = { s.context o with tag := t.text } := by
  rw [context, context, listedValue?_congr same]

variable {c : Context}

/-- A variable has the same value under a tag with the same small form, unless it shows the tag. -/
theorem Variable.value?_retag (same : sameTag c.tag tag' = true) (v : Variable) (i : Invocation) :
    v.value? { c with tag := tag' } i =
      if v.fact = some .tag then some (.fixed tag') else v.value? c i := by
  obtain ⟨name, fact, inline, byTag⟩ := v
  cases fact with
  | some f => cases f <;> rfl
  | none =>
    cases inline with
    | some value => rfl
    | none =>
      cases byTag with
      | none => rfl
      | some pairs =>
        have listed := tagValue?_congr same pairs
        simp [value?, listed]

theorem Variable.isSome_value?_retag (same : sameTag c.tag tag' = true) (v : Variable)
    (i : Invocation) :
    (v.value? { c with tag := tag' } i).isSome = (v.value? c i).isSome := by
  rw [value?_retag same]
  split
  · next shown =>
    rw [value?, shown]
    rfl
  · rfl

theorem Setup.deciding?_retag (same : sameTag c.tag tag' = true) (s : Setup) (i : Invocation)
    (name : String) : s.deciding? { c with tag := tag' } i name = s.deciding? c i name := by
  rw [deciding?, deciding?]
  simp only [Variable.isSome_value?_retag same]

/-- The names that show the tag are set to the other tag, and all other names to what they were set
to. -/
theorem Setup.overrides_retag (same : sameTag c.tag tag' = true) (s : Setup) (i : Invocation)
    (id : String) :
    s.overrides { c with tag := tag' } i id =
      (s.overrides c i id).mapValues fun n v => if s.showsTag c i n then tag' else v := by
  refine Overrides.eq_of_get? fun name => ?_
  rw [Overrides.get?_mapValues, get?_overrides, get?_overrides, deciding?_retag same, showsTag]
  cases decides : s.deciding? c i name with
  | none => rfl
  | some v =>
    rw [Option.bind_some, Option.bind_some, Variable.value?_retag same]
    by_cases shown : v.fact = some .tag
    · -- a variable that shows the tag has a value under any tag
      simp [shown, Variable.value?, Fact.value, VariableValue.forId]
    · simp [shown, Function.comp_def]

end Retag

end SmokeTest
