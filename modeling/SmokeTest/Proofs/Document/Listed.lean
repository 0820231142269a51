/-
The values that a variable lists by tag.

* `IsLast` — the last item of a list that has a property;
* `Chosen` — the pair that a tag means: of the keys that are the tag up to letter case, the one that
  is greatest in the order of texts;
* `tagValue?_eq_some_iff` — the value listed for a tag is that of the chosen pair;
* `Document.listsSorted_of_parse` — in a document that can be read, every such list stands in the
  order of its keys, in whatever order it is written.

Design notes: pairs are sorted when they are read, in both formats. What is kept in a reader of trees
is said once, by `Yaml.Decoder.Yields`.
-/
import Mathlib.Data.List.Basic
import SmokeTest.Proofs.Document.Names
import SmokeTest.Proofs.Overrides

namespace SmokeTest

/-! ### The last item with a property -/

section IsLast

variable {α β : Type} {P : α → Prop} {items : List α} {a b : α}

/-- Of the items that have the property it is the last one. -/
def IsLast (P : α → Prop) (items : List α) (a : α) : Prop :=
  ∃ front back, items = front ++ a :: back ∧ P a ∧ ∀ b ∈ back, ¬ P b

theorem IsLast.holds (last : IsLast P items a) : P a := by
  obtain ⟨_, _, -, holds, -⟩ := last
  exact holds

theorem IsLast.mem (last : IsLast P items a) : a ∈ items := by
  obtain ⟨front, back, rfl, -, -⟩ := last
  exact List.mem_append_right _ List.mem_cons_self

/-- Only what the property says of the items matters. -/
theorem isLast_congr {Q : α → Prop} (same : ∀ x ∈ items, P x ↔ Q x) :
    IsLast P items a ↔ IsLast Q items a := by
  refine exists_congr fun front => exists_congr fun back => and_congr_right ?_
  rintro rfl
  have later : ∀ b ∈ back, P b ↔ Q b := fun b mem => same b (by simp [mem])
  rw [same a (by simp)]
  exact and_congr_right fun _ => forall₂_congr fun b mem => not_congr (later b mem)

/-- Searching from the end finds the last item. -/
theorem find?_reverse_eq_some_iff {p : α → Bool} :
    items.reverse.find? p = some a ↔ IsLast (fun x => p x = true) items a := by
  rw [List.find?_eq_some_iff_append]
  constructor
  · rintro ⟨holds, back, front, reversed, others⟩
    have whole : items = front.reverse ++ a :: back.reverse := by
      simpa using congrArg List.reverse reversed
    exact ⟨front.reverse, back.reverse, whole, holds, by simpa using others⟩
  · rintro ⟨front, back, rfl, holds, others⟩
    exact ⟨holds, back.reverse, front.reverse, by simp, by simpa using others⟩

/-- Some item has the property exactly if there is a last one. -/
theorem exists_isLast_iff : (∃ a, IsLast P items a) ↔ ∃ a ∈ items, P a := by
  classical
  constructor
  · rintro ⟨a, last⟩
    exact ⟨a, last.mem, last.holds⟩
  · rintro ⟨a, mem, holds⟩
    have found : (items.reverse.find? fun x => decide (P x)).isSome = true := by
      rw [List.find?_isSome]
      exact ⟨a, List.mem_reverse.mpr mem, decide_eq_true holds⟩
    obtain ⟨b, found⟩ := Option.isSome_iff_exists.mp found
    have last := find?_reverse_eq_some_iff.mp found
    simp only [decide_eq_true_eq] at last
    exact ⟨b, last⟩

/-- There is only one last item. -/
theorem IsLast.unique (last : IsLast P items a) (other : IsLast P items b) : a = b := by
  classical
  have found {x : α} (last : IsLast P items x) :
      (items.reverse.find? fun x => decide (P x)) = some x := by
    rw [find?_reverse_eq_some_iff]
    simpa only [decide_eq_true_eq] using last
  exact Option.some.inj ((found last).symm.trans (found other))

/-- A fold that keeps the latest thing found finds it in the last item that has one. -/
theorem foldl_eq_some_iff (find : α → Option β) {step : Option β → α → Option β}
    (latest : ∀ current a, step current a = (find a).or current) {b : β} :
    items.foldl step none = some b ↔
      ∃ a, IsLast (fun x => (find x).isSome = true) items a ∧ find a = some b := by
  have fold : ∀ current, items.foldl step current = (items.reverse.findSome? find).or current := by
    induction items with
    | nil => exact fun _ => rfl
    | cons first rest ih =>
      intro current
      rw [List.foldl_cons, ih, latest, List.reverse_cons, List.findSome?_append, Option.or_assoc]
      cases own : find first <;> simp [own]
  rw [fold, Option.or_none, List.findSome?_eq_some_iff]
  constructor
  · rintro ⟨back, a, front, reversed, found, others⟩
    have whole : items = front.reverse ++ a :: back.reverse := by
      simpa using congrArg List.reverse reversed
    have holds : (find a).isSome = true := by rw [found]; rfl
    exact ⟨a, ⟨front.reverse, back.reverse, whole, holds, by simpa using others⟩, found⟩
  · rintro ⟨a, ⟨front, back, rfl, -, others⟩, found⟩
    exact ⟨back.reverse, a, front.reverse, by simp, found, by simpa using others⟩

/-- Along a list that ascends, the last item with a property is the greatest one. -/
theorem isLast_iff_of_pairwise {r : α → α → Prop} (ascending : items.Pairwise r)
    (asymmetric : ∀ x y, r x y → ¬ r y x) :
    IsLast P items a ↔ a ∈ items ∧ P a ∧ ∀ b ∈ items, P b → ¬ r a b := by
  constructor
  · rintro ⟨front, back, rfl, holds, others⟩
    obtain ⟨-, -, before⟩ := List.pairwise_append.mp ascending
    refine ⟨by simp, holds, fun b mem other above => ?_⟩
    rcases List.mem_append.mp mem with mem | mem
    · exact asymmetric _ _ above (before b mem a List.mem_cons_self)
    · rcases List.mem_cons.mp mem with rfl | mem
      · exact asymmetric _ _ above above
      · exact others b mem other
  · rintro ⟨mem, holds, greatest⟩
    obtain ⟨front, back, rfl⟩ := List.append_of_mem mem
    obtain ⟨-, behind, -⟩ := List.pairwise_append.mp ascending
    refine ⟨front, back, rfl, holds, fun b later other => ?_⟩
    exact greatest b (by simp [later]) other ((List.pairwise_cons.mp behind).1 b later)

end IsLast

/-! ### The value for a tag -/

/-- The pair that the tag means: its key is the tag up to letter case, and no such key is greater in
the order of texts. -/
structure Chosen (tag : String) (pairs : List (String × String)) (key value : String) : Prop where
  listed : (key, value) ∈ pairs
  same : sameTag key tag = true
  greatest : ∀ e ∈ pairs, sameTag e.1 tag = true → e.1 ≤ key

variable {tag : String} {pairs : List (String × String)}

/-- The value for a tag is that of the pair that the tag means. -/
theorem tagValue?_eq_some_iff (sorted : Overrides.Sorted pairs) {value : String} :
    tagValue? tag pairs = some value ↔ ∃ key, Chosen tag pairs key value := by
  have latest : ∀ (current : Option String) (e : String × String),
      (Directive.assignment e.1 e.2).carry tag current =
        (if sameTag e.1 tag = true then some e.2 else none).or current := by
    intro current e
    rw [Directive.carry]
    by_cases same : sameTag e.1 tag = true
    · rw [if_pos same, if_pos same, Option.some_or]
    · rw [if_neg same, if_neg same, Option.none_or]
  have listed : ∀ e : String × String,
      (if sameTag e.1 tag = true then some e.2 else none).isSome = true ↔
        sameTag e.1 tag = true := by
    intro e
    split <;> simp_all
  have asymmetric : ∀ e e' : String × String, e.1 < e'.1 → ¬ e'.1 < e.1 :=
    fun _ _ lt gt => String.lt_irrefl _ (String.lt_trans lt gt)
  rw [tagValue?, foldl_eq_some_iff _ latest]
  simp only [listed, isLast_iff_of_pairwise sorted asymmetric]
  constructor
  · rintro ⟨e, ⟨mem, same, greatest⟩, found⟩
    rw [if_pos same] at found
    cases found
    exact ⟨e.1, mem, same, fun other mem same => String.not_lt.mp (greatest other mem same)⟩
  · rintro ⟨key, mem, same, greatest⟩
    refine ⟨(key, value), ⟨mem, same, fun other mem same => ?_⟩, if_pos same⟩
    exact String.not_lt.mpr (greatest other mem same)

/-! ### Lists stand in order -/

/-- Whether the values that the variable lists by tag stand in the order of their keys. -/
def Variable.ListsSorted (v : Variable) : Prop :=
  ∀ pairs ∈ v.byTag, Overrides.Sorted pairs

theorem sorted_sortedPairs (pairs : List (String × String)) :
    Overrides.Sorted (sortedPairs pairs) :=
  (Overrides.ofList pairs).sorted

theorem sorted_of_byTagOfJson? {v : Json} (read : byTagOfJson? v = some pairs) :
    Overrides.Sorted pairs := by
  unfold byTagOfJson? at read
  split at read
  · obtain ⟨written, -, read⟩ := Option.bind_eq_some_iff.mp read
    cases read
    exact sorted_sortedPairs written
  · cases read

theorem Variable.listsSorted_of_ofJson? {v : Json} {x : Variable} (read : ofJson? v = some x) :
    x.ListsSorted := by
  obtain ⟨⟨named, fields⟩, -, read⟩ := Option.bind_eq_some_iff.mp read
  dsimp only at read
  split at read
  · next name fact inline byTag =>
    obtain ⟨_, -, read⟩ := Option.bind_eq_some_iff.mp read
    obtain ⟨_, -, read⟩ := Option.bind_eq_some_iff.mp read
    obtain ⟨_, -, read⟩ := Option.bind_eq_some_iff.mp read
    obtain ⟨_, -, read⟩ := Option.bind_eq_some_iff.mp read
    obtain ⟨listed, found, read⟩ := Option.bind_eq_some_iff.mp read
    cases read
    intro pairs mem
    obtain ⟨w, -, -, read⟩ := (Json.eq_some_iff_of_optionalField? found pairs).mp mem
    exact sorted_of_byTagOfJson? read
  · cases read

theorem Variable.listsSorted_of_variablesOfJson? {v : Json} {listed : List Variable}
    (read : variablesOfJson? v = some listed) : ∀ x ∈ listed, x.ListsSorted := by
  cases v with
  | array items => exact Json.forall_mem_of_mapM (fun _ _ => listsSorted_of_ofJson?) read
  | null | bool | number | string | object => cases read

theorem Setup.listsSorted_of_ofJson? {v : Json} {s : Setup} (read : ofJson? v = some s) :
    ∀ x ∈ s.systemVariables, x.ListsSorted := by
  obtain ⟨⟨named, fields⟩, -, read⟩ := Option.bind_eq_some_iff.mp read
  dsimp only at read
  split at read
  · next timeout poolSize system =>
    obtain ⟨_, -, read⟩ := Option.bind_eq_some_iff.mp read
    obtain ⟨_, -, read⟩ := Option.bind_eq_some_iff.mp read
    obtain ⟨listed, found, read⟩ := Option.bind_eq_some_iff.mp read
    cases read
    cases system with
    | none =>
      cases found
      exact fun _ mem => absurd mem List.not_mem_nil
    | some system => exact Variable.listsSorted_of_variablesOfJson? found
  · cases read

theorem Document.listsSorted_of_ofJson? {v : Json} {d : Document} (read : ofJson? v = some d) :
    ∀ x ∈ d.setup.systemVariables, x.ListsSorted := by
  obtain ⟨⟨named, fields⟩, -, read⟩ := Option.bind_eq_some_iff.mp read
  dsimp only at read
  split at read
  · next setup tests =>
    obtain ⟨s, found, read⟩ := Option.bind_eq_some_iff.mp read
    obtain ⟨_, -, read⟩ := Option.bind_eq_some_iff.mp read
    cases read
    cases setup with
    | none =>
      cases found
      exact fun _ mem => absurd mem List.not_mem_nil
    | some setup => exact Setup.listsSorted_of_ofJson? found
  · cases read

open Yaml

theorem sorted_byTagOfYaml (n : Node) : (byTagOfYaml n).Yields Overrides.Sorted :=
  .after fun _ => .after fun written => .pure (sorted_sortedPairs written)

theorem Variable.listsSorted_ofYaml (n : Node) : (ofYaml n).Yields Variable.ListsSorted := by
  refine .after fun fields => ?_
  split
  · next name fact inline byTag =>
    have sorted : (decodeOptionalField byTagOfYaml byTag).Yields
        fun listed => ∀ pairs ∈ listed, Overrides.Sorted pairs :=
      .decodeField (fun _ mem => by cases mem) (.decodeOptional sorted_byTagOfYaml) byTag
    exact .after fun _ => .after fun _ => .after fun _ =>
      sorted.bind fun listed sorted => .pure sorted
  · exact .failure

theorem Setup.listsSorted_ofYaml (n : Node) :
    (ofYaml n).Yields fun s => ∀ x ∈ s.systemVariables, x.ListsSorted := by
  refine .after fun fields => ?_
  split
  · next timeout poolSize system =>
    have sorted : (decodeField [] (fun n => do (← decodeItems n).mapM Variable.ofYaml) system).Yields
        fun listed => ∀ x ∈ listed, x.ListsSorted := by
      refine .decodeField (fun _ mem => absurd mem List.not_mem_nil) (fun n => ?_) system
      exact .after fun items => .mapM Variable.listsSorted_ofYaml items
    exact .after fun _ => .after fun _ => sorted.bind fun listed sorted => .pure sorted
  · exact .failure

theorem Document.listsSorted_ofYamlNode (n : Node) :
    (ofYamlNode n).Yields fun d => ∀ x ∈ d.setup.systemVariables, x.ListsSorted := by
  refine .after fun fields => ?_
  split
  · next setup tests =>
    have sorted : (decodeField {} Setup.ofYaml setup).Yields
        fun s => ∀ x ∈ s.systemVariables, x.ListsSorted :=
      .decodeField (fun _ mem => absurd mem List.not_mem_nil) Setup.listsSorted_ofYaml setup
    exact sorted.bind fun s sorted => .after fun _ => .pure sorted
  · exact .failure

/-- In a document that can be read, what a variable lists by tag stands in the order of the tags. -/
theorem Document.listsSorted_of_parse {format : Format} {text : String} {d : Document}
    (read : parse format text = .ok d) : ∀ x ∈ d.setup.systemVariables, x.ListsSorted :=
  of_parse (P := fun d => ∀ x ∈ d.setup.systemVariables, x.ListsSorted)
    (fun _ _ => listsSorted_of_ofJson?) listsSorted_ofYamlNode
    (fun _ mem => absurd mem List.not_mem_nil) read

end SmokeTest
