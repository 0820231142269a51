/-
What the readers of documents read.

* `Json.HasField` — a record has a value for a field, by the name of the field in an object and by
  its position in an array;
* `Json.getElem?_fields?` — the fields that are read are those that the record has;
* `Json.eq_some_iff_of_optionalField?` — an optional field is read if it has a value other than
  `null`;
* `Json.forall_mem_of_mapM` and `Yaml.Decoder.Yields` — what holds of all that a reader reads;
* `Document.of_parse` — what holds of all documents that can be read, in either format.

Design notes: `HasField` speaks of membership, so that it does not depend on the order in which an
object is written. A reader of trees counts the aliases that it follows; `Yields` leaves the count
out, and so do the laws about it.
-/
import SmokeTest.Document.Plan

namespace SmokeTest

namespace Json

/-! ### Records -/

/-- The record has the value for the field with the given name: in an object under this name, in an
array at the position that the field has among the names. -/
inductive HasField (names : List String) (name : String) (w : Json) : Json → Prop
  | member {members : List (Option String × Json)} (mem : (some name, w) ∈ members) :
      HasField names name w (.object members)
  | item {items : List Json} {k : Nat} (position : names[k]? = some name)
      (found : items[k]? = some w) : HasField names name w (.array items)

/-- Of the members under a name the first one is found, and there is no other if there is at most
one. -/
theorem map_find?_eq_some_iff {members : List (Option String × Json)} {name : String} {w : Json}
    (once : (members.filter fun m => m.1 == some name).length ≤ 1) :
    (members.find? fun m => m.1 == some name).map Prod.snd = some w ↔ (some name, w) ∈ members := by
  rw [← List.head?_filter]
  have mem_iff : (some name, w) ∈ members ↔
      (some name, w) ∈ members.filter fun m => m.1 == some name := by simp
  have named : ∀ m ∈ members.filter fun m => m.1 == some name, m.1 = some name := by
    intro m mem
    simpa using (List.mem_filter.mp mem).2
  rw [mem_iff]
  generalize members.filter (fun m => m.1 == some name) = chosen at once named
  match chosen, once, named with
  | [], _, _ => simp
  | [(n, v)], _, named =>
    have here : n = some name := named (n, v) (List.mem_singleton_self _)
    simp [here, eq_comm]

/-- The fields that are read are those that the record has. -/
theorem getElem?_fields? {names : List String} {v : Json} {named : Bool}
    {fields : List (Option Json)} (read : v.fields? names = some (named, fields))
    (distinct : names.Nodup) {k : Nat} {name : String} {field : Option Json}
    (position : names[k]? = some name) (here : fields[k]? = some field) (w : Json) :
    field = some w ↔ HasField names name w v := by
  cases v with
  | object members =>
    rw [fields?] at read
    split at read
    · next formed =>
      cases read
      rw [List.getElem?_map, position, Option.map_some, Option.some.injEq] at here
      have once := List.all_eq_true.mp (Bool.and_eq_true_iff.mp formed).2 name
        (List.mem_of_getElem? position)
      rw [← here, map_find?_eq_some_iff (of_decide_eq_true once)]
      exact ⟨.member, fun | .member mem => mem⟩
    · cases read
  | array items =>
    rw [fields?] at read
    split at read
    · cases read
      rw [List.getElem?_map, List.getElem?_zipIdx, position] at here
      simp only [Option.map_some, Nat.zero_add, Option.some.injEq] at here
      rw [← here]
      refine ⟨.item position, fun | .item (k := j) position' found => ?_⟩
      -- a name has one position
      have same : j = k := by
        obtain ⟨inside, -⟩ := List.getElem?_eq_some_iff.mp position
        exact ((List.getElem?_inj inside distinct).mp (position.trans position'.symm)).symm
      rwa [← same]
    · cases read
  | null | bool | number | string => cases read

/-- What an optional field that is read comes to: nothing if there is at most `null`, else what is
read of its value. -/
theorem optionalField?_cases {α : Type} {named : Bool} {read : Json → Option α}
    {field : Option Json} {value : Option α} (done : optionalField? named read field = some value) :
    (value = none ∧ ∀ w, field = some w → w = .null) ∨
      ∃ w a, field = some w ∧ w ≠ .null ∧ read w = some a ∧ value = some a := by
  cases field with
  | none =>
    rw [optionalField?] at done
    split at done
    · cases done
      exact .inl ⟨rfl, nofun⟩
    · cases done
  | some v =>
    by_cases null : v = .null
    · subst null
      cases done
      exact .inl ⟨rfl, fun w same => (Option.some.inj same).symm⟩
    · have plain : asOptional? read v = (read v).map some := by
        cases v <;> first | rfl | exact absurd rfl null
      rw [optionalField?, plain] at done
      obtain ⟨a, own, rfl⟩ := Option.map_eq_some_iff.mp done
      exact .inr ⟨v, a, rfl, null, own, rfl⟩

/-- An optional field that is read has a value if the record has one other than `null` for it. -/
theorem eq_some_iff_of_optionalField? {α : Type} {named : Bool} {read : Json → Option α}
    {field : Option Json} {value : Option α} (done : optionalField? named read field = some value)
    (a : α) : value = some a ↔ ∃ w, field = some w ∧ w ≠ .null ∧ read w = some a := by
  rcases optionalField?_cases done with ⟨rfl, null⟩ | ⟨w, b, rfl, given, own, rfl⟩
  · simp only [reduceCtorEq, false_iff]
    rintro ⟨w, here, given, -⟩
    exact given (null w here)
  · simp [given, own]

theorem eq_none_iff_of_optionalField? {α : Type} {named : Bool} {read : Json → Option α}
    {field : Option Json} {value : Option α} (done : optionalField? named read field = some value) :
    value = none ↔ ∀ w, field = some w → w = .null := by
  rcases optionalField?_cases done with ⟨rfl, null⟩ | ⟨w, a, rfl, given, -, rfl⟩
  · simpa using null
  · simp [given]

theorem asText?_eq_some_iff {v : Json} {s : String} : asText? v = some s ↔ v = text s := by
  cases v <;> simp [asText?, text]

theorem asTexts?_eq_some_iff {v : Json} {texts : List String} :
    asTexts? v = some texts ↔ v = .array (texts.map text) := by
  cases v with
  | array items =>
    rw [asTexts?, array.injEq]
    induction items generalizing texts with
    | nil => simp [eq_comm]
    | cons first rest ih =>
      rw [List.mapM_cons]
      cases texts <;> simp [Option.bind_eq_some_iff, asText?_eq_some_iff, ih]
  | null | bool | number | string | object => simp [asTexts?]

/-- What holds of all that is read item by item. -/
theorem forall_mem_of_mapM {α β : Type} {read : α → Option β} {P : β → Prop}
    (each : ∀ a b, read a = some b → P b) {items : List α} {values : List β}
    (done : items.mapM read = some values) : ∀ b ∈ values, P b := by
  induction items generalizing values with
  | nil =>
    cases done
    exact fun _ mem => absurd mem List.not_mem_nil
  | cons first rest ih =>
    rw [List.mapM_cons] at done
    obtain ⟨b, own, done⟩ := Option.bind_eq_some_iff.mp done
    obtain ⟨bs, others, done⟩ := Option.bind_eq_some_iff.mp done
    cases done
    exact List.forall_mem_cons.mpr ⟨each first b own, ih others⟩

end Json

/-! ### Trees -/

namespace Yaml.Decoder

variable {α β : Type} {P : α → Prop} {Q : β → Prop}

/-- Whether whatever the reader reads has the property. -/
def Yields (d : Decoder α) (P : α → Prop) : Prop :=
  ∀ anchors budget a left, d anchors budget = some (a, left) → P a

/-- A reader that goes on with what another one has read succeeds exactly if both do. -/
theorem bind_eq_some_iff {anchors : Anchors} {budget left : Nat} {d : Decoder α}
    {f : α → Decoder β} {b : β} :
    (d >>= f) anchors budget = some (b, left) ↔
      ∃ a between, d anchors budget = some (a, between) ∧
        f a anchors between = some (b, left) := by
  refine Option.bind_eq_some_iff.trans ?_
  simp only [Prod.exists]

theorem Yields.pure {a : α} (holds : P a) : Yields (Pure.pure a) P := by
  intro anchors budget b left read
  cases read
  exact holds

theorem Yields.failure : Yields failure P := by
  intro anchors budget a left read
  cases read

theorem Yields.trivial (d : Decoder α) : d.Yields fun _ => True :=
  fun _ _ _ _ _ => True.intro

theorem Yields.bind {d : Decoder α} {f : α → Decoder β} (first : d.Yields P)
    (next : ∀ a, P a → (f a).Yields Q) : (d >>= f).Yields Q := by
  intro anchors budget b left read
  obtain ⟨a, between, own, rest⟩ := bind_eq_some_iff.mp read
  exact next a (first anchors budget a between own) anchors between b left rest

/-- What the reader before has read does not matter. -/
theorem Yields.after {d : Decoder α} {f : α → Decoder β} (next : ∀ a, (f a).Yields Q) :
    (d >>= f).Yields Q :=
  (Yields.trivial d).bind fun a _ => next a

theorem Yields.mapM {read : α → Decoder β} (each : ∀ a, (read a).Yields Q) (items : List α) :
    (items.mapM read).Yields fun values => ∀ b ∈ values, Q b := by
  induction items with
  | nil => exact .pure fun _ mem => absurd mem List.not_mem_nil
  | cons first rest ih =>
    rw [List.mapM_cons]
    exact (each first).bind fun b own => ih.bind fun bs others =>
      .pure (List.forall_mem_cons.mpr ⟨own, others⟩)

theorem Yields.decodeField {default : α} {decode : Node → Decoder α} (empty : P default)
    (each : ∀ n, (decode n).Yields P) (field : Option Node) :
    (Yaml.decodeField default decode field).Yields P := by
  cases field with
  | none => exact .pure empty
  | some n => exact each n

theorem Yields.decodeOptional {decode : Node → Decoder α} (each : ∀ n, (decode n).Yields P)
    (n : Node) : (Yaml.decodeOptional decode n).Yields fun value => ∀ a ∈ value, P a := by
  refine .after fun n => .after fun absent => ?_
  cases absent with
  | true => exact .pure fun _ mem => by cases mem
  | false =>
    refine (each n).bind fun a own => .pure fun b mem => ?_
    cases mem
    exact own

theorem Yields.of_run? {d : Decoder α} (yields : d.Yields P) {root : Node} {a : α}
    (read : d.run? root = some a) : P a := by
  obtain ⟨⟨_, left⟩, found, rfl⟩ := Option.map_eq_some_iff.mp read
  exact yields _ _ _ left found

end Yaml.Decoder

/-! ### Documents -/

/-- What holds of all documents that are read as values or as trees, and of the empty one, holds of
the document that a text writes. -/
theorem Document.of_parse {P : Document → Prop} (json : ∀ v d, ofJson? v = some d → P d)
    (yaml : ∀ n, (ofYamlNode n).Yields P) (empty : P {}) {format : Format} {text : String}
    {d : Document} (read : parse format text = .ok d) : P d := by
  unfold parse at read
  split at read
  · split at read
    · next found =>
      cases read
      obtain ⟨root, -, found⟩ := Option.bind_eq_some_iff.mp found
      cases root with
      | none =>
        cases found
        exact empty
      | some root => exact (yaml root).of_run? found
    · cases read
  · split at read
    · next found =>
      cases read
      obtain ⟨v, -, found⟩ := Option.bind_eq_some_iff.mp found
      exact json v d found
    · cases read

end SmokeTest
