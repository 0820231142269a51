/-
The entries of a map that is built from a list.

* `entries_ofList_perm` — a list that names nothing twice is, in some order, the map built from it;
* `get?_insertAll` — of two entries with one name the later one counts;
* `mem_names_iff` — the names are those that have a value;
* `eq_of_get?` — a map is known by the values of its names;
* `mapValues` — other values under the same names, and `insertAll_mapValues`, how to build this map.

Design notes: the entries of a map are sorted and have no name twice, and such a list is determined
by what it holds. So to know what is in the list is to know the map.
-/
import Mathlib.Data.List.Perm.Basic
import SmokeTest.Overrides

namespace SmokeTest.Overrides

theorem Sorted.nodup {entries : List (String × String)} (sorted : Sorted entries) :
    entries.Nodup := by
  refine List.Pairwise.imp (fun {a b} lt same => ?_) sorted
  rw [same] at lt
  exact String.lt_irrefl _ lt

/-- A name that is new adds an entry and changes no other. -/
theorem insertSorted_perm {name value : String} {entries : List (String × String)}
    (new : name ∉ entries.map Prod.fst) :
    (insertSorted name value entries).Perm ((name, value) :: entries) := by
  induction entries with
  | nil => exact .refl _
  | cons first rest ih =>
    obtain ⟨n, v⟩ := first
    rw [List.map_cons, List.mem_cons, not_or] at new
    rw [insertSorted, if_neg new.1]
    split
    · exact .refl _
    · exact ((ih new.2).cons _).trans (.swap _ _ _)

theorem insertAll_perm {o : Overrides} {pairs : List (String × String)}
    (new : ((o.entries ++ pairs).map Prod.fst).Nodup) :
    (o.insertAll pairs).entries.Perm (o.entries ++ pairs) := by
  induction pairs generalizing o with
  | nil => rw [List.append_nil]; exact .refl _
  | cons first rest ih =>
    obtain ⟨name, value⟩ := first
    have moved : (o.entries ++ (name, value) :: rest).Perm
        (((name, value) :: o.entries) ++ rest) := List.perm_middle
    have nodup := (moved.map Prod.fst).nodup_iff.mp new
    have fresh : name ∉ o.entries.map Prod.fst := by
      rw [List.cons_append, List.map_cons, List.nodup_cons, List.map_append, List.mem_append,
        not_or] at nodup
      exact nodup.1.1
    have inserted : (insertSorted name value o.entries ++ rest).Perm
        (((name, value) :: o.entries) ++ rest) := (insertSorted_perm fresh).append_right rest
    have rest := ih (o := o.insert name value) ((inserted.map Prod.fst).nodup_iff.mpr nodup)
    exact rest.trans (inserted.trans moved.symm)

theorem entries_ofList_perm {pairs : List (String × String)} (new : (pairs.map Prod.fst).Nodup) :
    (ofList pairs).entries.Perm pairs :=
  insertAll_perm (o := empty) new

/-! ### Values -/

theorem lookup_cons_eq {α : Type} (key : String) (first : String × α) (rest : List (String × α)) :
    (first :: rest).lookup key = if key = first.1 then some first.2 else rest.lookup key := by
  rw [List.lookup_cons]
  by_cases same : key = first.1
  · rw [if_pos same, beq_iff_eq.mpr same]
  · rw [if_neg same, beq_eq_false_iff_ne.mpr same]

theorem lookup_insertSorted (name value key : String) (entries : List (String × String)) :
    (insertSorted name value entries).lookup key =
      if key = name then some value else entries.lookup key := by
  induction entries with
  | nil => exact lookup_cons_eq key (name, value) []
  | cons first rest ih =>
    obtain ⟨n, v⟩ := first
    rw [insertSorted]
    split
    · next here =>
      rw [lookup_cons_eq, lookup_cons_eq]
      by_cases same : key = name
      · rw [if_pos same, if_pos same]
      · rw [if_neg same, if_neg same, if_neg (here ▸ same)]
    · next differ =>
      split
      · exact lookup_cons_eq key (name, value) ((n, v) :: rest)
      · rw [lookup_cons_eq, lookup_cons_eq, ih]
        by_cases same : key = name
        · rw [if_pos same, if_pos same, if_neg (same ▸ differ)]
        · rw [if_neg same, if_neg same]

theorem get?_insert (o : Overrides) (name value key : String) :
    (o.insert name value).get? key = if key = name then some value else o.get? key :=
  lookup_insertSorted name value key o.entries

/-- Of the pairs that are set the last one with a name counts. -/
theorem get?_insertAll (o : Overrides) (pairs : List (String × String)) (key : String) :
    (o.insertAll pairs).get? key = (pairs.reverse.lookup key).or (o.get? key) := by
  induction pairs generalizing o with
  | nil => rfl
  | cons first rest ih =>
    have next : o.insertAll (first :: rest) = (o.insert first.1 first.2).insertAll rest := rfl
    rw [next, ih, get?_insert, List.reverse_cons, List.lookup_append, Option.or_assoc,
      lookup_cons_eq]
    by_cases same : key = first.1
    · rw [if_pos same, if_pos same, Option.some_or]
    · rw [if_neg same, if_neg same, List.lookup_nil, Option.none_or]

theorem lookup_eq_some_iff {entries : List (String × String)} (sorted : Sorted entries)
    {key value : String} : entries.lookup key = some value ↔ (key, value) ∈ entries := by
  induction entries with
  | nil => simp
  | cons first rest ih =>
    obtain ⟨below, rest_sorted⟩ := List.pairwise_cons.mp sorted
    rw [lookup_cons_eq, List.mem_cons, Prod.ext_iff]
    by_cases same : key = first.1
    · -- the rest has larger names only
      have absent : (key, value) ∉ rest := fun mem =>
        absurd same (Std.ne_of_lt (below _ mem)).symm
      rw [if_pos same, Option.some.injEq, or_iff_left absent, and_iff_right same, eq_comm]
    · rw [if_neg same, ih rest_sorted, or_iff_right fun here => same here.1]

theorem get?_eq_some_iff {o : Overrides} {key value : String} :
    o.get? key = some value ↔ (key, value) ∈ o.entries :=
  lookup_eq_some_iff o.sorted

theorem mem_names_iff {o : Overrides} {key : String} :
    key ∈ o.names ↔ ∃ value, o.get? key = some value := by
  rw [← Option.isSome_iff_exists, get?, List.lookup_isSome_iff, names, List.mem_map]
  simp only [beq_iff_eq, @eq_comm _ key]

/-- A map is known by the values of its names. -/
theorem eq_of_get? {o o' : Overrides} (values : ∀ key, o.get? key = o'.get? key) : o = o' := by
  have perm : o.entries.Perm o'.entries := by
    refine (List.perm_ext_iff_of_nodup o.sorted.nodup o'.sorted.nodup).mpr fun (key, value) => ?_
    rw [← get?_eq_some_iff, ← get?_eq_some_iff, values]
  exact Overrides.ext (perm.eq_of_pairwise
    (fun _ _ _ _ lt gt => absurd (String.lt_trans lt gt) (String.lt_irrefl _)) o.sorted o'.sorted)

/-- The map with other values under the same names. -/
def mapValues (f : String → String → String) (o : Overrides) : Overrides where
  entries := o.entries.map fun e => (e.1, f e.1 e.2)
  sorted := by
    rw [Sorted, List.pairwise_map]
    exact o.sorted

variable (f : String → String → String)

theorem lookup_map (entries : List (String × String)) (key : String) :
    (entries.map fun e => (e.1, f e.1 e.2)).lookup key = (entries.lookup key).map (f key) := by
  induction entries with
  | nil => rfl
  | cons first rest ih =>
    rw [List.map_cons, lookup_cons_eq, lookup_cons_eq]
    by_cases same : key = first.1
    · rw [if_pos same, if_pos same, same]
      rfl
    · rw [if_neg same, if_neg same, ih]

theorem get?_mapValues (o : Overrides) (key : String) :
    (o.mapValues f).get? key = (o.get? key).map (f key) :=
  lookup_map f o.entries key

theorem insert_mapValues (o : Overrides) (name value : String) :
    (o.mapValues f).insert name (f name value) = (o.insert name value).mapValues f := by
  refine eq_of_get? fun key => ?_
  rw [get?_insert, get?_mapValues, get?_mapValues, get?_insert]
  by_cases same : key = name
  · rw [if_pos same, if_pos same, Option.map_some, same]
  · rw [if_neg same, if_neg same]

/-- A map has other values if it is built with them. -/
theorem insertAll_mapValues (o : Overrides) (pairs : List (String × String)) :
    (o.mapValues f).insertAll (pairs.map fun e => (e.1, f e.1 e.2)) =
      (o.insertAll pairs).mapValues f := by
  induction pairs generalizing o with
  | nil => rfl
  | cons first rest ih =>
    have next : (o.mapValues f).insertAll ((first :: rest).map fun e => (e.1, f e.1 e.2)) =
      ((o.mapValues f).insert first.1 (f first.1 first.2)).insertAll
        (rest.map fun e => (e.1, f e.1 e.2)) := rfl
    rw [next, insert_mapValues, ih]
    rfl

end SmokeTest.Overrides
