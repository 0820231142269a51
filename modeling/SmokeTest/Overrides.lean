/-
The environment variables that a probe adds to its command's environment.

Main definitions:

* `Overrides` — a finite map from names to values, kept in the order of the names;
* `Overrides.insert` — sets a name, replacing the value it had;
* `Overrides.get?` — the value of a name.

Design notes: names are ordered by code points. A map carries the proof that its names stand in
their order and none of them twice, so equal maps have equal lists.
-/

namespace SmokeTest

namespace Overrides

/-- Whether the entries stand in the order of their names, none of them twice. -/
def Sorted (entries : List (String × String)) : Prop :=
  entries.Pairwise fun a b => a.1 < b.1

/-- Puts a pair into a sorted list, in the place of the pair with the same name if there is one. -/
def insertSorted (name value : String) : List (String × String) → List (String × String)
  | [] => [(name, value)]
  | (n, v) :: rest =>
    if name = n then (name, value) :: rest
    else if name < n then (name, value) :: (n, v) :: rest
    else (n, v) :: insertSorted name value rest

theorem mem_insertSorted {name value : String} {entries : List (String × String)}
    {e : String × String} (h : e ∈ insertSorted name value entries) :
    e = (name, value) ∨ e ∈ entries := by
  induction entries with
  | nil => exact .inl (List.mem_singleton.mp h)
  | cons first rest ih =>
    obtain ⟨n, v⟩ := first
    rw [insertSorted] at h
    split at h
    · rcases List.mem_cons.mp h with rfl | mem
      · exact .inl rfl
      · exact .inr (List.mem_cons_of_mem _ mem)
    · split at h
      · exact List.mem_cons.mp h
      · rcases List.mem_cons.mp h with rfl | mem
        · exact .inr List.mem_cons_self
        · exact (ih mem).imp_right (List.mem_cons_of_mem _)

theorem sorted_insertSorted {name value : String} {entries : List (String × String)}
    (h : Sorted entries) : Sorted (insertSorted name value entries) := by
  induction entries with
  | nil => exact List.pairwise_singleton _ _
  | cons first rest ih =>
    obtain ⟨n, v⟩ := first
    obtain ⟨before, tail⟩ := List.pairwise_cons.mp h
    rw [insertSorted]
    split
    · next same => exact List.pairwise_cons.mpr ⟨same ▸ before, tail⟩
    · split
      · next lt =>
        refine List.pairwise_cons.mpr ⟨fun e mem => ?_, h⟩
        rcases List.mem_cons.mp mem with rfl | mem
        · exact lt
        · exact String.lt_trans lt (before e mem)
      · next differ ge =>
        refine List.pairwise_cons.mpr ⟨fun e mem => ?_, ih tail⟩
        rcases mem_insertSorted mem with rfl | mem
        · exact String.not_le.mp fun le => differ (String.le_antisymm le (String.not_lt.mp ge))
        · exact before e mem

end Overrides

/-- Names with their values, in the order of the names, none of them twice. -/
@[ext]
structure Overrides where
  entries : List (String × String)
  sorted : Overrides.Sorted entries
  deriving DecidableEq, Repr

namespace Overrides

/-- The map without entries. -/
def empty : Overrides where
  entries := []
  sorted := .nil

/-- Sets the value of a name. -/
def insert (o : Overrides) (name value : String) : Overrides where
  entries := insertSorted name value o.entries
  sorted := sorted_insertSorted o.sorted

/-- Sets the values of the names in the list, one after the other. -/
def insertAll (o : Overrides) (pairs : List (String × String)) : Overrides :=
  pairs.foldl (fun o (name, value) => o.insert name value) o

/-- The value of a name. -/
def get? (o : Overrides) (name : String) : Option String :=
  o.entries.lookup name

/-- The names in order. -/
def names (o : Overrides) : List String :=
  o.entries.map Prod.fst

/-- The map with the entries of the list; of two entries with one name the later one counts. -/
def ofList (pairs : List (String × String)) : Overrides :=
  empty.insertAll pairs

end Overrides

end SmokeTest
