/-
Lists of ids as filters.

* `Filter.entries` — the ids that a list of ids names;
* `Filter.Straddles` — the ids that stretch over several places of a list, the `#` between them
  included;
* `Filter.accepts_iff_entry_or_straddles` — a list lets pass the ids that it names and the ids that
  straddle its places, and no others.

Design notes: the places of a list are what stands between two `#` once the list is closed. An id is
looked up in the text, so what counts is whether its pieces are places in a row. An id without a `#`
is its only piece, an id with one is never an entry.
-/
import Mathlib.Data.List.Infix
import SmokeTest.Filter
import SmokeTest.Proofs.Text.Split

namespace SmokeTest.Filter

open Text

/-- The ids that a list of ids names: what stands between its `#`, where anything does. -/
def entries (text : String) : List String :=
  ((pieces '#' text.toList).filter fun p => !p.isEmpty).map String.ofList

/-- The places of a list of ids in order, empty ones included: what stands between two `#` once the
list is closed. -/
def places (text : String) : List (List Char) :=
  innerPieces '#' (closeIds text.toList)

/-- Whether an id stretches over several places in a row, the `#` between them included. -/
def Straddles (text id : String) : Prop :=
  '#' ∈ id.toList ∧ pieces '#' id.toList <:+: places text

instance (text id : String) : Decidable (Straddles text id) :=
  inferInstanceAs (Decidable (_ ∧ _))

variable {text id : String}

/-! ### Entries and places -/

theorem mem_entries_iff : id ∈ entries text ↔ id ≠ "" ∧ id.toList ∈ pieces '#' text.toList := by
  have empty_iff : id.toList = [] ↔ id = "" := String.toList_eq_nil_iff
  rw [entries, List.mem_map]
  constructor
  · rintro ⟨p, mem, rfl⟩
    obtain ⟨piece, some_text⟩ := List.mem_filter.mp mem
    rw [← String.toList_ofList (l := p)] at piece some_text
    refine ⟨fun empty => ?_, piece⟩
    rw [empty_iff.mpr empty] at some_text
    cases some_text
  · rintro ⟨some_id, piece⟩
    refine ⟨id.toList, List.mem_filter.mpr ⟨piece, ?_⟩, String.ofList_toList⟩
    simpa using some_id

/-- No entry has a `#` in it. -/
theorem notMem_of_mem_entries (entry : id ∈ entries text) : '#' ∉ id.toList := by
  intro mem
  exact (mem_of_mem_pieces (mem_entries_iff.mp entry).2 mem).2 rfl

/-- Closing a list changes nothing or adds a `#`. -/
theorem closeIds_cases (s : List Char) :
    ∃ front, closeIds s = front ++ ['#'] ∧ (s = front ∨ s = front ++ ['#']) := by
  rw [closeIds]
  split
  · next closed =>
    obtain ⟨front, rfl⟩ := List.getLast?_eq_some_iff.mp closed
    exact ⟨front, rfl, .inr rfl⟩
  · exact ⟨s, rfl, .inl rfl⟩

/-- In a text that begins with a `#`, whatever stands between the `#` has a place. -/
theorem mem_places_iff (listing : text.toList.head? = some '#') {p : List Char}
    (some_text : p ≠ []) : p ∈ places text ↔ p ∈ pieces '#' text.toList := by
  obtain ⟨front, closed, written⟩ := closeIds_cases text.toList
  -- with or without the last `#`, there is nothing before the first one
  have first : ∃ rest, pieces '#' front = [] :: rest := by
    rcases front with _ | ⟨c, front⟩
    · exact ⟨[], rfl⟩
    · have here : c = '#' := by
        rcases written with written | written <;> simpa [written] using listing
      exact ⟨pieces '#' front, here ▸ pieces_append_cons '#' [] front⟩
  obtain ⟨rest, first⟩ := first
  have places_eq : places text = rest := by
    rw [places, closed, innerPieces_concat, first, List.drop_one, List.tail_cons]
  have pieces_iff : p ∈ pieces '#' text.toList ↔ p ∈ rest := by
    rcases written with written | written
    · rw [written, first, List.mem_cons, or_iff_right some_text]
    · rw [written, pieces_concat, first, List.cons_append, List.mem_cons, or_iff_right some_text,
        List.mem_append, List.mem_singleton, or_iff_left some_text]
  rw [places_eq, pieces_iff]

/-! ### What a list lets pass -/

/-- A text that begins with a `#` makes a filter if anything else stands in it: the closed list. -/
theorem parse_ids_eq_ok_iff (listing : text.toList.head? = some '#') {f : Filter} :
    parse text = .ok f ↔
      (∃ c ∈ text.toList, c ≠ '#') ∧ f = .ids (String.ofList (closeIds text.toList)) := by
  obtain ⟨rest, leads⟩ := List.head?_eq_some_iff.mp listing
  have sign : sign? text.toList = none := by rw [leads]; rfl
  have some_text : text.toList.isEmpty = false := by rw [leads]; rfl
  rw [parse]
  simp only [sign, some_text, listing, Bool.false_eq_true, if_false, if_true]
  by_cases bare : text.toList.all (· == '#') = true
  · rw [if_pos bare]
    have none : ¬ ∃ c ∈ text.toList, c ≠ '#' := by simpa using bare
    simp [none]
  · rw [if_neg bare]
    have some_id : ∃ c ∈ text.toList, c ≠ '#' := by simpa using bare
    simp [some_id, @eq_comm _ f]

/-- A list lets an id pass if the pieces of the id are places in a row. -/
theorem accepts_closeIds_iff (command : String) :
    (ids (String.ofList (closeIds text.toList))).accepts id command = true ↔
      pieces '#' id.toList <:+: places text := by
  rw [accepts, occursIn_iff, String.toList_ofList, infix_iff_pieces_infix, places]

/-- **What a list of ids lets pass.** A filter that is written as a list lets pass the ids that it
names and the ids that straddle its places, and the latter are not named. -/
theorem accepts_iff_entry_or_straddles {f : Filter} (listing : text.toList.head? = some '#')
    (parsed : parse text = .ok f) (some_id : id ≠ "") (command : String) :
    (f.accepts id command = true ↔ id ∈ entries text ∨ Straddles text id) ∧
      (Straddles text id → id ∉ entries text) := by
  obtain ⟨-, rfl⟩ := (parse_ids_eq_ok_iff listing).mp parsed
  have some_text : id.toList ≠ [] := fun empty => some_id (String.toList_eq_nil_iff.mp empty)
  refine ⟨?_, fun straddles entry => notMem_of_mem_entries entry straddles.1⟩
  rw [accepts_closeIds_iff]
  by_cases sharp : '#' ∈ id.toList
  · have unnamed : id ∉ entries text := fun entry => notMem_of_mem_entries entry sharp
    rw [Straddles, and_iff_right sharp, or_iff_right unnamed]
  · -- such an id is its only piece, and so an entry or nothing
    have within : ¬ Straddles text id := fun straddles => sharp straddles.1
    rw [or_iff_left within, pieces_eq_singleton sharp, List.singleton_infix_iff,
      mem_places_iff listing some_text, mem_entries_iff, and_iff_right some_id]

/-- The list `#a#b` names `b`; it lets `a#b` pass, which it does not name, and it does not let `a#`
pass. -/
theorem accepts_iff_entry_or_straddles_pair :
    "#a#b".toList.head? = some '#' ∧ parse "#a#b" = .ok (.ids "#a#b#") ∧
      (ids "#a#b#").accepts "b" "" = true ∧ "b" ∈ entries "#a#b" ∧
      (ids "#a#b#").accepts "a#b" "" = true ∧ "a#b" ∉ entries "#a#b" ∧
      (ids "#a#b#").accepts "a#" "" = false := by
  have listing : "#a#b".toList.head? = some '#' := rfl
  have parsed : parse "#a#b" = .ok (.ids "#a#b#") := rfl
  have some_b : "b" ≠ "" := by decide
  have some_ab : "a#b" ≠ "" := by decide
  have some_a : "a#" ≠ "" := by decide
  have named := accepts_iff_entry_or_straddles listing parsed some_b ""
  have straddling := accepts_iff_entry_or_straddles listing parsed some_ab ""
  have neither := accepts_iff_entry_or_straddles listing parsed some_a ""
  have entry : "b" ∈ entries "#a#b" := by decide
  have straddles : Straddles "#a#b" "a#b" := by decide
  refine ⟨listing, parsed, named.1.mpr (.inl entry), entry, straddling.1.mpr (.inr straddles),
    straddling.2 straddles, ?_⟩
  rw [Bool.eq_false_iff, Ne, neither.1]
  decide

end SmokeTest.Filter
