/-
The first word of a text, and what stands around it.

* `Worded` — a text is cut into blanks, a word, and what follows the word;
* `exists_worded`, `Worded.unique` — every text with a word is cut so, in one way only;
* `Worded.firstWord_eq` — the word is the first word of the text.
-/
import SmokeTest.Proofs.Text.Blank

namespace SmokeTest.Text

/-- The text consists of blanks, its first word, and what follows the word, which is nothing or
begins with a blank. -/
structure Worded (s lead word rest : List Char) : Prop where
  whole : s = lead ++ (word ++ rest)
  blank : ∀ c ∈ lead, isBlank c = true
  solid : IsSolid word
  some_word : word ≠ []
  stops : ∀ c ∈ rest.head?, isBlank c = true

variable {s lead word rest lead' word' rest' : List Char}

instance : Decidable (Worded s lead word rest) :=
  haveI : Decidable (∀ c ∈ lead, isBlank c = true) := List.decidableBAll _ lead
  haveI : Decidable (∀ c ∈ rest.head?, isBlank c = true) := Option.decidableForallMem _
  decidable_of_iff
    (s = lead ++ (word ++ rest) ∧ (∀ c ∈ lead, isBlank c = true) ∧ IsSolid word ∧ word ≠ [] ∧
      ∀ c ∈ rest.head?, isBlank c = true)
    ⟨fun ⟨whole, blank, solid, some_word, stops⟩ => ⟨whole, blank, solid, some_word, stops⟩,
      fun h => ⟨h.whole, h.blank, h.solid, h.some_word, h.stops⟩⟩

theorem Worded.mem_iff (h : Worded s lead word rest) {c : Char} :
    c ∈ s ↔ c ∈ lead ∨ c ∈ word ∨ c ∈ rest := by
  rw [h.whole, List.mem_append, List.mem_append]

/-- Leading blanks are those before the word. -/
theorem Worded.trimStart_eq (h : Worded s lead word rest) : trimStart s = word ++ rest := by
  obtain ⟨c, more, rfl⟩ := List.exists_cons_of_ne_nil h.some_word
  have begins : isBlank c = false := h.solid c List.mem_cons_self
  rw [h.whole, trimStart, List.dropWhile_append_of_pos h.blank, List.cons_append,
    List.dropWhile_cons_of_neg (by rw [begins]; exact Bool.false_ne_true)]

theorem Worded.firstWord_eq (h : Worded s lead word rest) : firstWord s = word := by
  have solid : ∀ c ∈ word, (!isBlank c) = true := fun c mem => by rw [h.solid c mem]; rfl
  have ends : rest.takeWhile (fun c => !isBlank c) = [] := by
    cases hrest : rest with
    | nil => rfl
    | cons c more =>
      have stops : isBlank c = true := h.stops c (by rw [hrest]; rfl)
      exact List.takeWhile_cons_of_neg (by rw [stops]; exact Bool.false_ne_true)
  rw [firstWord, h.trimStart_eq, List.takeWhile_append_of_pos solid, ends, List.append_nil]

/-- A text is cut around its first word in one way only. -/
theorem Worded.unique (h : Worded s lead word rest) (h' : Worded s lead' word' rest') :
    lead = lead' ∧ word = word' ∧ rest = rest' := by
  have same_word : word = word' := h.firstWord_eq.symm.trans h'.firstWord_eq
  subst same_word
  have same_rest : rest = rest' := by
    have both := h.trimStart_eq.symm.trans h'.trimStart_eq
    exact List.append_cancel_left both
  subst same_rest
  have same_lead : lead = lead' := List.append_cancel_right (h.whole.symm.trans h'.whole)
  exact ⟨same_lead, rfl, rfl⟩

/-- Every text with a word can be cut around its first word. -/
theorem exists_worded (some_word : firstWord s ≠ []) :
    ∃ lead rest, Worded s lead (firstWord s) rest := by
  refine ⟨s.takeWhile isBlank, (trimStart s).dropWhile fun c => !isBlank c, ?_, ?_, ?_,
    some_word, ?_⟩
  · rw [firstWord, List.takeWhile_append_dropWhile]
    exact (List.takeWhile_append_dropWhile (p := isBlank)).symm
  · exact fun c mem => List.mem_takeWhile_imp mem
  · intro c mem
    have taken := List.mem_takeWhile_imp mem
    simpa using taken
  · intro c mem
    have stops := List.head?_dropWhile_not (fun c => !isBlank c) (trimStart s)
    rw [Option.mem_def.mp mem] at stops
    simpa using stops

end SmokeTest.Text
