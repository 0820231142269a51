/-
Cutting and finding, in the words of the list library.

* `pieces_eq_splitOn` — the pieces of a text are those of the list library, with its laws:
  `pieces_append_cons`, `pieces_eq_singleton`, `intercalate_pieces` and `pieces_intercalate`;
* `cut_eq_some_iff` — what stands before and after the first separator;
* `infix_iff_pieces_infix` — what is found between two separators, in terms of the pieces;
* `occursIn_iff`, `startsWith_iff` and `dropPrefix?_eq_some_iff` — being an infix, being a prefix,
  and what is left behind a prefix;
* `intercalate_append` — joining two lists of texts one after the other;
* `firstWord_append` — the first word of a text.
-/
import SmokeTest.Text.Blank
import SmokeTest.Text.Split

namespace SmokeTest.Text

theorem pieces_eq_splitOn (c : Char) (s : List Char) : pieces c s = s.splitOn c := by
  induction s with
  | nil => rfl
  | cons x rest ih =>
    rw [pieces, ih, List.splitOn_cons_eq_if_modifyHead]
    simp only [beq_iff_eq]
    split
    · rfl
    · cases h : rest.splitOn c with
      | nil => exact absurd h (List.splitOn_ne_nil c rest)
      | cons p ps => rfl

theorem pieces_ne_nil (c : Char) (s : List Char) : pieces c s ≠ [] := by
  rw [pieces_eq_splitOn]
  exact List.splitOn_ne_nil c s

theorem pieces_append_cons (c : Char) (s t : List Char) :
    pieces c (s ++ c :: t) = pieces c s ++ pieces c t := by
  simp only [pieces_eq_splitOn]
  exact List.splitOn_append_cons_self s t

theorem pieces_eq_singleton {c : Char} {s : List Char} (h : c ∉ s) : pieces c s = [s] := by
  rw [pieces_eq_splitOn]
  exact List.splitOn_eq_singleton h

theorem intercalate_pieces (c : Char) (s : List Char) : [c].intercalate (pieces c s) = s := by
  rw [pieces_eq_splitOn]
  exact List.intercalate_splitOn c

/-- Texts without the separator are the pieces of the text that joins them. -/
theorem pieces_intercalate {c : Char} {parts : List (List Char)} (some_part : parts ≠ [])
    (free : ∀ p ∈ parts, c ∉ p) : pieces c ([c].intercalate parts) = parts := by
  rw [pieces_eq_splitOn]
  exact List.splitOn_intercalate c free some_part

/-- A piece is made of the characters of the text, without the separator. -/
theorem mem_of_mem_pieces {c : Char} {s p : List Char} (piece : p ∈ pieces c s) {d : Char}
    (mem : d ∈ p) : d ∈ s ∧ d ≠ c := by
  induction s generalizing p with
  | nil =>
    rw [List.mem_singleton.mp piece] at mem
    exact absurd mem List.not_mem_nil
  | cons x rest ih =>
    rw [pieces] at piece
    split at piece
    · rcases List.mem_cons.mp piece with rfl | piece
      · exact absurd mem List.not_mem_nil
      · obtain ⟨here, ne⟩ := ih piece mem
        exact ⟨List.mem_cons_of_mem _ here, ne⟩
    · next other =>
      split at piece
      · next none => exact absurd none (pieces_ne_nil c rest)
      · next first others whole =>
        rcases List.mem_cons.mp piece with rfl | piece
        · rcases List.mem_cons.mp mem with rfl | mem
          · exact ⟨List.mem_cons_self, other⟩
          · obtain ⟨here, ne⟩ := ih (whole ▸ List.mem_cons_self) mem
            exact ⟨List.mem_cons_of_mem _ here, ne⟩
        · obtain ⟨here, ne⟩ := ih (whole ▸ List.mem_cons_of_mem _ piece) mem
          exact ⟨List.mem_cons_of_mem _ here, ne⟩

theorem cut_eq_none_iff {c : Char} {s : List Char} : cut c s = none ↔ c ∉ s := by
  induction s with
  | nil => simp [cut]
  | cons x rest ih =>
    rw [cut]
    by_cases here : x = c
    · simp [here]
    · simp [here, ih, Ne.symm here]

/-- A text is cut where the separator stands for the first time. -/
theorem cut_eq_some_iff {c : Char} {s front back : List Char} :
    cut c s = some (front, back) ↔ s = front ++ c :: back ∧ c ∉ front := by
  induction s generalizing front with
  | nil => simp [cut]
  | cons x rest ih =>
    rw [cut]
    by_cases here : x = c
    · subst here
      cases front with
      | nil => simp [eq_comm]
      | cons y more =>
        simp only [if_true, Option.some.injEq, Prod.mk.injEq, List.nil_eq, reduceCtorEq,
          false_and, List.cons_append, List.cons.injEq, List.mem_cons, not_or, false_iff, not_and]
        rintro ⟨rfl, -⟩ other
        exact absurd rfl other
    · rw [if_neg here, Option.map_eq_some_iff]
      cases front with
      | nil => simp [here]
      | cons y more =>
        constructor
        · rintro ⟨⟨front, back⟩, later, eq⟩
          cases eq
          obtain ⟨rfl, free⟩ := ih.mp later
          exact ⟨rfl, List.not_mem_cons_of_ne_of_not_mem (Ne.symm here) free⟩
        · rintro ⟨eq, free⟩
          cases eq
          exact ⟨(more, back), ih.mpr ⟨rfl, fun mem => free (List.mem_cons_of_mem _ mem)⟩, rfl⟩

/-- Two lists of texts that are joined one after the other have the separator between them. -/
theorem intercalate_append {separator : List Char} {front back : List (List Char)}
    (hfront : front ≠ []) (hback : back ≠ []) :
    separator.intercalate (front ++ back) =
      separator.intercalate front ++ separator ++ separator.intercalate back := by
  induction front with
  | nil => exact absurd rfl hfront
  | cons p ps ih =>
    by_cases h : ps = []
    · subst h
      rw [List.singleton_append, List.intercalate_cons_of_ne_nil hback, List.intercalate_singleton]
    · have joined : ps ++ back ≠ [] := List.append_ne_nil_of_left_ne_nil h back
      rw [List.cons_append, List.intercalate_cons_of_ne_nil joined, ih h,
        List.intercalate_cons_of_ne_nil h]
      simp only [List.append_assoc]

/-- A joined text is made of the characters of its parts and of the separator. -/
theorem mem_intercalate {c d : Char} {parts : List (List Char)}
    (mem : d ∈ [c].intercalate parts) : d = c ∨ ∃ p ∈ parts, d ∈ p := by
  induction parts with
  | nil => exact absurd mem List.not_mem_nil
  | cons p ps ih =>
    by_cases h : ps = []
    · subst h
      rw [List.intercalate_singleton] at mem
      exact .inr ⟨p, List.mem_cons_self, mem⟩
    · rw [List.intercalate_cons_of_ne_nil h, List.mem_append, List.mem_append,
        List.mem_singleton] at mem
      rcases mem with (here | separator) | later
      · exact .inr ⟨p, List.mem_cons_self, here⟩
      · exact .inl separator
      · rcases ih later with separator | ⟨q, among, mem⟩
        · exact .inl separator
        · exact .inr ⟨q, List.mem_cons_of_mem _ among, mem⟩

/-- The pieces of a text with a separator at its end are those of the text, and an empty one. -/
theorem pieces_concat (c : Char) (s : List Char) : pieces c (s ++ [c]) = pieces c s ++ [[]] :=
  pieces_append_cons c s []

/-! ### Between two separators -/

section Inner

variable {c : Char} {s p : List Char}

/-- The pieces with a separator on both sides: all but the first and the last. -/
def innerPieces (c : Char) (s : List Char) : List (List Char) :=
  ((pieces c s).drop 1).dropLast

theorem innerPieces_concat : innerPieces c (s ++ [c]) = (pieces c s).drop 1 := by
  obtain ⟨first, rest, whole⟩ := List.exists_cons_of_ne_nil (pieces_ne_nil c s)
  rw [innerPieces, pieces_concat, whole, List.cons_append, List.drop_one, List.tail_cons,
    List.drop_one, List.tail_cons, List.dropLast_concat]

/-- What stands between two separators is, with its pieces, among the inner pieces of the text. -/
theorem innerPieces_around (a p b : List Char) :
    ∃ front back, innerPieces c (a ++ (c :: p ++ [c]) ++ b) = front ++ pieces c p ++ back := by
  have cut : a ++ (c :: p ++ [c]) ++ b = a ++ c :: (p ++ c :: b) := by simp
  obtain ⟨first, front, hfront⟩ := List.exists_cons_of_ne_nil (pieces_ne_nil c a)
  rcases List.eq_nil_or_concat (pieces c b) with none | ⟨back, last, hback⟩
  · exact absurd none (pieces_ne_nil c b)
  · refine ⟨front, back, ?_⟩
    rw [innerPieces, cut, pieces_append_cons, pieces_append_cons, hfront, hback,
      List.concat_eq_append, List.cons_append, List.drop_one, List.tail_cons, ← List.append_assoc,
      ← List.append_assoc, List.dropLast_concat]

/-- A text with inner pieces has one more piece before and one more after them. -/
theorem exists_pieces_eq (some_inner : innerPieces c s ≠ []) :
    ∃ first last, pieces c s = first :: (innerPieces c s ++ [last]) := by
  rw [innerPieces, List.drop_one] at some_inner ⊢
  obtain ⟨first, rest, whole⟩ := List.exists_cons_of_ne_nil (pieces_ne_nil c s)
  rw [whole, List.tail_cons] at some_inner ⊢
  rcases List.eq_nil_or_concat rest with rfl | ⟨inner, last, rfl⟩
  · exact absurd rfl some_inner
  · exact ⟨first, last, by rw [List.concat_eq_append, List.dropLast_concat]⟩

/-- A text is found between two separators exactly if its pieces stand in a row among the inner
pieces. -/
theorem infix_iff_pieces_infix : c :: p ++ [c] <:+: s ↔ pieces c p <:+: innerPieces c s := by
  constructor
  · rintro ⟨a, b, rfl⟩
    obtain ⟨front, back, inner⟩ := innerPieces_around (c := c) a p b
    exact ⟨front, back, inner.symm⟩
  · rintro ⟨front, back, inner⟩
    have some_inner : innerPieces c s ≠ [] := by
      intro none
      rw [none, List.append_eq_nil_iff, List.append_eq_nil_iff] at inner
      exact pieces_ne_nil c p inner.1.2
    obtain ⟨first, last, whole⟩ := exists_pieces_eq some_inner
    -- the text is what stands before the pieces, the pieces, and what stands after them
    have split : pieces c s = (first :: front) ++ (pieces c p ++ (back ++ [last])) := by
      rw [whole, ← inner]
      simp
    have joined := intercalate_pieces c s
    rw [split, intercalate_append (by simp) (by simp [pieces_ne_nil]),
      intercalate_append (pieces_ne_nil c p) (by simp), intercalate_pieces] at joined
    refine ⟨[c].intercalate (first :: front), [c].intercalate (back ++ [last]), ?_⟩
    rw [← joined]
    simp

end Inner

theorem startsWith_iff {t s : List Char} : startsWith t s = true ↔ t <+: s := by
  induction t generalizing s with
  | nil => simp [startsWith]
  | cons a t ih =>
    cases s with
    | nil => simp [startsWith]
    | cons b s => simp [startsWith, ih, List.cons_prefix_cons]

theorem occursIn_iff {t s : List Char} : occursIn t s = true ↔ t <:+: s := by
  induction s with
  | nil => simp [occursIn]
  | cons c s ih => rw [occursIn, Bool.or_eq_true, startsWith_iff, ih, List.infix_cons_iff]

theorem dropPrefix?_eq_some_iff {t s rest : List Char} :
    dropPrefix? t s = some rest ↔ s = t ++ rest := by
  induction t generalizing s with
  | nil => simp [dropPrefix?]
  | cons a t ih =>
    cases s with
    | nil => simp [dropPrefix?]
    | cons b s =>
      rw [dropPrefix?]
      by_cases h : a = b
      · simp [h, ih]
      · simp [h, Ne.symm h]

/-- A text that does not begin with the given one has nothing behind it. -/
theorem dropPrefix?_eq_none_iff {t s : List Char} :
    dropPrefix? t s = none ↔ startsWith t s = false := by
  rw [← Bool.not_eq_true, startsWith_iff, Option.eq_none_iff_forall_ne_some]
  constructor
  · rintro h ⟨rest, rfl⟩
    exact h rest (dropPrefix?_eq_some_iff.mpr rfl)
  · intro h rest cut
    exact h ⟨rest, (dropPrefix?_eq_some_iff.mp cut).symm⟩

/-- The first word of a text that begins with a word and a blank. -/
theorem firstWord_append {word : List Char} (solid : ∀ c ∈ word, isBlank c = false)
    (some_word : word ≠ []) {blank : Char} (h : isBlank blank = true) (rest : List Char) :
    firstWord (word ++ blank :: rest) = word := by
  obtain ⟨c, more, rfl⟩ := List.exists_cons_of_ne_nil some_word
  have start : trimStart (c :: more ++ blank :: rest) = c :: more ++ blank :: rest := by
    rw [trimStart, List.cons_append, List.dropWhile_cons_of_neg]
    rw [solid c (List.mem_cons_self ..)]
    exact Bool.false_ne_true
  rw [firstWord, start, List.takeWhile_append_of_pos fun c mem => by rw [solid c mem]; rfl,
    List.takeWhile_cons_of_neg (by rw [h]; exact Bool.false_ne_true), List.append_nil]

end SmokeTest.Text
