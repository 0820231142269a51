/-
What a marker selects depends on its pieces, and on their order and number in no way.

* `favoured` — the tags that some pieces are in favour of;
* `Ruling` — the verdict on a tag: a piece against it between two colons decides, failing that a
  piece in its favour between two colons, and failing that what the pieces list;
* `Ruling.unique`, `Ruling.congr` — there is one verdict, and of the pieces between colons it only
  matters which there are;
* `ruled_by_pieces` — a marker gives this verdict, and so does every marker with the same pieces.

Design notes: the pieces are those of the marker in small letters. A text that is joined from such
pieces is in small letters already, so that it has just these pieces again.
-/
import SmokeTest.Proofs.Marker.Pieces
import SmokeTest.Proofs.Text.Case

namespace SmokeTest.Marker

open Text

/-! ### The verdict on a tag -/

/-- The tags that the pieces are in favour of: those without a minus in front, a plus in front taken
off. -/
def favoured (parts : List (List Char)) : List (List Char) :=
  (parts.filter fun p => !p.isEmpty && !startsWith ['-'] p).map fun p =>
    (dropPrefix? ['+'] p).getD p

/-- What is decided about a tag by the pieces between two colons and the last piece, which has a
colon in front of it only. -/
structure Ruling (enclosed : List (List Char)) (last tag : List Char) (verdict : Bool) : Prop where
  excluded : ['-'] ∈ enclosed ∨ '-' :: tag ∈ enclosed → verdict = false
  included : ¬ (['-'] ∈ enclosed ∨ '-' :: tag ∈ enclosed) →
    ['+'] ∈ enclosed ∨ tag ∈ enclosed ∨ '+' :: tag ∈ enclosed → verdict = true
  listed : ¬ (['-'] ∈ enclosed ∨ '-' :: tag ∈ enclosed) →
    ¬ (['+'] ∈ enclosed ∨ tag ∈ enclosed ∨ '+' :: tag ∈ enclosed) →
    (verdict = true ↔
      favoured (enclosed ++ [last]) = [] ∨ tag ∈ favoured (enclosed ++ [last]))

variable {enclosed others : List (List Char)} {last tag : List Char} {verdict other : Bool}

/-- There is one verdict on a tag. -/
theorem Ruling.unique (h : Ruling enclosed last tag verdict)
    (h' : Ruling enclosed last tag other) : verdict = other := by
  by_cases against : ['-'] ∈ enclosed ∨ '-' :: tag ∈ enclosed
  · rw [h.excluded against, h'.excluded against]
  · by_cases inFavour : ['+'] ∈ enclosed ∨ tag ∈ enclosed ∨ '+' :: tag ∈ enclosed
    · rw [h.included against inFavour, h'.included against inFavour]
    · rw [Bool.eq_iff_iff, h.listed against inFavour, h'.listed against inFavour]

theorem mem_favoured {parts : List (List Char)} {t : List Char} :
    t ∈ favoured parts ↔ ∃ p ∈ parts, (!p.isEmpty && !startsWith ['-'] p) = true ∧
      (dropPrefix? ['+'] p).getD p = t := by
  simp only [favoured, List.mem_map, List.mem_filter, and_assoc]

theorem mem_favoured_congr {parts parts' : List (List Char)} (same : ∀ p, p ∈ parts ↔ p ∈ parts')
    (t : List Char) : t ∈ favoured parts ↔ t ∈ favoured parts' := by
  simp only [mem_favoured, same]

/-- Of the pieces between colons it only matters which there are. -/
theorem Ruling.congr (same : ∀ p, p ∈ others ↔ p ∈ enclosed)
    (h : Ruling enclosed last tag verdict) : Ruling others last tag verdict := by
  have listed : ∀ t, t ∈ favoured (others ++ [last]) ↔ t ∈ favoured (enclosed ++ [last]) :=
    mem_favoured_congr fun p => by rw [List.mem_append, List.mem_append, same]
  have empty : favoured (others ++ [last]) = [] ↔ favoured (enclosed ++ [last]) = [] := by
    rw [List.eq_nil_iff_forall_not_mem, List.eq_nil_iff_forall_not_mem]
    simp only [listed]
  constructor <;> simp only [same, listed, empty]
  · exact h.excluded
  · exact h.included
  · exact h.listed

/-! ### The verdict of a marker -/

/-- The text of a marker: the leader, some pieces between colons and a last piece. -/
theorem exists_eq_leader {s : List Char} (split : pieces ':' s = ['#'] :: (enclosed ++ [last])) :
    ∃ rest, s = '#' :: ':' :: rest := by
  have some_piece : enclosed ++ [last] ≠ [] := by simp
  have joined := intercalate_pieces ':' s
  rw [split, List.intercalate_cons_of_ne_nil some_piece] at joined
  exact ⟨_, joined.symm⟩

theorem exists_pieces_leader (rest : List Char) :
    ∃ enclosed last, pieces ':' ('#' :: ':' :: rest) = ['#'] :: (enclosed ++ [last]) := by
  rcases List.eq_nil_or_concat (pieces ':' rest) with none | ⟨enclosed, last, whole⟩
  · exact absurd none (pieces_ne_nil ':' rest)
  · rw [List.concat_eq_append] at whole
    exact ⟨enclosed, last, by rw [pieces_leader, whole]⟩

/-- The rule on pieces, with the three tiers in a row. -/
theorem selectsByPieces_eq {s : List Char}
    (split : pieces ':' s = ['#'] :: (enclosed ++ [last])) :
    selectsByPieces s tag =
      if ['-'] ∈ enclosed ∨ '-' :: tag ∈ enclosed then false
      else if ['+'] ∈ enclosed ∨ tag ∈ enclosed ∨ '+' :: tag ∈ enclosed then true
      else decide (favoured (enclosed ++ [last]) = [] ∨ tag ∈ favoured (enclosed ++ [last])) := by
  rw [selectsByPieces, enclosedPieces, split, List.drop_one, List.tail_cons,
    List.dropLast_concat, ← favoured]
  simp only [Bool.or_eq_true, List.contains_iff_mem, or_assoc]
  split
  · rfl
  · split
    · rfl
    · rw [Bool.eq_iff_iff, decide_eq_true_iff, Bool.or_eq_true, List.isEmpty_iff,
        List.contains_iff_mem]

/-- A marker gives the verdict of its pieces. -/
theorem ruling_selects {token tag : String}
    (split : pieces ':' (lower token.toList) = ['#'] :: (enclosed ++ [last]))
    (colonless : ':' ∉ lower tag.toList) :
    Ruling enclosed last (lower tag.toList) (selects token tag) := by
  have decided : selects token tag = selectsByPieces (lower token.toList) (lower tag.toList) := by
    obtain ⟨rest, leads⟩ := exists_eq_leader split
    rw [selects, leads, selectsLower_eq_selectsByPieces colonless]
  rw [decided, selectsByPieces_eq split]
  constructor
  · intro against
    rw [if_pos against]
  · intro against inFavour
    rw [if_neg against, if_pos inFavour]
  · intro against inFavour
    rw [if_neg against, if_neg inFavour, decide_eq_true_iff]

/-- The marker with the given pieces. -/
def ofPieces (enclosed : List (List Char)) (last : List Char) : String :=
  String.ofList ([':'].intercalate (['#'] :: (enclosed ++ [last])))

/-- A marker that is made of pieces of a text in small letters has just these pieces. -/
theorem pieces_ofPieces {s : List Char}
    (small : ∀ p ∈ enclosed ++ [last], p ∈ pieces ':' (lower s)) :
    pieces ':' (lower (ofPieces enclosed last).toList) = ['#'] :: (enclosed ++ [last]) := by
  have free : ∀ p ∈ ['#'] :: (enclosed ++ [last]), ':' ∉ p := by
    intro p mem
    rcases List.mem_cons.mp mem with rfl | mem
    · decide
    · exact fun colon => (mem_of_mem_pieces (small p mem) colon).2 rfl
  -- every character is a sign, or stands in small letters already
  have settled : lower (ofPieces enclosed last).toList = (ofPieces enclosed last).toList := by
    rw [ofPieces, String.toList_ofList]
    refine lower_eq_self fun c mem => ?_
    rcases mem_intercalate mem with rfl | ⟨p, among, mem⟩
    · exact imageBetween_sign (by decide)
    · rcases List.mem_cons.mp among with rfl | among
      · rw [List.mem_singleton.mp mem]
        exact imageBetween_sign (by decide)
      · exact imageBetween_of_mem_lower (mem_of_mem_pieces (small p among) mem).1
  rw [settled, ofPieces, String.toList_ofList]
  exact pieces_intercalate (List.cons_ne_nil _ _) free

/-- **A marker is judged by its pieces.** In small letters a marker has the leader, some pieces
between two colons, and a last piece. It gives the verdict of these pieces on every tag whose small
form has no colon. With the same pieces between colons, in whatever order and number, there is a
marker, and every such marker selects the same of these tags. -/
theorem ruled_by_pieces {token : String} (leads : ['#', ':'] <+: token.toList) :
    ∃ enclosed last, pieces ':' (lower token.toList) = ['#'] :: (enclosed ++ [last]) ∧
      (∀ tag : String, ':' ∉ lower tag.toList →
        Ruling enclosed last (lower tag.toList) (selects token tag)) ∧
      ∀ others, (∀ p, p ∈ others ↔ p ∈ enclosed) →
        pieces ':' (lower (ofPieces others last).toList) = ['#'] :: (others ++ [last]) ∧
        ∀ token' : String, pieces ':' (lower token'.toList) = ['#'] :: (others ++ [last]) →
          ∀ tag : String, ':' ∉ lower tag.toList → selects token' tag = selects token tag := by
  obtain ⟨rest, whole⟩ := leads
  have small : lower token.toList = '#' :: ':' :: lowerFrom [':', '#'] rest := by
    rw [← whole, lower_signs_append leader_signs]
    rfl
  obtain ⟨enclosed, last, split⟩ := exists_pieces_leader (lowerFrom [':', '#'] rest)
  rw [← small] at split
  refine ⟨enclosed, last, split, fun tag => ruling_selects split, fun others same => ⟨?_, ?_⟩⟩
  · -- the pieces of the other marker are pieces of this one
    refine pieces_ofPieces (s := token.toList) fun p mem => ?_
    rw [split]
    rcases List.mem_append.mp mem with mem | mem
    · exact List.mem_cons_of_mem _ (List.mem_append_left _ ((same p).mp mem))
    · exact List.mem_cons_of_mem _ (List.mem_append_right _ mem)
  · intro token' split' tag colonless
    have other := ruling_selects split' colonless
    exact other.unique ((ruling_selects split colonless).congr same)

/-- A marker that excludes the tag `prod`, and one with the same pieces in another order and one of
them twice. -/
theorem ruled_by_pieces_swapped :
    ['#', ':'] <+: "#:-Prod:+dev:qa".toList ∧ ':' ∉ lower "DEV".toList ∧
      ':' ∉ lower "prod".toList ∧
      selects "#:+Dev:-PROD:+dev:qa" "DEV" = true ∧
      selects "#:-Prod:+dev:qa" "DEV" = true ∧
      selects "#:+Dev:-PROD:+dev:qa" "prod" = false := by
  have leads : ['#', ':'] <+: "#:-Prod:+dev:qa".toList := ⟨_, rfl⟩
  have dev : ':' ∉ lower "DEV".toList := by decide +kernel
  have prod : ':' ∉ lower "prod".toList := by decide +kernel
  obtain ⟨enclosed, last, split, ruled, swapped⟩ := ruled_by_pieces leads
  have own : pieces ':' (lower "#:-Prod:+dev:qa".toList) =
      ['#'] :: (["-prod".toList, "+dev".toList] ++ ["qa".toList]) := by decide +kernel
  obtain ⟨rfl, same_last⟩ := List.append_inj' (List.cons.inj (split.symm.trans own)).2 rfl
  obtain rfl := List.singleton_inj.mp same_last
  have same : ∀ p, p ∈ ["+dev".toList, "-prod".toList, "+dev".toList] ↔
      p ∈ ["-prod".toList, "+dev".toList] := by
    intro p
    simp only [List.mem_cons, List.not_mem_nil, or_false]
    grind
  have split' : pieces ':' (lower "#:+Dev:-PROD:+dev:qa".toList) =
      ['#'] :: (["+dev".toList, "-prod".toList, "+dev".toList] ++ ["qa".toList]) := by
    decide +kernel
  have agree := (swapped _ same).2 _ split'
  have included : selects "#:-Prod:+dev:qa" "DEV" = true :=
    (ruled "DEV" dev).included (by decide +kernel) (by decide +kernel)
  have excluded : selects "#:-Prod:+dev:qa" "prod" = false :=
    (ruled "prod" prod).excluded (by decide +kernel)
  exact ⟨leads, dev, prod, (agree _ dev).trans included, included,
    (agree _ prod).trans excluded⟩

end SmokeTest.Marker
