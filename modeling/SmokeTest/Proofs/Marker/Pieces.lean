/-
A marker is its pieces.

The rule for markers looks for texts between colons in the whole token. Here it is turned into the
rule that looks at the list of pieces.

* `encloses_iff` — a text without a colon is found between two colons if and only if it is an
  enclosed piece;
* `selectsLower_eq_selectsByPieces` — the two rules agree.
-/
import Mathlib.Data.List.Infix
import SmokeTest.Marker
import SmokeTest.Proofs.Text.Split

namespace SmokeTest.Marker

open Text

/-- A text without a colon is found between two colons if and only if it is an enclosed piece. -/
theorem encloses_iff {token piece : List Char} (h : ':' ∉ piece) :
    encloses token piece = true ↔ piece ∈ enclosedPieces token := by
  rw [encloses, occursIn_iff, infix_iff_pieces_infix, pieces_eq_singleton h,
    List.singleton_infix_iff]
  rfl

theorem encloses_eq {token piece : List Char} (h : ':' ∉ piece) :
    encloses token piece = (enclosedPieces token).contains piece := by
  rw [Bool.eq_iff_iff, encloses_iff h, List.contains_iff_mem]

/-- The pieces of a token that begins as markers do. -/
theorem pieces_leader (rest : List Char) :
    pieces ':' ('#' :: ':' :: rest) = ['#'] :: pieces ':' rest :=
  pieces_append_cons ':' ['#'] rest

/-- **The two rules agree.** For a token that begins as markers do and a tag without a colon, what
is found in the text and what stands among the pieces decide the same. -/
theorem selectsLower_eq_selectsByPieces {rest tag : List Char} (h : ':' ∉ tag) :
    selectsLower ('#' :: ':' :: rest) tag = selectsByPieces ('#' :: ':' :: rest) tag := by
  have sign : ∀ c : Char, c ≠ ':' → ':' ∉ c :: tag := fun c ne mem => by
    rcases List.mem_cons.mp mem with eq | mem
    · exact ne eq.symm
    · exact h mem
  have body : pieces ':' (body ('#' :: ':' :: rest)) = [] :: pieces ':' rest :=
    pieces_append_cons ':' [] rest
  have listed : listed ('#' :: ':' :: rest) =
      (((pieces ':' ('#' :: ':' :: rest)).drop 1).filter fun p =>
        !p.isEmpty && !startsWith ['-'] p).map fun p => (dropPrefix? ['+'] p).getD p := by
    rw [listed, body, pieces_leader]
    simp
  rw [selectsLower, selectsByPieces, listed, encloses_eq (by simp),
    encloses_eq (sign '-' (by simp)), encloses_eq (by simp), encloses_eq h,
    encloses_eq (sign '+' (by simp))]

end SmokeTest.Marker
