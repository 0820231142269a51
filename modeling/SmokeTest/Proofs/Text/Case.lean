/-
Small letters, and what they depend on.

* `lowerBetween before s after` — the small form that `s` takes between two texts;
* `lowerFrom_append` — the small form of a text is made of those of its parts, each between what
  stands around it;
* `lowerBetween_congr` — of what stands around it, only whether a letter with case is seen on either
  side matters;
* `lower_lower` — small letters stay what they are;
* `mem_lowerBetween` — no sign and no blank appears that was not there.

Design notes: what holds of all small letters of the table is decided run by run: a run of capital
letters is moved to a run of small ones, and `CaseRun.misses` compares it with what must not meet
it.
-/
import SmokeTest.Text.Blank
import SmokeTest.Text.Case

namespace SmokeTest.Text

/-! ### Runs of capital letters -/

namespace CaseRun

/-- Where the characters of the run are moved to. -/
def moved (r : CaseRun) : CaseRun where
  first := (r.first + r.shift).toNat
  last := (r.last + r.shift).toNat
  step := r.step
  shift := 0

/-- Whether the runs are seen to have no character in common: they lie apart, or the first begins
within the second and alternates with it. -/
def misses (r other : CaseRun) : Bool :=
  r.last.blt other.first || other.last.blt r.first ||
    ((r.first.beq r.last || (r.step % other.step).beq 0) &&
      !((r.first - other.first) % other.step).beq 0)

theorem covers_iff {r : CaseRun} {n : Nat} :
    r.covers n = true ↔ r.first ≤ n ∧ n ≤ r.last ∧ r.step ∣ n - r.first := by
  simp [covers, and_assoc, Nat.dvd_iff_mod_eq_zero]

theorem covers_moved {r : CaseRun} (positive : 0 < r.moved.first) {n : Nat}
    (covers : r.covers n = true) : r.moved.covers (n + r.shift).toNat = true := by
  obtain ⟨first, last, steps⟩ := covers_iff.mp covers
  have low : r.moved.first = (r.first + r.shift).toNat := rfl
  have high : r.moved.last = (r.last + r.shift).toNat := rfl
  have far : (n + r.shift).toNat - r.moved.first = n - r.first := by omega
  rw [covers_iff, far]
  exact ⟨by omega, by omega, steps⟩

theorem not_covers_of_misses {r other : CaseRun} (apart : r.misses other = true) {m : Nat}
    (covers : r.covers m = true) : other.covers m = false := by
  rw [← Bool.not_eq_true, covers_iff]
  rintro ⟨low, high, multiple⟩
  obtain ⟨first, last, steps⟩ := covers_iff.mp covers
  simp only [misses, Bool.or_eq_true, Bool.and_eq_true, Bool.not_eq_true', ← Bool.not_eq_true,
    Nat.blt_eq, Nat.beq_eq] at apart
  rcases apart with (before | behind) | ⟨even, odd⟩
  · omega
  · omega
  · -- the steps of the one are steps of the other, but the two do not meet
    apply odd
    have within : other.first ≤ r.first := by
      refine Nat.le_of_not_le fun outside => odd ?_
      rw [Nat.sub_eq_zero_of_le outside, Nat.zero_mod]
    have here : other.step ∣ m - r.first := by
      rcases even with single | even
      · have start : m - r.first = 0 := by omega
        exact start ▸ Nat.dvd_zero _
      · exact Nat.dvd_trans (Nat.dvd_of_mod_eq_zero even) steps
    have whole : m - other.first = (m - r.first) + (r.first - other.first) := by omega
    rw [whole] at multiple
    exact Nat.mod_eq_zero_of_dvd ((Nat.dvd_add_right here).mp multiple)

end CaseRun

/-- Where no small letter is: the blanks beyond the signs, the dotted capital `İ`, and the numbers
that belong to no character. -/
def reserved : List CaseRun := [
  ⟨0x85, 0x85, 1, 0⟩, ⟨0xA0, 0xA0, 1, 0⟩, ⟨0x130, 0x130, 1, 0⟩, ⟨0x1680, 0x1680, 1, 0⟩,
  ⟨0x2000, 0x200A, 1, 0⟩, ⟨0x2028, 0x2029, 1, 0⟩, ⟨0x202F, 0x202F, 1, 0⟩, ⟨0x205F, 0x205F, 1, 0⟩,
  ⟨0x3000, 0x3000, 1, 0⟩, ⟨0xD800, 0xDFFF, 1, 0⟩]

/-- Whether the run moves capital letters beyond the signs to small ones. -/
def CaseRun.isSound (r : CaseRun) : Bool :=
  Nat.blt 0x40 r.first && Nat.blt 0x40 r.moved.first && r.moved.last.blt 0x110000 &&
    (lowerRuns ++ reserved).all r.moved.misses

theorem isSound_lowerRuns : lowerRuns.all CaseRun.isSound = true := by
  decide +kernel

/-- A number beyond the signs that belongs to a character, and to no capital letter and no blank. -/
structure IsSmall (n : Nat) : Prop where
  beyond : 0x40 < n
  bounded : n < 0x110000
  fixed : ∀ r ∈ lowerRuns ++ reserved, r.covers n = false

theorem isSmall_moved {r : CaseRun} (mem : r ∈ lowerRuns) {n : Nat} (covers : r.covers n = true) :
    IsSmall (n + r.shift).toNat := by
  have sound := List.all_eq_true.mp isSound_lowerRuns r mem
  simp only [CaseRun.isSound, Bool.and_eq_true, Nat.blt_eq, List.all_eq_true] at sound
  obtain ⟨⟨⟨_, low⟩, high⟩, apart⟩ := sound
  have image := CaseRun.covers_moved (by omega) covers
  obtain ⟨first, last, _⟩ := CaseRun.covers_iff.mp image
  exact ⟨by omega, by omega, fun other mem => CaseRun.not_covers_of_misses (apart other mem) image⟩

theorem mapByRuns_eq_self {runs : List CaseRun} {n : Nat}
    (uncovered : ∀ r ∈ runs, r.covers n = false) : mapByRuns runs n = n := by
  have none : runs.find? (fun r => r.covers n) = none :=
    List.find?_eq_none.mpr fun r mem => Bool.eq_false_iff.mp (uncovered r mem)
  rw [mapByRuns, none]

/-- A number stays what it is or is moved to a small letter. -/
theorem mapByRuns_lowerRuns (n : Nat) :
    mapByRuns lowerRuns n = n ∨ 0x40 < n ∧ IsSmall (mapByRuns lowerRuns n) := by
  rw [mapByRuns]
  cases found : lowerRuns.find? fun r => r.covers n with
  | none => exact .inl rfl
  | some r =>
    have mem := List.mem_of_find?_eq_some found
    have covers : r.covers n = true :=
      List.find?_some (p := fun r : CaseRun => r.covers n) found
    have sound := List.all_eq_true.mp isSound_lowerRuns r mem
    simp only [CaseRun.isSound, Bool.and_eq_true, Nat.blt_eq] at sound
    have first := (CaseRun.covers_iff.mp covers).1
    exact .inr ⟨by omega, isSmall_moved mem covers⟩

/-! ### Single characters -/

/-- No blank lies beyond the signs, save for the reserved ones. -/
theorem isBlank_eq_false {c : Char} (small : IsSmall c.toNat) : isBlank c = false := by
  have apart : ∀ r ∈ reserved, r.covers c.toNat = false := fun r mem =>
    small.fixed r (List.mem_append_right _ mem)
  have beyond := small.beyond
  -- every blank is at most a sign or one of the reserved numbers
  simp only [reserved, List.forall_mem_cons, CaseRun.covers, Bool.and_eq_false_iff,
    decide_eq_false_iff_not, beq_eq_false_iff_ne] at apart
  simp only [isBlank, Bool.or_eq_false_iff, Bool.and_eq_false_iff, decide_eq_false_iff_not,
    beq_eq_false_iff_ne]
  omega

theorem toNat_ofNat {n : Nat} (small : IsSmall n) : (Char.ofNat n).toNat = n := by
  have apart := small.fixed ⟨0xD800, 0xDFFF, 1, 0⟩ (List.mem_append_right _ (by simp [reserved]))
  have valid : n.isValidChar := by
    have bounded := small.bounded
    simp only [CaseRun.covers, Nat.mod_one, beq_self_eq_true, Bool.and_true, Bool.and_eq_false_iff,
      decide_eq_false_iff_not] at apart
    rw [Nat.isValidChar]
    omega
  rw [Char.ofNat, dif_pos valid]
  rfl

/-- The small form that a character takes between two texts, the first of them reversed. -/
def imageBetween (before : List Char) (c : Char) (after : List Char) : List Char :=
  if c = 'Σ' then [if isFinalSigma before after then 'ς' else 'σ'] else lowerChar c

theorem lowerChar_of_small {c : Char} (small : IsSmall c.toNat) : lowerChar c = [c] := by
  have dotted : c ≠ 'İ' := by
    rintro rfl
    exact absurd (small.fixed ⟨0x130, 0x130, 1, 0⟩ (List.mem_append_right _ (by simp [reserved])))
      (by decide)
  have fixed : mapByRuns lowerRuns c.toNat = c.toNat :=
    mapByRuns_eq_self fun r mem => small.fixed r (List.mem_append_left _ mem)
  rw [lowerChar, if_neg dotted, fixed, Char.ofNat_toNat]

/-- A character stays what it is in every place, or it is beyond the signs and its small form
consists of small letters. -/
theorem imageBetween_cases (c : Char) :
    (∀ before after, imageBetween before c after = [c]) ∨
      0x40 < c.toNat ∧ ∀ before after, imageBetween before c after ≠ [] ∧
        ∀ d ∈ imageBetween before c after, IsSmall d.toNat := by
  -- two characters have small forms that are not in the table
  by_cases sigma : c = 'Σ'
  · subst sigma
    refine .inr ⟨by decide, fun before after => ?_⟩
    rw [imageBetween, if_pos rfl]
    refine ⟨List.cons_ne_nil _ _, fun d mem => ?_⟩
    rw [List.mem_singleton.mp mem]
    split <;> exact ⟨by decide, by decide, by decide +kernel⟩
  by_cases dotted : c = 'İ'
  · subst dotted
    refine .inr ⟨by decide, fun before after => ?_⟩
    rw [imageBetween, if_neg sigma, lowerChar, if_pos rfl]
    refine ⟨List.cons_ne_nil _ _, fun d mem => ?_⟩
    rcases List.mem_cons.mp mem with rfl | mem
    · exact ⟨by decide, by decide, by decide +kernel⟩
    · rw [List.mem_singleton.mp mem]
      exact ⟨by decide, by decide, by decide +kernel⟩
  have image : ∀ before after, imageBetween before c after =
      [Char.ofNat (mapByRuns lowerRuns c.toNat)] := fun before after => by
    rw [imageBetween, if_neg sigma, lowerChar, if_neg dotted]
  rcases mapByRuns_lowerRuns c.toNat with same | ⟨beyond, small⟩
  · refine .inl fun before after => ?_
    rw [image, same, Char.ofNat_toNat]
  · refine .inr ⟨beyond, fun before after => ?_⟩
    rw [image]
    refine ⟨List.cons_ne_nil _ _, fun d mem => ?_⟩
    rw [List.mem_singleton.mp mem, toNat_ofNat small]
    exact small

/-- A sign stays what it is. -/
theorem imageBetween_sign {c : Char} (sign : c.toNat ≤ 0x40) (before after : List Char) :
    imageBetween before c after = [c] := by
  rcases imageBetween_cases c with same | ⟨beyond, _⟩
  · exact same before after
  · omega

/-- A small letter stays what it is. -/
theorem imageBetween_of_small {c : Char} (small : IsSmall c.toNat) (before after : List Char) :
    imageBetween before c after = [c] := by
  have sigma : c ≠ 'Σ' := by
    rintro rfl
    exact absurd (small.fixed ⟨0x3A3, 0x3AB, 1, 32⟩ (List.mem_append_left _ (by decide +kernel)))
      (by decide)
  rw [imageBetween, if_neg sigma, lowerChar_of_small small]

/-- A small form changes no more. -/
theorem imageBetween_of_mem {before after : List Char} {c d : Char}
    (mem : d ∈ imageBetween before c after) (before' after' : List Char) :
    imageBetween before' d after' = [d] := by
  rcases imageBetween_cases c with same | ⟨_, small⟩
  · rw [same] at mem
    rw [List.mem_singleton.mp mem]
    exact same before' after'
  · exact imageBetween_of_small ((small before after).2 d mem) before' after'

/-! ### Texts -/

/-- The small form that a text takes between two texts, the first of them reversed. -/
def lowerBetween (before : List Char) : (s after : List Char) → List Char
  | [], _ => []
  | c :: rest, after =>
    imageBetween before c (rest ++ after) ++ lowerBetween (c :: before) rest after

/-- The small form of a text is made of those of its parts, each between what stands around it. -/
theorem lowerFrom_append (before s t : List Char) :
    lowerFrom before (s ++ t) = lowerBetween before s t ++ lowerFrom (s.reverse ++ before) t := by
  induction s generalizing before with
  | nil => rfl
  | cons c rest ih =>
    rw [List.cons_append, lowerFrom, ih, lowerBetween, List.reverse_cons, List.append_assoc,
      List.append_assoc]
    rfl

theorem lowerBetween_nil (before s : List Char) :
    lowerBetween before s [] = lowerFrom before s := by
  have whole := lowerFrom_append before s []
  rw [List.append_nil, lowerFrom, List.append_nil] at whole
  exact whole.symm

/-- What holds of every character that stays what it is holds of the text. -/
theorem lowerBetween_eq_self {before s after : List Char}
    (same : ∀ c ∈ s, ∀ before after, imageBetween before c after = [c]) :
    lowerBetween before s after = s := by
  induction s generalizing before with
  | nil => rfl
  | cons c rest ih =>
    rw [lowerBetween, same c (List.mem_cons_self ..), ih fun d mem =>
      same d (List.mem_cons_of_mem _ mem)]
    rfl

theorem mem_lowerBetween {before s after : List Char} {d : Char}
    (mem : d ∈ lowerBetween before s after) :
    ∃ before c after, c ∈ s ∧ d ∈ imageBetween before c after := by
  induction s generalizing before with
  | nil => exact absurd mem List.not_mem_nil
  | cons c rest ih =>
    rcases List.mem_append.mp mem with mem | mem
    · exact ⟨before, c, rest ++ after, List.mem_cons_self .., mem⟩
    · obtain ⟨before, c', after, mem', image⟩ := ih mem
      exact ⟨before, c', after, List.mem_cons_of_mem _ mem', image⟩

/-- A small form changes no more, wherever it was taken. -/
theorem lower_lowerBetween (before s after : List Char) :
    lower (lowerBetween before s after) = lowerBetween before s after := by
  show lowerFrom [] (lowerBetween before s after) = lowerBetween before s after
  rw [← lowerBetween_nil]
  refine lowerBetween_eq_self fun d mem => ?_
  obtain ⟨_, _, _, _, image⟩ := mem_lowerBetween mem
  exact imageBetween_of_mem image

/-- Small letters stay what they are. -/
theorem lower_lower (s : List Char) : lower (lower s) = lower s := by
  have alone : lower s = lowerBetween [] s [] := (lowerBetween_nil [] s).symm
  rw [alone, lower_lowerBetween]

/-- A character of a small form changes no more, wherever it stands. -/
theorem imageBetween_of_mem_lower {s : List Char} {d : Char} (mem : d ∈ lower s)
    (before after : List Char) : imageBetween before d after = [d] := by
  rw [lower, ← lowerBetween_nil] at mem
  obtain ⟨_, _, _, _, image⟩ := mem_lowerBetween mem
  exact imageBetween_of_mem image before after

/-- A text of characters that stay what they are stays what it is. -/
theorem lower_eq_self {s : List Char}
    (same : ∀ c ∈ s, ∀ before after, imageBetween before c after = [c]) : lower s = s := by
  rw [lower, ← lowerBetween_nil]
  exact lowerBetween_eq_self same

/-- What markers begin with is made of signs. -/
theorem leader_signs : ∀ c ∈ ['#', ':'], c.toNat ≤ 0x40 := by
  simp only [List.forall_mem_cons]
  exact ⟨by decide, by decide, nofun⟩

/-- Signs at the front of a text stay what they are. -/
theorem lower_signs_append {signs : List Char} (all : ∀ c ∈ signs, c.toNat ≤ 0x40)
    (s : List Char) : lower (signs ++ s) = signs ++ lowerFrom signs.reverse s := by
  rw [lower, lowerFrom_append, List.append_nil,
    lowerBetween_eq_self fun c mem => imageBetween_sign (all c mem)]

/-- The small form of a text begins with the first character of the text or with a small letter. -/
theorem lowerBetween_cons (before : List Char) (c : Char) (rest after : List Char) :
    ∃ d more, lowerBetween before (c :: rest) after = d :: more ∧ (d = c ∨ IsSmall d.toNat) := by
  rw [lowerBetween]
  rcases imageBetween_cases c with same | ⟨_, small⟩
  · exact ⟨c, _, by rw [same]; rfl, .inl rfl⟩
  · obtain ⟨some_image, letters⟩ := small before (rest ++ after)
    obtain ⟨d, more, image⟩ := List.exists_cons_of_ne_nil some_image
    rw [image] at letters ⊢
    exact ⟨d, _, rfl, .inr (letters d (List.mem_cons_self ..))⟩

/-- Signs at the front of a text are those at the front of its small form. -/
theorem prefix_lowerFrom_iff {signs : List Char} (all : ∀ c ∈ signs, c.toNat ≤ 0x40)
    {before s : List Char} : signs <+: lowerFrom before s ↔ signs <+: s := by
  induction signs generalizing before s with
  | nil => exact iff_of_true List.nil_prefix List.nil_prefix
  | cons sign signs ih =>
    have sign_small : sign.toNat ≤ 0x40 := all sign List.mem_cons_self
    cases s with
    | nil => rfl
    | cons c rest =>
      have front : lowerFrom before (c :: rest) =
          imageBetween before c rest ++ lowerFrom (c :: before) rest := rfl
      rcases imageBetween_cases c with same | ⟨beyond, small⟩
      · rw [front, same, List.singleton_append, List.cons_prefix_cons, List.cons_prefix_cons,
          ih fun c mem => all c (List.mem_cons_of_mem _ mem)]
      · -- neither the letter nor its small form is a sign
        obtain ⟨some_image, letters⟩ := small before rest
        obtain ⟨d, more, image⟩ := List.exists_cons_of_ne_nil some_image
        have beyond' : 0x40 < d.toNat := (letters d (image ▸ List.mem_cons_self)).beyond
        rw [front, image, List.cons_append, List.cons_prefix_cons, List.cons_prefix_cons]
        constructor
        · rintro ⟨rfl, -⟩
          omega
        · rintro ⟨rfl, -⟩
          omega

/-- Only the empty text has an empty small form. -/
theorem lower_eq_nil_iff {s : List Char} : lower s = [] ↔ s = [] := by
  constructor
  · intro empty
    cases s with
    | nil => rfl
    | cons c rest =>
      obtain ⟨d, more, image, -⟩ := lowerBetween_cons [] c rest []
      rw [lowerBetween_nil] at image
      cases image.symm.trans empty
  · rintro rfl
    rfl

/-! ### What stands around a text -/

theorem casedNext_cons (c : Char) (s : List Char) :
    casedNext (c :: s) =
      if inRanges caseIgnorableRanges c.toNat then casedNext s
      else inRanges casedRanges c.toNat := by
  rw [casedNext, List.dropWhile_cons]
  by_cases ignorable : inRanges caseIgnorableRanges c.toNat = true
  · rw [if_pos ignorable, if_pos ignorable]
    rfl
  · rw [if_neg ignorable, if_neg ignorable]

theorem casedNext_append_congr {t t' : List Char} (h : casedNext t = casedNext t')
    (s : List Char) : casedNext (s ++ t) = casedNext (s ++ t') := by
  induction s with
  | nil => exact h
  | cons c rest ih =>
    rw [List.cons_append, List.cons_append, casedNext_cons, casedNext_cons, ih]

/-- Of what stands around a text only matters whether a letter with case is seen there. -/
theorem lowerBetween_congr {before before' after after' : List Char}
    (left : casedNext before = casedNext before') (right : casedNext after = casedNext after')
    (s : List Char) : lowerBetween before s after = lowerBetween before' s after' := by
  induction s generalizing before before' with
  | nil => rfl
  | cons c rest ih =>
    have image :
        imageBetween before c (rest ++ after) = imageBetween before' c (rest ++ after') := by
      rw [imageBetween, imageBetween, isFinalSigma, isFinalSigma, left,
        casedNext_append_congr right rest]
    have left' : casedNext (c :: before) = casedNext (c :: before') :=
      casedNext_append_congr left [c]
    rw [lowerBetween, lowerBetween, image, ih left']

/-- A text has the small form that it has alone, if no letter with case is seen around it. -/
theorem lowerBetween_eq_lower {before after : List Char} (left : casedNext before = false)
    (right : casedNext after = false) (s : List Char) :
    lowerBetween before s after = lower s := by
  rw [lower, ← lowerBetween_nil]
  exact lowerBetween_congr left right s

/-- A text without a capital sigma has the small form that it has alone. -/
theorem lowerBetween_of_no_sigma {s : List Char} (h : 'Σ' ∉ s) (before after : List Char) :
    lowerBetween before s after = lower s := by
  rw [lower]
  generalize [] = alone
  induction s generalizing before alone with
  | nil => rfl
  | cons c rest ih =>
    have here : c ≠ 'Σ' := fun eq => h (eq ▸ List.mem_cons_self ..)
    have there : 'Σ' ∉ rest := fun mem => h (List.mem_cons_of_mem _ mem)
    rw [lowerBetween, lowerFrom, imageBetween, if_neg here, if_neg here,
      ih there (c :: before) (c :: alone)]

end SmokeTest.Text
