/-
Markers and run rules: when `#:dev:sit: command` means what a test for the tags `dev` and `sit`
means.

A rule brings every tag to small letters by itself, a marker is brought to small letters as a whole.
The two differ in the capital sigma alone, whose small form depends on the letters around it, and a
colon does not hide these letters: in `#:ΑΣ:b:` the first tag becomes `ασ`, by itself it becomes
`ας`.

* `smallForms` — the small forms that the tags of a marker take there;
* `agree_iff` — a marker that excludes its tags agrees with the rule; a marker that lists its tags
  agrees with the rule exactly if the tags have the same small forms there as by themselves;
* `agree_of_no_sigma`, `agree_single` — tags without a capital sigma, and a tag that is the only
  one, have.
-/
import SmokeTest.Proofs.Marker.Pieces
import SmokeTest.Proofs.Text.Case
import SmokeTest.Selection

namespace SmokeTest.Marker

open Text

/-! ### Tags -/

/-- A text that can stand for a tag in a marker: a word without a colon, and without a sign in
front. -/
structure IsTag (t : List Char) : Prop where
  colonless : ':' ∉ t
  solid : ∀ c ∈ t, isBlank c = false
  begins : ∃ c rest, t = c :: rest ∧ c ≠ '+' ∧ c ≠ '-'

theorem IsTag.of_all {c : Char} (rest : List Char) (plus : c ≠ '+') (minus : c ≠ '-')
    (all : (c :: rest).all (fun d => d != ':' && !isBlank d) = true) : IsTag (c :: rest) := by
  have each : ∀ d ∈ c :: rest, d ≠ ':' ∧ isBlank d = false := by
    intro d mem
    simpa using List.all_eq_true.mp all d mem
  exact ⟨fun mem => (each ':' mem).1 rfl, fun d mem => (each d mem).2, c, rest, rfl, plus, minus⟩

theorem IsTag.ne_nil {t : List Char} (h : IsTag t) : t ≠ [] := by
  obtain ⟨c, rest, rfl, _⟩ := h.begins
  exact List.cons_ne_nil c rest

theorem IsTag.ne_sign {t : List Char} (h : IsTag t) {sign : Char} (rest : List Char)
    (is_sign : sign = '+' ∨ sign = '-') : t ≠ sign :: rest := by
  obtain ⟨c, more, rfl, plus, minus⟩ := h.begins
  rintro eq
  cases eq
  rcases is_sign with rfl | rfl
  · exact plus rfl
  · exact minus rfl

/-- The small form of a tag is a tag. -/
theorem IsTag.lowerBetween {t : List Char} (h : IsTag t) (before after : List Char) :
    IsTag (lowerBetween before t after) := by
  have kept : ∀ d ∈ Text.lowerBetween before t after, d ∈ t ∨ IsSmall d.toNat := by
    intro d mem
    obtain ⟨before, c, after, mem', image⟩ := mem_lowerBetween mem
    rcases imageBetween_cases c with same | ⟨_, small⟩
    · rw [same, List.mem_singleton] at image
      exact .inl (image ▸ mem')
    · exact .inr ((small before after).2 d image)
  refine ⟨fun mem => ?_, fun d mem => ?_, ?_⟩
  · rcases kept ':' mem with mem | small
    · exact h.colonless mem
    · exact absurd small.beyond (by decide)
  · rcases kept d mem with mem | small
    · exact h.solid d mem
    · exact isBlank_eq_false small
  · obtain ⟨c, rest, rfl, plus, minus⟩ := h.begins
    obtain ⟨d, more, image, same | small⟩ := lowerBetween_cons before c rest after
    · exact ⟨d, more, image, same ▸ plus, same ▸ minus⟩
    · have beyond := small.beyond
      refine ⟨d, more, image, ?_, ?_⟩
      · rintro rfl; exact absurd beyond (by decide)
      · rintro rfl; exact absurd beyond (by decide)

theorem IsTag.lower {t : List Char} (h : IsTag t) : IsTag (lower t) := by
  rw [Text.lower, ← lowerBetween_nil]
  exact h.lowerBetween [] []

/-! ### Markers as they are written -/

/-- The tags, each behind a colon and the given sign, and a colon. -/
def written (sign : List Char) (tags : List (List Char)) : List Char :=
  tags.flatMap (fun t => ':' :: sign ++ t) ++ [':']

/-- The line whose marker has the given tags, each behind the given sign. -/
def markerLine (sign : List Char) (tags : List String) (command : String) : String :=
  String.ofList ('#' :: written sign (tags.map String.toList) ++ ' ' :: command.toList)

/-- The small forms that the tags of a marker take behind the text `before`, which is reversed. -/
def smallForms (sign before : List Char) : List (List Char) → List (List Char)
  | [] => []
  | t :: rest =>
    let upTo := (':' :: sign).reverse ++ before
    lowerBetween upTo t (written sign rest) :: smallForms sign (t.reverse ++ upTo) rest

theorem written_cons (sign t : List Char) (rest : List (List Char)) :
    written sign (t :: rest) = (':' :: sign) ++ (t ++ written sign rest) := by
  simp [written]

theorem exists_written_eq (sign : List Char) (tags : List (List Char)) :
    ∃ rest, written sign tags = ':' :: rest := by
  cases tags with
  | nil => exact ⟨[], rfl⟩
  | cons t rest => exact ⟨_, written_cons sign t rest⟩

/-- What follows the leader of a marker is written with the small forms of its tags. -/
theorem lowerFrom_written {sign : List Char} (signs : ∀ c ∈ sign, c.toNat ≤ 0x40)
    (before : List Char) (tags : List (List Char)) :
    lowerFrom before (written sign tags) = written sign (smallForms sign before tags) := by
  have colon : ∀ c ∈ ':' :: sign, ∀ before after, imageBetween before c after = [c] := by
    intro c mem
    rcases List.mem_cons.mp mem with rfl | mem
    · exact imageBetween_sign (by decide)
    · exact imageBetween_sign (signs c mem)
  induction tags generalizing before with
  | nil =>
    rw [← lowerBetween_nil]
    refine lowerBetween_eq_self fun c mem => colon c ?_
    exact List.mem_singleton.mp mem ▸ List.mem_cons_self ..
  | cons t rest ih =>
    rw [written_cons, lowerFrom_append, lowerFrom_append, lowerBetween_eq_self colon, ih,
      smallForms, written_cons]

/-- In small letters a marker is written with the small forms of its tags. -/
theorem lower_written {sign : List Char} (signs : ∀ c ∈ sign, c.toNat ≤ 0x40)
    (tags : List (List Char)) :
    lower ('#' :: written sign tags) = '#' :: written sign (smallForms sign ['#'] tags) := by
  rw [lower, lowerFrom, lowerFrom_written signs]
  rfl

theorem mem_smallForms {sign before : List Char} {tags : List (List Char)} {w : List Char}
    (mem : w ∈ smallForms sign before tags) :
    ∃ t ∈ tags, ∃ before after, w = lowerBetween before t after := by
  induction tags generalizing before with
  | nil => exact absurd mem List.not_mem_nil
  | cons t rest ih =>
    rcases List.mem_cons.mp mem with rfl | mem
    · exact ⟨t, List.mem_cons_self .., _, _, rfl⟩
    · obtain ⟨t', mem', place⟩ := ih mem
      exact ⟨t', List.mem_cons_of_mem _ mem', place⟩

theorem isTag_smallForms {sign before : List Char} {tags : List (List Char)}
    (valid : ∀ t ∈ tags, IsTag t) : ∀ w ∈ smallForms sign before tags, IsTag w := by
  intro w mem
  obtain ⟨t, mem', before, after, rfl⟩ := mem_smallForms mem
  exact (valid t mem').lowerBetween before after

theorem pieces_written (front : List Char) {sign : List Char} (colonless : ':' ∉ sign)
    (hfront : ':' ∉ front) {tags : List (List Char)} (valid : ∀ t ∈ tags, IsTag t) :
    pieces ':' (front ++ written sign tags) = front :: (tags.map (sign ++ ·) ++ [[]]) := by
  induction tags generalizing front with
  | nil =>
    rw [written, List.flatMap_nil, List.nil_append, pieces_append_cons, pieces_eq_singleton hfront]
    rfl
  | cons t rest ih =>
    have tag : ':' ∉ sign ++ t := fun mem => (List.mem_append.mp mem).elim colonless
      (valid t (List.mem_cons_self ..)).colonless
    rw [written_cons, List.cons_append, pieces_append_cons, pieces_eq_singleton hfront,
      ← List.append_assoc, ih _ tag fun t mem => valid t (List.mem_cons_of_mem _ mem)]
    rfl

/-! ### What a written marker selects -/

theorem contains_sign {forms : List (List Char)} (valid : ∀ w ∈ forms, IsTag w) {sign : Char}
    (rest : List Char) (is_sign : sign = '+' ∨ sign = '-') :
    forms.contains (sign :: rest) = false := by
  rw [← Bool.not_eq_true, List.contains_iff_mem]
  exact fun mem => (valid _ mem).ne_sign rest is_sign rfl

theorem startsWith_sign {t : List Char} (h : IsTag t) {sign : Char}
    (is_sign : sign = '+' ∨ sign = '-') : startsWith [sign] t = false := by
  rw [← Bool.not_eq_true, startsWith_iff]
  rintro ⟨rest, rfl⟩
  exact h.ne_sign rest is_sign rfl

/-- A marker that lists tags selects these. -/
theorem selectsByPieces_listed {forms : List (List Char)} (some_form : forms ≠ [])
    (valid : ∀ w ∈ forms, IsTag w) {tag : List Char} :
    selectsByPieces ('#' :: written [] forms) tag = forms.contains tag := by
  have split : pieces ':' ('#' :: written [] forms) = ['#'] :: (forms ++ [[]]) := by
    have split := pieces_written ['#'] List.not_mem_nil (by decide) valid
    rwa [List.map_congr_left fun w _ => List.nil_append w, List.map_id'] at split
  -- behind the last colon stands the empty piece, which is not counted
  have kept : (forms ++ [[]]).filter (fun p => !p.isEmpty && !startsWith ['-'] p) = forms := by
    rw [List.filter_append, List.filter_eq_self.mpr fun w mem => by
      rw [startsWith_sign (valid w mem) (.inr rfl)]
      simp [(valid w mem).ne_nil]]
    exact List.append_nil forms
  have bare : forms.map (fun p => (dropPrefix? ['+'] p).getD p) = forms := by
    refine (List.map_congr_left fun w mem => ?_).trans (List.map_id forms)
    rw [dropPrefix?_eq_none_iff.mpr (startsWith_sign (valid w mem) (.inl rfl))]
    rfl
  rw [selectsByPieces, enclosedPieces, split, List.drop_one, List.tail_cons, List.dropLast_concat,
    kept, bare, contains_sign valid [] (.inr rfl), contains_sign valid tag (.inr rfl),
    contains_sign valid [] (.inl rfl), contains_sign valid tag (.inl rfl)]
  simp [some_form]

/-- A marker that excludes tags selects all others. -/
theorem selectsByPieces_excluded {forms : List (List Char)} (valid : ∀ w ∈ forms, IsTag w)
    {tag : List Char} (htag : IsTag tag) :
    selectsByPieces ('#' :: written ['-'] forms) tag = !forms.contains tag := by
  have split : pieces ':' ('#' :: written ['-'] forms) =
      ['#'] :: (forms.map ('-' :: ·) ++ [[]]) :=
    pieces_written ['#'] (by decide) (by decide) valid
  have dropped : (forms.map ('-' :: ·) ++ [[]]).filter
      (fun p : List Char => !p.isEmpty && !startsWith ['-'] p) = [] := by
    simp [startsWith]
  have all : (forms.map ('-' :: ·)).contains ['-'] = false := by
    rw [← Bool.not_eq_true, List.contains_iff_mem, List.mem_map]
    rintro ⟨w, mem, eq⟩
    exact (valid w mem).ne_nil (List.cons.inj eq).2
  have this : (forms.map ('-' :: ·)).contains ('-' :: tag) = forms.contains tag := by
    rw [Bool.eq_iff_iff, List.contains_iff_mem, List.contains_iff_mem, List.mem_map]
    constructor
    · rintro ⟨w, mem, eq⟩
      exact (List.cons.inj eq).2 ▸ mem
    · exact fun mem => ⟨tag, mem, rfl⟩
  -- no other piece stands in the marker
  have other : ∀ w, (∀ rest, w ≠ '-' :: rest) → (forms.map ('-' :: ·)).contains w = false := by
    intro w ne
    rw [← Bool.not_eq_true, List.contains_iff_mem, List.mem_map]
    rintro ⟨v, _, eq⟩
    exact ne v eq.symm
  rw [selectsByPieces, enclosedPieces, split, List.drop_one, List.tail_cons, List.dropLast_concat,
    dropped, all, this, other ['+'] (by simp),
    other tag fun rest => htag.ne_sign rest (.inr rfl), other ('+' :: tag) (by simp)]
  cases forms.contains tag <;> rfl

/-! ### Reading the line -/

theorem written_solid {sign : List Char} (solid : ∀ c ∈ sign, isBlank c = false)
    {tags : List (List Char)} (valid : ∀ t ∈ tags, IsTag t) :
    ∀ c ∈ written sign tags, isBlank c = false := by
  induction tags with
  | nil => exact fun c mem => List.mem_singleton.mp mem ▸ by decide
  | cons t rest ih =>
    intro c mem
    rw [written_cons, List.mem_append, List.mem_append, List.mem_cons] at mem
    rcases mem with (rfl | mem) | mem | mem
    · decide
    · exact solid c mem
    · exact (valid t (List.mem_cons_self ..)).solid c mem
    · exact ih (fun t mem => valid t (List.mem_cons_of_mem _ mem)) c mem

/-- A line whose marker has the given tags is read as that marker. -/
theorem parse_markerLine {sign : List Char} (signs : ∀ c ∈ sign, c.toNat ≤ 0x40)
    (solid : ∀ c ∈ sign, isBlank c = false) {tags : List String}
    (valid : ∀ t ∈ tags, IsTag t.toList) (command : String) :
    Directive.parse (markerLine sign tags command) = some (.marker (String.ofList
      ('#' :: written sign (smallForms sign ['#'] (tags.map String.toList))))) := by
  rw [Directive.parse, markerLine, String.toList_ofList, Directive.parseChars]
  have valid : ∀ t ∈ tags.map String.toList, IsTag t := List.forall_mem_map.mpr valid
  generalize tags.map String.toList = tags at valid ⊢
  obtain ⟨rest, hrest⟩ := exists_written_eq sign tags
  -- the second character is a colon, so the line is neither a setting nor an assignment
  have key : ∀ sentinel : Char, sentinel ≠ ':' →
      Directive.keyValue? sentinel ('#' :: written sign tags ++ ' ' :: command.toList) = none := by
    intro sentinel ne
    rw [Directive.keyValue?, hrest]
    split
    · rfl
    · simp [dropPrefix?, ne]
  have word : firstWord ('#' :: written sign tags ++ ' ' :: command.toList) =
      '#' :: written sign tags := by
    refine firstWord_append (fun c mem => ?_) (List.cons_ne_nil _ _) (by decide) _
    rcases List.mem_cons.mp mem with rfl | mem
    · decide
    · exact written_solid solid valid c mem
  obtain ⟨rest', hrest'⟩ := exists_written_eq sign (smallForms sign ['#'] tags)
  rw [key '@' (by decide), key '=' (by decide), Directive.markerToken?, word,
    lower_written signs, hrest']
  rfl

/-! ### Markers and rules -/

/-- The line with the marker and the rule make the same of the run tag: the line is read as a
directive that selects it if and only if the rule does. -/
def Agree (sign : List Char) (rule : List String → Directive) (tags : List String)
    (command tag : String) : Prop :=
  ∃ d, Directive.parse (markerLine sign tags command) = some d ∧
    d.selects tag = (rule tags).selects tag

/-- The small forms that tags have by themselves. -/
def ownForms (tags : List String) : List (List Char) :=
  tags.map fun t => lower t.toList

/-- The small forms that tags have in the marker that lists them. -/
def markerForms (tags : List String) : List (List Char) :=
  smallForms [] ['#'] (tags.map String.toList)

theorem any_sameTag (tags : List String) (tag : String) :
    tags.any (sameTag · tag) = (ownForms tags).contains (lower tag.toList) := by
  rw [ownForms, List.contains_eq_any_beq, List.any_map]
  refine congrArg tags.any (funext fun t => ?_)
  exact Bool.beq_comm

/-- A line whose marker has the given tags is read as a directive that decides by the small forms
of these tags. -/
theorem exists_parse_markerLine {sign : List Char} (signs : ∀ c ∈ sign, c.toNat ≤ 0x40)
    (solid : ∀ c ∈ sign, isBlank c = false) {tags : List String}
    (valid : ∀ t ∈ tags, IsTag t.toList) (command : String) {tag : String}
    (htag : IsTag tag.toList) :
    ∃ d, Directive.parse (markerLine sign tags command) = some d ∧
      d.selects tag = selectsByPieces
        ('#' :: written sign (smallForms sign ['#'] (tags.map String.toList)))
        (lower tag.toList) := by
  refine ⟨_, parse_markerLine signs solid valid command, ?_⟩
  -- the word is brought to small letters once more when it is judged
  have settled := lower_lower ('#' :: written sign (tags.map String.toList))
  rw [lower_written signs] at settled
  rw [Directive.selects, selects, String.toList_ofList, settled]
  obtain ⟨rest, hrest⟩ := exists_written_eq sign (smallForms sign ['#'] (tags.map String.toList))
  rw [hrest]
  exact selectsLower_eq_selectsByPieces htag.lower.colonless

/-- A minus hides the letters behind it. -/
theorem casedNext_minus (s : List Char) : casedNext ('-' :: s) = false := by
  rw [casedNext_cons, if_neg (by decide +kernel)]
  decide +kernel

/-- A colon does not. -/
theorem casedNext_colon (s : List Char) : casedNext (':' :: s) = casedNext s := by
  rw [casedNext_cons, if_pos (by decide +kernel)]

/-- Behind a minus tags have the small forms that they have by themselves. -/
theorem smallForms_minus (before : List Char) (tags : List (List Char)) :
    smallForms ['-'] before tags = tags.map lower := by
  induction tags generalizing before with
  | nil => rfl
  | cons t rest ih =>
    have left : casedNext ([':', '-'].reverse ++ before) = false := casedNext_minus (':' :: before)
    have right : casedNext (written ['-'] rest) = false := by
      cases rest with
      | nil => exact casedNext_colon []
      | cons t' rest' =>
        rw [written_cons]
        exact (casedNext_colon _).trans (casedNext_minus _)
    rw [smallForms, List.map_cons, ih]
    exact congrArg (· :: _) (lowerBetween_eq_lower left right t)

/-- A marker that excludes its tags agrees with the rule that excludes them. -/
theorem agree_unless {tags : List String} (valid : ∀ t ∈ tags, IsTag t.toList)
    (command : String) {tag : String} (htag : IsTag tag.toList) :
    Agree ['-'] .unlessTagIn tags command tag := by
  have signs : ∀ c ∈ ['-'], c.toNat ≤ 0x40 := List.forall_mem_singleton.mpr (by decide)
  have solid : ∀ c ∈ ['-'], isBlank c = false := List.forall_mem_singleton.mpr (by decide)
  obtain ⟨d, parsed, selects⟩ := exists_parse_markerLine signs solid valid command htag
  refine ⟨d, parsed, ?_⟩
  have valid : ∀ t ∈ tags.map String.toList, IsTag t := List.forall_mem_map.mpr valid
  rw [selects, selectsByPieces_excluded (isTag_smallForms valid) htag.lower, smallForms_minus,
    List.map_map, Directive.selects, any_sameTag]
  rfl

/-- A marker that lists its tags agrees with the rule that lists them, exactly if the run tag is
among the one forms when it is among the other. -/
theorem agree_if_iff {tags : List String} (some_tag : tags ≠ [])
    (valid : ∀ t ∈ tags, IsTag t.toList) (command : String) {tag : String}
    (htag : IsTag tag.toList) :
    Agree [] .ifTagIn tags command tag ↔
      (lower tag.toList ∈ markerForms tags ↔ lower tag.toList ∈ ownForms tags) := by
  have signs : ∀ c ∈ ([] : List Char), c.toNat ≤ 0x40 := List.forall_mem_nil _
  have solid : ∀ c ∈ ([] : List Char), isBlank c = false := List.forall_mem_nil _
  obtain ⟨d, parsed, selects⟩ := exists_parse_markerLine signs solid valid command htag
  have valid : ∀ t ∈ tags.map String.toList, IsTag t := List.forall_mem_map.mpr valid
  have some_form : smallForms [] ['#'] (tags.map String.toList) ≠ [] := by
    cases tags with
    | nil => exact absurd rfl some_tag
    | cons t rest => exact List.cons_ne_nil _ _
  rw [selectsByPieces_listed some_form (isTag_smallForms valid)] at selects
  have rule : (Directive.ifTagIn tags).selects tag = (ownForms tags).contains (lower tag.toList) :=
    any_sameTag tags tag
  rw [Agree, parsed, ← List.contains_iff_mem, ← List.contains_iff_mem, ← Bool.eq_iff_iff]
  constructor
  · rintro ⟨d', same, agree⟩
    cases same
    rw [selects, rule] at agree
    exact agree
  · intro agree
    exact ⟨d, rfl, by rw [selects, rule]; exact agree⟩

/-- Tags without a capital sigma have the same small forms in a marker as by themselves. -/
theorem smallForms_of_no_sigma (before : List Char) {tags : List (List Char)}
    (h : ∀ t ∈ tags, 'Σ' ∉ t) : smallForms [] before tags = tags.map lower := by
  induction tags generalizing before with
  | nil => rfl
  | cons t rest ih =>
    rw [smallForms, List.map_cons, ih _ fun t mem => h t (List.mem_cons_of_mem _ mem)]
    exact congrArg (· :: _) (lowerBetween_of_no_sigma (h t (List.mem_cons_self ..)) _ _)

/-- Without a capital sigma in its tags a marker agrees with the rule. -/
theorem agree_of_no_sigma {tags : List String} (some_tag : tags ≠ [])
    (valid : ∀ t ∈ tags, IsTag t.toList) (h : ∀ t ∈ tags, 'Σ' ∉ t.toList) (command : String)
    {tag : String} (htag : IsTag tag.toList) : Agree [] .ifTagIn tags command tag := by
  have same : markerForms tags = ownForms tags := by
    rw [markerForms, smallForms_of_no_sigma _ (List.forall_mem_map.mpr h), List.map_map]
    rfl
  rw [agree_if_iff some_tag valid command htag, same]

/-- A marker with one tag agrees with the rule. -/
theorem agree_single {t : String} (ht : IsTag t.toList) (command : String) {tag : String}
    (htag : IsTag tag.toList) : Agree [] .ifTagIn [t] command tag := by
  have same : markerForms [t] = ownForms [t] := by
    have left : casedNext [':', '#'] = false := (casedNext_colon _).trans (by decide +kernel)
    have right : casedNext (written [] []) = false := casedNext_colon []
    exact congrArg (· :: []) (lowerBetween_eq_lower left right t.toList)
  have valid : ∀ t' ∈ [t], IsTag t'.toList := List.forall_mem_singleton.mpr ht
  rw [agree_if_iff (List.cons_ne_nil _ _) valid command htag, same]

/-- The small form of a tag of the marker is a tag, and stays what it is. -/
theorem isTag_markerForms {tags : List String} (valid : ∀ t ∈ tags, IsTag t.toList)
    {w : List Char} (mem : w ∈ markerForms tags) : IsTag w ∧ lower w = w := by
  have valid : ∀ t ∈ tags.map String.toList, IsTag t := List.forall_mem_map.mpr valid
  refine ⟨isTag_smallForms valid w mem, ?_⟩
  obtain ⟨t, _, before, after, rfl⟩ := mem_smallForms mem
  exact lower_lowerBetween before t after

theorem isTag_ownForms {tags : List String} (valid : ∀ t ∈ tags, IsTag t.toList)
    {w : List Char} (mem : w ∈ ownForms tags) : IsTag w ∧ lower w = w := by
  obtain ⟨t, among, rfl⟩ := List.mem_map.mp mem
  exact ⟨(valid t among).lower, lower_lower t.toList⟩

/-- **Markers and rules.** For tags that can stand in a marker: the marker that excludes them agrees
with the rule about every run tag; the marker that lists them agrees with the rule about a run tag
exactly if its small form is among the forms that the tags take in the marker when it is among their
own; and it agrees about every run tag exactly if these forms are the same. -/
theorem agree_iff {tags : List String} (some_tag : tags ≠ [])
    (valid : ∀ t ∈ tags, IsTag t.toList) (command : String) :
    (∀ tag : String, IsTag tag.toList → Agree ['-'] .unlessTagIn tags command tag) ∧
      (∀ tag : String, IsTag tag.toList →
        (Agree [] .ifTagIn tags command tag ↔
          (lower tag.toList ∈ markerForms tags ↔ lower tag.toList ∈ ownForms tags))) ∧
      ((∀ tag : String, IsTag tag.toList → Agree [] .ifTagIn tags command tag) ↔
        ∀ w, w ∈ markerForms tags ↔ w ∈ ownForms tags) := by
  refine ⟨fun tag => agree_unless valid command, fun tag => agree_if_iff some_tag valid command, ?_⟩
  constructor
  · intro agree w
    -- every form is the small form of a run tag, namely of itself
    have decides : IsTag w ∧ lower w = w → (w ∈ markerForms tags ↔ w ∈ ownForms tags) := by
      rintro ⟨hw, settled⟩
      have about := agree (String.ofList w) (by rwa [String.toList_ofList])
      rw [agree_if_iff some_tag valid command (by rwa [String.toList_ofList]),
        String.toList_ofList, settled] at about
      exact about
    constructor
    · intro mem
      exact (decides (isTag_markerForms valid mem)).mp mem
    · intro mem
      exact (decides (isTag_ownForms valid mem)).mpr mem
  · intro same tag htag
    rw [agree_if_iff some_tag valid command htag]
    exact same _

/-- Two tags of which the first ends in a capital sigma: a word that has ended by itself, but not
before a colon and the letter of the second. -/
def sigmaTags : List String := ["ΑΣ", "b"]

theorem isTag_sigmaTags : ∀ t ∈ sigmaTags, IsTag t.toList := by
  intro t mem
  rcases List.mem_cons.mp mem with rfl | mem
  · exact IsTag.of_all ['Σ'] (by decide) (by decide) (by decide)
  · rw [List.mem_singleton.mp mem]
    exact IsTag.of_all [] (by decide) (by decide) (by decide)

/-- The rule that lists these tags selects the first of them; the marker that lists them does
not. -/
theorem disagree_sigmaTags :
    (Directive.ifTagIn sigmaTags).selects "ΑΣ" = true ∧
      ¬ Agree [] .ifTagIn sigmaTags "cmd" "ΑΣ" ∧
      Agree ['-'] .unlessTagIn sigmaTags "cmd" "ΑΣ" := by
  have htag : IsTag "ΑΣ".toList := isTag_sigmaTags _ (List.mem_cons_self ..)
  have some_tag : sigmaTags ≠ [] := List.cons_ne_nil _ _
  have about := agree_iff some_tag isTag_sigmaTags "cmd"
  have own : lower "ΑΣ".toList ∈ ownForms sigmaTags := List.mem_cons_self ..
  have missing : lower "ΑΣ".toList ∉ markerForms sigmaTags := by decide +kernel
  refine ⟨by decide +kernel, ?_, about.1 "ΑΣ" htag⟩
  rw [about.2.1 "ΑΣ" htag]
  exact fun same => missing (same.mpr own)

end SmokeTest.Marker
