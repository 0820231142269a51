/-
Which ids and commands make a probe, and which texts are tags.

* `ofCommand_eq_ok_iff` — an id makes a probe exactly if something is left of it without the blanks
  around it, and the probe has what is left of the id and of the command, and no variables;
* `ofCommand_eq_error_iff` — an id that makes no probe is refused as empty;
* `Tag.ofText?_eq_some_iff`, `Tag.ofText?_eq_none_iff` — a text is a tag unless it is blank.
-/
import SmokeTest.Plan
import SmokeTest.Proofs.Text.Blank

namespace SmokeTest.Probe

theorem id_ne_empty (p : Probe) : p.id ≠ "" :=
  String.isEmpty_eq_false_iff.mp p.named

theorem ofCommand_eq_ok_iff {id command : String} {p : Probe} :
    ofCommand id command = .ok p ↔
      p.id = id.trimBlank ∧ p.command = command.trimBlank ∧ p.overrides = .empty := by
  rw [ofCommand]
  constructor
  · intro made
    split at made
    · cases made
    · cases made
      exact ⟨rfl, rfl, rfl⟩
  · rintro ⟨id_eq, command_eq, bare⟩
    rw [dif_neg (id_eq ▸ p.id_ne_empty)]
    exact congrArg _ (Probe.ext id_eq.symm command_eq.symm bare.symm)

theorem ofCommand_eq_error_iff {id command : String} {fault : Error} :
    ofCommand id command = .error fault ↔ id.trimBlank = "" ∧ fault = .emptyId := by
  rw [ofCommand]
  split
  · next empty => simp [empty, @eq_comm _ fault]
  · next some_left => simp [some_left]

end SmokeTest.Probe

namespace SmokeTest.Tag

theorem text_ne_empty (t : Tag) : t.text ≠ "" :=
  String.isEmpty_eq_false_iff.mp t.named

theorem ofText?_eq_some_iff {given : String} {t : Tag} :
    ofText? given = some t ↔ t.text = given.trimBlank := by
  rw [ofText?]
  constructor
  · intro read
    split at read
    · cases read
    · cases read
      rfl
  · intro same
    rw [dif_neg (same ▸ t.text_ne_empty)]
    exact congrArg some (Tag.ext same.symm)

theorem exists_text_eq {given : String} (some_left : given.trimBlank ≠ "") :
    ∃ t : Tag, t.text = given.trimBlank :=
  ⟨⟨_, String.isEmpty_trimBlank some_left, given.bare_trimBlank⟩, rfl⟩

theorem ofText?_eq_none_iff {given : String} : ofText? given = none ↔ given.trimBlank = "" := by
  rw [ofText?]
  split
  · next empty => simp [empty]
  · next some_left => simp [some_left]

/-! ### Tags of runs -/

/-- The tag under which most runs of the examples are made. -/
def dev : Tag where
  text := "dev"

/-- Another tag. -/
def prod : Tag where
  text := "prod"

end SmokeTest.Tag
