/-
Two scans of the same lines.

* `selects_congr`, `carry_congr` — of a tag only its small form matters;
* `Scan.steps_onProbes` — two scans whose tags have one small form go through the same states but
  for the probes, and these are related at the end as they are after every single probe;
* `Plan.ofLines_onProbes` — the same of the plans, and of the errors.

Design notes: nothing that a scan does depends on the probes it has collected, so a change of the
probes can be moved over a step as soon as it can be moved over the line that adds one.
-/
import SmokeTest.Proofs.Scan.Acceptance

namespace SmokeTest

/-! ### Tags up to letter case -/

theorem sameTag_iff {a b : String} :
    sameTag a b = true ↔ Text.lower a.toList = Text.lower b.toList := by
  rw [sameTag, beq_iff_eq]

theorem sameTag_refl (tag : String) : sameTag tag tag = true := sameTag_iff.mpr rfl

theorem sameTag_congr {tag tag' : String} (same : sameTag tag tag' = true) (assigned : String) :
    sameTag assigned tag' = sameTag assigned tag := by
  rw [sameTag, sameTag, sameTag_iff.mp same]

namespace Directive

variable {tag tag' : String}

/-- A directive selects under one of two tags with one small form what it selects under the
other. -/
theorem selects_congr (same : sameTag tag tag' = true) (d : Directive) :
    d.selects tag' = d.selects tag := by
  cases d with
  | ifTagIn tags | unlessTagIn tags => simp only [selects, sameTag_congr same]
  | marker token => rw [selects, selects, Marker.selects, Marker.selects, sameTag_iff.mp same]
  | always | never | assignment | setting => rfl

theorem carry_congr (same : sameTag tag tag' = true) (d : Directive) (current : Option String) :
    d.carry tag' current = d.carry tag current := by
  cases d with
  | assignment assigned value => rw [carry, carry, sameTag_congr same]
  | _ => rfl

end Directive

/-! ### Scans -/

namespace Scan

/-- The scan with other probes in the place of those that it has collected. -/
def onProbes (change : List Probe → List Probe) (s : Scan) : Scan :=
  { s with probes := change s.probes }

variable {o o' : Options} {change : List Probe → List Probe}

theorem set_onProbes (s : Scan) (name value : String) (number : Nat) :
    (s.onProbes change).set name value number =
      (s.set name value number).map (onProbes change) := by
  rw [set, set]
  cases positive? value with
  | none => split <;> [rfl; split <;> rfl]
  | some n => split <;> [rfl; split <;> rfl]

/-- A change of the probes can be moved over a line, if it can be moved over the command that the
line adds. -/
theorem step_onProbes (same : sameTag o.tag o'.tag = true)
    (add : ∀ (s : Scan) (line : Line),
      (s.onProbes change).add o' line = (s.add o line).map (onProbes change))
    (s : Scan) (line : Line) :
    step o' (s.onProbes change) line = (step o s line).map (onProbes change) := by
  cases parsed : Directive.parse line.text with
  | none =>
    rw [step, step, parsed]
    rfl
  | some d =>
    rcases parse_cases parsed with ⟨name, value, rfl⟩ | ⟨assigned, value, rfl⟩ | ⟨token, rfl⟩ <;>
      rw [step, step, parsed]
    · exact set_onProbes s name value line.number
    · simp only [Directive.carry_congr same]
      rfl
    · simp only [Directive.selects_congr same]
      split
      · exact add s line
      · rfl

theorem steps_onProbes (same : sameTag o.tag o'.tag = true)
    (add : ∀ (s : Scan) (line : Line),
      (s.onProbes change).add o' line = (s.add o line).map (onProbes change))
    (s : Scan) (lines : List Line) :
    steps o' (s.onProbes change) lines = (steps o s lines).map (onProbes change) := by
  induction lines generalizing s with
  | nil => rfl
  | cons line rest ih =>
    rw [steps, steps, step_onProbes same add]
    cases step o s line with
    | ok next => exact ih next
    | error fault => rfl

end Scan

/-- The plans of two scans that only differ in their tags, which have one small form, and in what
they make of the probes. -/
theorem Plan.ofLines_onProbes (o o' : Options) (change : List Probe → List Probe)
    (same : sameTag o.tag o'.tag = true) (poolSize : o'.poolSize = o.poolSize)
    (timeoutSeconds : o'.timeoutSeconds = o.timeoutSeconds) (none : change [] = [])
    (add : ∀ (s : Scan) (line : Line),
      (s.onProbes change).add o' line = (s.add o line).map (Scan.onProbes change))
    (lines : List Line) :
    ofLines o' lines = (ofLines o lines).map fun plan =>
      { context := { plan.context with tag := o'.tag }, probes := change plan.probes } := by
  have start : Scan.start o' = (Scan.start o).onProbes change := by
    rw [Scan.start, Scan.start, Scan.onProbes, none, poolSize, timeoutSeconds]
  rw [ofLines, ofLines, start, Scan.steps_onProbes same add]
  cases Scan.steps o (Scan.start o) lines <;> rfl

end SmokeTest
