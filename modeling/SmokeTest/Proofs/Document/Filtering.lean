/-
What a filter takes from the plan of a document.

* `Plan.narrowed_ofDocument` — a filter keeps the context of a plan and the probes of the tests that
  it lets pass, and these are the probes that it would let pass exactly if it says the same of every
  test as it is written and of its probe.

Design notes: a filter is asked about a test before the blanks around its name and its command are
trimmed, so what it says of the probe is a second question. `map_filter_eq_filter_map_iff` says when
the two questions choose the same.
-/
import SmokeTest.Proofs.Document.Tests

namespace SmokeTest

/-- What is chosen from a list is within what is chosen more generously. -/
theorem filter_sublist_filter {α : Type} {strict generous : α → Bool} {items : List α}
    (passes : ∀ a ∈ items, strict a = true → generous a = true) :
    (items.filter strict).Sublist (items.filter generous) := by
  have again : items.filter strict = (items.filter generous).filter strict := by
    rw [List.filter_filter]
    refine List.filter_congr fun a mem => ?_
    cases kept : strict a with
    | false => rfl
    | true => simpa using passes a mem kept
  rw [again]
  exact List.filter_sublist

/-- Choosing before a change and choosing after it come to the same exactly if every item is judged
alike before and after. -/
theorem map_filter_eq_filter_map_iff {α β : Type} {change : α → β} {before : α → Bool}
    {after : β → Bool} {items : List α} :
    (items.filter before).map change = (items.map change).filter after ↔
      ∀ a ∈ items, before a = after (change a) := by
  rw [List.filter_map]
  constructor
  · intro same
    have passes : ∀ a ∈ items, before a = true → after (change a) = true := by
      intro a mem kept
      have changed : change a ∈ (items.filter before).map change :=
        List.mem_map_of_mem (List.mem_filter.mpr ⟨mem, kept⟩)
      rw [same] at changed
      obtain ⟨b, mem, equal⟩ := List.mem_map.mp changed
      exact equal ▸ (List.mem_filter.mp mem).2
    -- what is chosen before is among what is chosen after, and there is as much of it
    have within : (items.filter before).Sublist (items.filter (after ∘ change)) :=
      filter_sublist_filter passes
    have equal := within.eq_of_length (by simpa using congrArg List.length same)
    intro a mem
    have chosen : a ∈ items.filter before ↔ a ∈ items.filter (after ∘ change) := by rw [equal]
    rw [Bool.eq_iff_iff]
    simpa [mem] using chosen
  · exact fun alike => congrArg (List.map change) (List.filter_congr alike)

namespace Plan

/-- With a filter a document has a plan whenever it has one without, and the plan has the same
context and, in order and unchanged, the probes of the tests that the filter lets pass as they are
written. These are the probes that the filter lets pass exactly if it says the same of each test as
it is written and without the blanks around its name and its command. -/
theorem narrowed_ofDocument {o : Options} {i : Invocation} {format : Format} {text : String}
    {plan : Plan} (f : Filter)
    (loaded : ofDocument { o with filter := none } i format text = .ok plan) :
    ∃ d values, Document.parse format text = .ok d ∧
      let written := d.written o.tag
      let kept := written.filter fun w => f.accepts w.name w.command
      written.map (·.probe? values) = plan.probes.map some ∧
      ∃ probes, kept.map (·.probe? values) = probes.map some ∧
        ofDocument { o with filter := some f } i format text = .ok { plan with probes } ∧
        (probes = plan.probes.filter (fun p => f.accepts p.id p.command) ↔
          ∀ w ∈ written,
            f.accepts w.name w.command = f.accepts w.name.trimBlank w.command.trimBlank) := by
  obtain ⟨d, read, planned⟩ := ofDocument_eq_ok_iff.mp loaded
  obtain ⟨readable, context, made⟩ := Document.plan_eq_ok_iff.mp planned
  have all : d.accepted { o with filter := none } = d.written o.tag :=
    d.accepted_of_unfiltered rfl
  have same : d.setup.context { o with filter := none } = d.setup.context o := rfl
  rw [all, same] at made
  generalize values_eq : d.setup.resolve (d.setup.context o) i = values at made
  -- what is kept makes some of the probes
  have part : (((d.written o.tag).filter fun w => f.accepts w.name w.command).map
      (Written.probe? · values)).Sublist (plan.probes.map some) :=
    made ▸ List.filter_sublist.map _
  obtain ⟨probes, -, kept⟩ := List.sublist_map_iff.mp part
  refine ⟨d, values, read, made, probes, kept, ?_, ?_⟩
  · subst values_eq
    exact ofDocument_eq_ok_iff.mpr
      ⟨d, read, Document.plan_eq_ok_iff.mpr ⟨readable, context, kept⟩⟩
  · -- a filter that is asked about a probe, if there is one
    let asks : Option Probe → Bool := fun p => p.any fun p => f.accepts p.id p.command
    have asked : (plan.probes.filter fun p => f.accepts p.id p.command).map some =
        (plan.probes.map some).filter asks := by
      rw [List.filter_map]
      rfl
    rw [← (Option.some_injective Probe).list_map.eq_iff, asked, ← kept, ← made,
      map_filter_eq_filter_map_iff]
    refine forall₂_congr fun w mem => ?_
    obtain ⟨p, -, same⟩ := List.mem_map.mp (made ▸ List.mem_map_of_mem mem)
    obtain ⟨id, command, -⟩ := Written.probe?_eq_some_iff.mp same.symm
    rw [← same, ← id, ← command]
    rfl

/-- Under the tag `dev`, the filter `#admin#` misses the probe `admin` of `paddedText`, whose name
is written with a blank; the filter `curl` keeps the probe `ping`, which has a blank elsewhere. -/
theorem narrowed_ofDocument_paddedText :
    ofDocument { tag := .dev } {} .json paddedText = .ok paddedPlan ∧
      (Filter.parse "#admin#" = .ok (.ids "#admin#") ∧
        ofDocument { tag := .dev, filter := some (.ids "#admin#") } {} .json paddedText =
          .ok { paddedPlan with probes := [] } ∧
        (paddedPlan.probes.filter fun p => (Filter.ids "#admin#").accepts p.id p.command).map
          Probe.id = ["admin"]) ∧
      Filter.parse "curl" = .ok (.contains "curl") ∧
        ofDocument { tag := .dev, filter := some (.contains "curl") } {} .json paddedText =
          .ok { paddedPlan with
            probes := paddedPlan.probes.filter fun p =>
              (Filter.contains "curl").accepts p.id p.command } := by
  have written : paddedDocument.written "dev" = [⟨" admin", "./admin.sh"⟩, ⟨"ping", " curl x"⟩] :=
    rfl
  refine ⟨ofDocument_paddedText, ⟨rfl, ?_, rfl⟩, rfl, ?_⟩
  · obtain ⟨d, values, read, -, probes, kept, narrowed, -⟩ :=
      narrowed_ofDocument (o := { tag := .dev }) (.ids "#admin#") ofDocument_paddedText
    obtain rfl : paddedDocument = d := Except.ok.inj (parse_paddedText.symm.trans read)
    obtain rfl : probes = [] := List.map_eq_nil_iff.mp kept.symm
    exact narrowed
  · obtain ⟨d, values, read, -, probes, -, narrowed, alike⟩ :=
      narrowed_ofDocument (o := { tag := .dev }) (.contains "curl") ofDocument_paddedText
    obtain rfl : paddedDocument = d := Except.ok.inj (parse_paddedText.symm.trans read)
    rw [narrowed, alike.mpr]
    show ∀ w ∈ paddedDocument.written "dev", _
    rw [written]
    decide

end Plan

end SmokeTest
