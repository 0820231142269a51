/-
Which batches are accepted.

* `idFault?_eq_none_iff` — ids can stand for tasks exactly if none is empty and no two are the same;
* `duplicate_of_idFault?` — the id that is refused as a repetition occurs twice;
* `fault?_eq_none_iff` — a batch is accepted exactly if it has a worker, time, and such ids;
* `exists_run_eq_ok_iff` — an accepted batch answers, and no other one does.
-/
import Mathlib.Data.List.Duplicate
import SmokeTest.Command
import SmokeTest.Plan

namespace SmokeTest

namespace Pool

/-- Ids can stand for tasks exactly if none of them is empty, no two of them are the same, and none
has been seen before. -/
theorem idFault?_eq_none_iff {seen ids : List String} :
    idFault? seen ids = none ↔ (∀ id ∈ ids, id ≠ "") ∧ ids.Nodup ∧ ∀ id ∈ ids, id ∉ seen := by
  induction ids generalizing seen with
  | nil => simp [idFault?]
  | cons id rest ih =>
    rw [idFault?]
    by_cases empty : id = ""
    · simp [empty]
    · by_cases before : id ∈ seen
      · simp [empty, before]
      · rw [if_neg (by simpa using empty), if_neg before, ih, List.forall_mem_cons,
          List.forall_mem_cons, List.nodup_cons]
        simp only [List.mem_cons, not_or]
        constructor
        · rintro ⟨named, nodup, fresh⟩
          exact ⟨⟨empty, named⟩, ⟨fun mem => (fresh id mem).1 rfl, nodup⟩, before,
            fun other mem => (fresh other mem).2⟩
        · rintro ⟨⟨-, named⟩, ⟨once, nodup⟩, -, fresh⟩
          exact ⟨named, nodup, fun other mem => ⟨fun same => once (same ▸ mem), fresh other mem⟩⟩

/-- Ids of which none is empty are only refused for one that has been seen before or occurs
twice. -/
theorem duplicate_of_idFault? {seen ids : List String} {fault : Error}
    (named : ∀ id ∈ ids, id ≠ "") (refused : idFault? seen ids = some fault) :
    ∃ id, fault = .duplicateId id ∧ (id ∈ ids ∧ id ∈ seen ∨ List.Duplicate id ids) := by
  induction ids generalizing seen with
  | nil => cases refused
  | cons id rest ih =>
    obtain ⟨some_id, named⟩ := List.forall_mem_cons.mp named
    rw [idFault?, if_neg (by simpa using some_id)] at refused
    split at refused
    · next before =>
      cases refused
      exact ⟨id, rfl, .inl ⟨List.mem_cons_self, before⟩⟩
    · obtain ⟨other, rfl, ⟨mem, before⟩ | twice⟩ := ih named refused
      · -- what is refused later has been seen before this id, or it is this id
        rcases List.mem_cons.mp before with rfl | before
        · exact ⟨other, rfl, .inr (.cons_mem mem)⟩
        · exact ⟨other, rfl, .inl ⟨List.mem_cons_of_mem _ mem, before⟩⟩
      · exact ⟨other, rfl, .inr (twice.duplicate_cons id)⟩

namespace Batch

variable {σ ω : Type} {b : Batch σ ω} {world : ω}

/-- A batch is accepted exactly if it has a worker and time, none of its ids is empty and no two of
them are the same. -/
theorem fault?_eq_none_iff : b.fault? = none ↔
    b.poolSize ≠ 0 ∧ b.timeoutSeconds ≠ 0 ∧ (∀ id ∈ b.ids, id ≠ "") ∧ b.ids.Nodup := by
  rw [fault?]
  by_cases workers : b.poolSize = 0
  · simp [workers]
  · by_cases time : b.timeoutSeconds = 0
    · simp [workers, time]
    · rw [if_neg workers, if_neg time, idFault?_eq_none_iff]
      simp [workers, time]

theorem run_eq_error_iff {fault : Error} : b.run world = .error fault ↔ b.fault? = some fault := by
  rw [run]
  cases b.fault? with
  | some other => simp
  | none => simp only [reduceCtorEq, iff_false]; split <;> nofun

/-- A batch that is accepted answers, and no other one does. -/
theorem exists_run_eq_ok_iff : (∃ outcomes, b.run world = .ok outcomes) ↔ b.fault? = none := by
  rw [run]
  cases b.fault? with
  | some other => simp
  | none => simp only [iff_true]; split <;> exact ⟨_, rfl⟩

end Batch

end Pool

variable {ω : Type}

/-- The batch of a plan: its probes under its limits. -/
def Plan.batch (plan : Plan) (invoke : Invoker ω) : Pool.Batch Outcome ω :=
  Probe.batch invoke plan.probes plan.context.poolSize plan.context.timeoutSeconds

theorem Plan.ids_batch (plan : Plan) (invoke : Invoker ω) :
    (plan.batch invoke).ids = plan.probes.map Probe.id := by
  rw [batch, Probe.batch, Pool.Batch.ids, List.map_map]
  rfl

/-- Every command ends well and at once. -/
def calmInvoker : Invoker Unit := fun _ _ world => { result := .ok { exitCode := some 0 }, world }

end SmokeTest
