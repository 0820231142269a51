/-
What the figures of a batch say of its outcomes.

* `rankedPasses` — the passes with their places, in the order in which the slowest ones are listed;
* `filter_rankedPasses` — passes of equal times keep their order;
* `Ranking` — the places that the slowest passes are taken from, and why from these;
* `figures_of_outcomes` — what holds of the figures of every batch.

Design notes: outcomes may be equal to each other, so the order of the batch is an order of places
and not of outcomes. The places are no part of the figures; they are carried along by sorting the
outcomes together with them, which leads to the same order.
-/
import Mathlib.Data.List.Perm.Basic
import SmokeTest.Summary

namespace SmokeTest

variable {outcomes : List Outcome} {k : Nat}

/-! ### Passes and their places -/

/-- Whether the first outcome may be listed before the second one. -/
def mayPrecede (x y : Outcome × Nat) : Bool := y.1.elapsed ≤ x.1.elapsed

/-- The passes of a batch with their places, in the order of the batch. -/
def placedPasses (outcomes : List Outcome) : List (Outcome × Nat) :=
  outcomes.zipIdx.filter fun x => x.1.passed

/-- The passes of a batch with their places, the slowest first. -/
def rankedPasses (outcomes : List Outcome) : List (Outcome × Nat) :=
  (placedPasses outcomes).mergeSort mayPrecede

theorem mayPrecede_trans (x y z : Outcome × Nat) (xy : mayPrecede x y = true)
    (yz : mayPrecede y z = true) : mayPrecede x z = true := by
  simp only [mayPrecede, decide_eq_true_eq] at *
  omega

theorem mayPrecede_total (x y : Outcome × Nat) : (mayPrecede x y || mayPrecede y x) = true := by
  simp only [mayPrecede, Bool.or_eq_true, decide_eq_true_eq]
  omega

theorem mem_rankedPasses {x : Outcome × Nat} :
    x ∈ rankedPasses outcomes ↔ outcomes[x.2]? = some x.1 ∧ x.1.passed = true := by
  rw [rankedPasses, List.mem_mergeSort, placedPasses, List.mem_filter,
    List.mem_zipIdx_iff_getElem?]

theorem map_fst_placedPasses (outcomes : List Outcome) :
    (placedPasses outcomes).map Prod.fst = outcomes.filter Outcome.passed := by
  conv_rhs => rw [← List.zipIdx_map_fst 0 outcomes, List.filter_map]
  rfl

/-- The slowest passes are the first of the ranked ones. -/
theorem slowest_eq (outcomes : List Outcome) (k : Nat) :
    slowest outcomes k = ((rankedPasses outcomes).take k).map Prod.fst := by
  rw [slowest, ← map_fst_placedPasses, List.map_take, rankedPasses]
  congr 1
  exact (List.map_mergeSort (f := Prod.fst) fun _ _ _ _ => rfl).symm

theorem length_rankedPasses (outcomes : List Outcome) :
    (rankedPasses outcomes).length = outcomes.countP Outcome.passed := by
  rw [rankedPasses, List.length_mergeSort, List.countP_eq_length_filter, ← map_fst_placedPasses,
    List.length_map]

/-! ### Their order -/

/-- Sorting keeps the order of the passes that took the same time. -/
theorem filter_rankedPasses (outcomes : List Outcome) (time : Nat) :
    ((rankedPasses outcomes).filter fun x => x.1.elapsed = time) =
      (placedPasses outcomes).filter fun x => x.1.elapsed = time := by
  have tied : ((placedPasses outcomes).filter fun x => x.1.elapsed = time).Pairwise fun x y =>
      mayPrecede x y = true := by
    refine List.pairwise_of_forall_mem_list fun x memX y memY => ?_
    have timeX := (List.mem_filter.mp memX).2
    have timeY := (List.mem_filter.mp memY).2
    simp only [mayPrecede, decide_eq_true_eq] at *
    omega
  have kept := (List.sublist_mergeSort mayPrecede_trans mayPrecede_total tied
    List.filter_sublist).filter fun x => decide (x.1.elapsed = time)
  simp only [List.filter_filter, Bool.and_self] at kept
  -- they are still listed in this order, and nothing else took this time
  have same := ((placedPasses outcomes).mergeSort_perm mayPrecede).filter fun x =>
    decide (x.1.elapsed = time)
  exact (kept.eq_of_length same.length_eq.symm).symm

/-- The outcome is listed before the other one: it took longer, or as long and comes earlier in the
batch. -/
def Precedes (x y : Outcome × Nat) : Prop :=
  y.1.elapsed < x.1.elapsed ∨ y.1.elapsed = x.1.elapsed ∧ x.2 < y.2

theorem pairwise_placedPasses (outcomes : List Outcome) :
    (placedPasses outcomes).Pairwise fun x y => x.2 < y.2 := by
  have places : (outcomes.zipIdx.map Prod.snd).Pairwise (· < ·) := by
    rw [List.zipIdx_map_snd]
    exact List.pairwise_lt_range'
  exact (List.pairwise_map.mp places).sublist List.filter_sublist

theorem pairwise_rankedPasses (outcomes : List Outcome) :
    (rankedPasses outcomes).Pairwise Precedes := by
  refine List.pairwise_iff_forall_sublist.mpr fun {x y} listed => ?_
  have sorted := List.pairwise_iff_forall_sublist.mp
    (List.pairwise_mergeSort mayPrecede_trans mayPrecede_total (placedPasses outcomes)) listed
  have le : y.1.elapsed ≤ x.1.elapsed := of_decide_eq_true sorted
  rcases Nat.lt_or_eq_of_le le with lt | same
  · exact .inl lt
  · -- passes of the same time are listed in the order of their places
    have tied := listed.filter fun z => decide (z.1.elapsed = x.1.elapsed)
    rw [filter_rankedPasses] at tied
    simp only [List.filter_cons, same, decide_true, if_true, List.filter_nil] at tied
    have placed := tied.trans List.filter_sublist
    exact .inr ⟨same, List.pairwise_iff_forall_sublist.mp (pairwise_placedPasses outcomes) placed⟩

/-! ### Places -/

/-- The outcome in the place `i` took longer than that in the place `j`, or as long and comes
earlier in the batch. -/
def Outranks (outcomes : List Outcome) (i j : Nat) : Prop :=
  ∃ o p, outcomes[i]? = some o ∧ outcomes[j]? = some p ∧
    (p.elapsed < o.elapsed ∨ p.elapsed = o.elapsed ∧ i < j)

/-- The slowest passes are those in the places, in the order of the places. -/
structure Ranking (outcomes : List Outcome) (k : Nat) (places : List Nat) : Prop where
  shown : (slowest outcomes k).map some = places.map fun i => outcomes[i]?
  passes : ∀ i ∈ places, ∃ o, outcomes[i]? = some o ∧ o.verdict = .pass
  /-- They are listed by their times, and in the order of the batch where these are equal. So no
  place is listed twice. -/
  ordered : places.Pairwise (Outranks outcomes)
  /-- No pass that is left out should have been listed before one that is not. -/
  best : ∀ i ∈ places, ∀ j o, outcomes[j]? = some o → o.verdict = .pass → j ∉ places →
    Outranks outcomes i j

theorem Precedes.outranks {x y : Outcome × Nat} (h : Precedes x y)
    (memX : x ∈ rankedPasses outcomes) (memY : y ∈ rankedPasses outcomes) :
    Outranks outcomes x.2 y.2 :=
  ⟨x.1, y.1, (mem_rankedPasses.mp memX).1, (mem_rankedPasses.mp memY).1, h⟩

theorem ranking_slowest (outcomes : List Outcome) (k : Nat) :
    Ranking outcomes k (((rankedPasses outcomes).take k).map Prod.snd) := by
  have among : ∀ x ∈ (rankedPasses outcomes).take k, x ∈ rankedPasses outcomes :=
    fun _ => List.mem_of_mem_take
  constructor
  · rw [slowest_eq, List.map_map, List.map_map]
    exact List.map_congr_left fun x mem => (mem_rankedPasses.mp (among x mem)).1.symm
  · intro i place
    obtain ⟨x, mem, rfl⟩ := List.mem_map.mp place
    obtain ⟨here, passed⟩ := mem_rankedPasses.mp (among x mem)
    exact ⟨x.1, here, of_decide_eq_true passed⟩
  · rw [List.pairwise_map]
    refine List.Pairwise.imp_of_mem (fun {x y} memX memY h => ?_)
      ((pairwise_rankedPasses outcomes).sublist (List.take_sublist _ _))
    exact h.outranks (among x memX) (among y memY)
  · intro i place j o here pass leftOut
    obtain ⟨x, mem, rfl⟩ := List.mem_map.mp place
    have memJ : (o, j) ∈ rankedPasses outcomes :=
      mem_rankedPasses.mpr ⟨here, decide_eq_true pass⟩
    -- a pass that is not among the first comes behind all of them
    have behind : (o, j) ∈ (rankedPasses outcomes).drop k := by
      rw [← List.take_append_drop k (rankedPasses outcomes), List.mem_append] at memJ
      exact memJ.resolve_left fun listed => leftOut (List.mem_map.mpr ⟨_, listed, rfl⟩)
    have ranked := pairwise_rankedPasses outcomes
    rw [← List.take_append_drop k (rankedPasses outcomes), List.pairwise_append] at ranked
    exact (ranked.2.2 x mem _ behind).outranks (among x mem) memJ

/-! ### Counts -/

theorem failures_eq_nil_iff : failures outcomes = [] ↔ failedCount outcomes = 0 := by
  rw [failures, failedCount, List.filter_eq_nil_iff, List.countP_eq_zero]

theorem countP_passed_add_failedCount (outcomes : List Outcome) :
    outcomes.countP Outcome.passed + failedCount outcomes = outcomes.length := by
  rw [failedCount, List.length_eq_countP_add_countP Outcome.passed]
  simp

theorem passedCount_eq (outcomes : List Outcome) :
    passedCount outcomes = outcomes.countP Outcome.passed := by
  have all := countP_passed_add_failedCount outcomes
  rw [passedCount]
  omega

/-- The failures and all passes, in whatever order, are the outcomes. -/
theorem failures_append_slowest_perm (all : outcomes.countP Outcome.passed ≤ k) :
    (failures outcomes ++ slowest outcomes k).Perm outcomes := by
  have passes : (slowest outcomes k).Perm (outcomes.filter Outcome.passed) := by
    rw [slowest, List.take_of_length_le]
    · exact List.mergeSort_perm _ _
    · rwa [List.length_mergeSort, ← List.countP_eq_length_filter]
  exact (List.perm_append_comm.trans (passes.append_right _)).trans
    (List.filter_append_perm Outcome.passed outcomes)

theorem exitStatus_eq_zero_iff_failures : exitStatus outcomes = 0 ↔ failures outcomes = [] := by
  rw [failures_eq_nil_iff, exitStatus]
  split
  · next none_failed => exact iff_of_true rfl none_failed
  · next some_failed => exact iff_of_false nofun some_failed

/-- What holds of the figures of a batch. -/
structure Figures (outcomes : List Outcome) (k : Nat) : Prop where
  length : (slowest outcomes k).length = min k (outcomes.countP Outcome.passed)
  /-- The passes that are listed as the slowest are the slowest, each from a place of its own. -/
  ranking : ∃ places, Ranking outcomes k places
  /-- To list one more pass changes nothing in front of it. -/
  grows : slowest outcomes k <+: slowest outcomes (k + 1)
  /-- If all passes are listed, every outcome is a failure or listed, and nothing is both. -/
  whole : outcomes.countP Outcome.passed ≤ k →
    (failures outcomes ++ slowest outcomes k).Perm outcomes
  /-- The failures are in the order of the batch. -/
  failures : (SmokeTest.failures outcomes).Sublist outcomes ∧
    ∀ o, o ∈ SmokeTest.failures outcomes ↔ o ∈ outcomes ∧ o.verdict ≠ .pass
  /-- The two counts count the passes and the failures, and leave nothing over. -/
  counts : passedCount outcomes = outcomes.countP Outcome.passed ∧
    failedCount outcomes = (SmokeTest.failures outcomes).length ∧
    failedCount outcomes ≤ outcomes.length ∧
    passedCount outcomes + failedCount outcomes = outcomes.length
  /-- The summary has the same figures. -/
  summary : let s := Summary.ofOutcomes outcomes k
    s.outcomes = outcomes ∧ s.total = outcomes.length ∧ s.slowest = slowest outcomes k ∧
      s.failures = SmokeTest.failures outcomes ∧ s.failedCount = failedCount outcomes ∧
      s.passedCount = passedCount outcomes ∧ s.exitStatus = exitStatus outcomes
  status : exitStatus outcomes = 0 ↔ SmokeTest.failures outcomes = []

/-- **The figures of a batch lose nothing and repeat nothing.** Whatever the outcomes, and however
many passes are to be listed: those that are listed are the slowest ones, as many as there are up to
the number that was asked for, the slowest first and equal times in the order of the batch; with the
failures, which keep the order of the batch, they make up the batch as soon as all passes are
listed; the counts add up to its size; the summary agrees; and the status is that of success exactly
if nothing failed. -/
theorem figures_of_outcomes (outcomes : List Outcome) (k : Nat) : Figures outcomes k := by
  have all := countP_passed_add_failedCount outcomes
  constructor
  · rw [slowest_eq, List.length_map, List.length_take, length_rankedPasses]
  · exact ⟨_, ranking_slowest outcomes k⟩
  · rw [slowest_eq, slowest_eq]
    exact (List.take_prefix_take_left (Nat.le_succ k)).map Prod.fst
  · exact failures_append_slowest_perm
  · exact ⟨List.filter_sublist, fun o => by simp [SmokeTest.failures, Outcome.passed]⟩
  · refine ⟨passedCount_eq outcomes, List.countP_eq_length_filter, by omega, ?_⟩
    rw [passedCount_eq, all]
  · exact ⟨rfl, rfl, rfl, rfl, rfl, rfl, rfl⟩
  · exact exitStatus_eq_zero_iff_failures

/-- Two passes that took the same time, a failure between them, and a slower pass at the end. -/
def tiedOutcomes : List Outcome :=
  [⟨"a", .pass, 5, "done"⟩, ⟨"b", .fail, 9, "wrong"⟩, ⟨"c", .pass, 5, "done"⟩,
    ⟨"d", .pass, 8, "done"⟩]

/-- Of the two passes that took the same time the first one is listed; the three passes and the
failure are the batch. -/
theorem figures_of_tiedOutcomes :
    (slowest tiedOutcomes 2).map Outcome.id = ["d", "a"] ∧
      (slowest tiedOutcomes 2).length = 2 ∧ slowest tiedOutcomes 2 <+: slowest tiedOutcomes 3 ∧
      tiedOutcomes.countP Outcome.passed ≤ 3 ∧
      (failures tiedOutcomes ++ slowest tiedOutcomes 3).Perm tiedOutcomes ∧
      failedCount tiedOutcomes = 1 ∧ exitStatus tiedOutcomes ≠ 0 := by
  have two := figures_of_outcomes tiedOutcomes 2
  have passes : tiedOutcomes.countP Outcome.passed ≤ 3 := by decide
  have listed : (slowest tiedOutcomes 2).map Outcome.id = ["d", "a"] := by
    simp [slowest, tiedOutcomes, Outcome.passed, List.mergeSort,
      List.MergeSort.Internal.splitInTwo]
  exact ⟨listed, two.length, two.grows, passes, (figures_of_outcomes tiedOutcomes 3).whole passes,
    two.counts.2.1, mt two.status.mp (by decide)⟩

end SmokeTest
