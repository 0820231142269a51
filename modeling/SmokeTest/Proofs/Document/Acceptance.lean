/-
Which documents have a batch that is accepted.

* `Document.Refused d o` — the reasons for which the batch of a document is refused;
* `Plan.accepted_ofDocument` — the batch of a document that has a plan is only refused for such a
  reason, and answers if there is none;
* `refused_twinText` — names that differ only in the blanks around them, and a limit of zero, are
  such reasons.

Design notes: the tests of a document have different names, but the ids of its probes are these
names without the blanks around them. Which of them coincide is decided by the names, so a
repetition is traced back to the two tests that it comes from.
-/
import SmokeTest.Proofs.Document.Names
import SmokeTest.Proofs.Document.Tests
import SmokeTest.Proofs.Pool.Acceptance

namespace SmokeTest

/-- Why the batch of a document is refused: its setup asks for no worker or for no time, or two of
the tests that are to run have names that differ only in the blanks around them. -/
inductive Document.Refused (d : Document) (o : Options) : Error → Prop
  | noWorkers (asked : d.setup.poolSize = some 0) : Refused d o .noWorkers
  | noTime (asked : d.setup.timeoutSeconds = some 0) : Refused d o .noTime
  | sameId {a b : Written} (first : a ∈ d.accepted o) (second : b ∈ d.accepted o)
      (differ : a.name ≠ b.name) (same : a.name.trimBlank = b.name.trimBlank) :
      Refused d o (.duplicateId a.name.trimBlank)

/-- What a plan takes from the document it is made from. -/
structure Plan.Drawn (plan : Plan) (d : Document) (o : Options) : Prop where
  /-- The limits are those of the setup, whatever they are; without them, those of the run. -/
  poolSize : plan.context.poolSize = d.setup.poolSize.getD o.poolSize
  timeoutSeconds : plan.context.timeoutSeconds = d.setup.timeoutSeconds.getD o.timeoutSeconds
  /-- The ids are the names of the tests without the blanks around them. -/
  ids : plan.probes.map Probe.id = (d.accepted o).map (·.name.trimBlank)
  /-- No id is empty, and no command. -/
  named : ∀ p ∈ plan.probes, p.id ≠ "" ∧ p.command ≠ ""
  /-- As they are written, the names are different. -/
  names : ((d.accepted o).map Written.name).Nodup

variable {d : Document} {o : Options} {plan : Plan}

/-- A limit is only zero if the setup says so. -/
theorem getD_eq_zero_iff {limit : Option Nat} {default : Nat} (some_left : 1 ≤ default) :
    limit.getD default = 0 ↔ limit = some 0 := by
  cases limit with
  | none => simp only [Option.getD_none, reduceCtorEq, iff_false]; omega
  | some n => simp

theorem drawn_of_plan {i : Invocation} (names : (d.tests.map Prod.fst).Nodup)
    (planned : d.plan o i = .ok plan) : plan.Drawn d o := by
  obtain ⟨-, context, -⟩ := Document.plan_eq_ok_iff.mp planned
  refine ⟨by rw [context]; rfl, by rw [context]; rfl, Document.ids_of_plan planned, ?_,
    names.sublist (d.names_accepted o)⟩
  intro p mem
  obtain ⟨w, accepted, made⟩ := Document.exists_written planned mem
  obtain ⟨-, command, -⟩ := Written.probe?_eq_some_iff.mp made
  exact ⟨p.id_ne_empty, command ▸ command_of_mem_writtenTests (List.mem_of_mem_filter accepted)⟩

namespace Plan.Drawn

/-- An id that occurs twice comes from two tests with different names. -/
theorem refused_of_duplicate (drawn : plan.Drawn d o) {id : String}
    (twice : List.Duplicate id (plan.probes.map Probe.id)) : d.Refused o (.duplicateId id) := by
  rw [drawn.ids, List.duplicate_iff_sublist] at twice
  obtain ⟨pair, within, ids⟩ := List.sublist_map_iff.mp twice
  obtain ⟨a, rest, rfl, first, rest_ids⟩ := List.map_eq_cons_iff.mp ids.symm
  obtain ⟨b, none, rfl, second, none_left⟩ := List.map_eq_cons_iff.mp rest_ids
  obtain rfl := List.map_eq_nil_iff.mp none_left
  have differ : a.name ≠ b.name := by
    simpa using drawn.names.sublist (within.map Written.name)
  rw [← first]
  exact .sameId (within.subset List.mem_cons_self)
    (within.subset (List.mem_cons_of_mem _ List.mem_cons_self)) differ (first.trans second.symm)

/-- The ids are different exactly if no two names differ only in the blanks around them. -/
theorem nodup_ids_iff (drawn : plan.Drawn d o) :
    (plan.probes.map Probe.id).Nodup ↔ ∀ id, ¬ d.Refused o (.duplicateId id) := by
  constructor
  · intro nodup id refused
    rw [drawn.ids] at nodup
    cases refused with
    | sameId first second differ same =>
      exact differ (congrArg Written.name (List.inj_on_of_nodup_map nodup first second same))
  · intro none
    by_contra twice
    obtain ⟨id, twice⟩ := List.exists_duplicate_iff_not_nodup.mpr twice
    exact none id (drawn.refused_of_duplicate twice)

variable {ω : Type} (invoke : Invoker ω)

theorem refused_of_fault? (drawn : plan.Drawn d o) (poolSize : 1 ≤ o.poolSize)
    (timeoutSeconds : 1 ≤ o.timeoutSeconds) {fault : Error}
    (refused : (plan.batch invoke).fault? = some fault) : d.Refused o fault := by
  rw [Pool.Batch.fault?] at refused
  split at refused
  · next none =>
    cases refused
    exact .noWorkers ((getD_eq_zero_iff poolSize).mp (drawn.poolSize.symm.trans none))
  · split at refused
    · next none =>
      cases refused
      exact .noTime ((getD_eq_zero_iff timeoutSeconds).mp (drawn.timeoutSeconds.symm.trans none))
    · rw [plan.ids_batch] at refused
      have named : ∀ id ∈ plan.probes.map Probe.id, id ≠ "" :=
        List.forall_mem_map.mpr fun p _ => p.id_ne_empty
      obtain ⟨id, rfl, ⟨-, before⟩ | twice⟩ := Pool.duplicate_of_idFault? named refused
      · cases before
      · exact drawn.refused_of_duplicate twice

theorem fault?_eq_none_iff (drawn : plan.Drawn d o) (poolSize : 1 ≤ o.poolSize)
    (timeoutSeconds : 1 ≤ o.timeoutSeconds) :
    (plan.batch invoke).fault? = none ↔ ∀ fault, ¬ d.Refused o fault := by
  constructor
  · intro accepted
    obtain ⟨workers, time, -, nodup⟩ := Pool.Batch.fault?_eq_none_iff.mp accepted
    rw [plan.ids_batch] at nodup
    intro fault refused
    cases refused with
    | noWorkers asked =>
      exact workers (drawn.poolSize.trans ((getD_eq_zero_iff poolSize).mpr asked))
    | noTime asked =>
      exact time (drawn.timeoutSeconds.trans ((getD_eq_zero_iff timeoutSeconds).mpr asked))
    | sameId first second differ same =>
      exact drawn.nodup_ids_iff.mp nodup _ (.sameId first second differ same)
  · intro none
    cases found : (plan.batch invoke).fault? with
    | none => rfl
    | some fault =>
      exact absurd (drawn.refused_of_fault? invoke poolSize timeoutSeconds found) (none fault)

end Plan.Drawn

namespace Plan

/-- A document that has a plan has its limits and ids from the document, and its batch is refused
for one of the reasons of the document and answers if there is none. -/
theorem accepted_ofDocument {i : Invocation} {format : Format} {text : String}
    (poolSize : 1 ≤ o.poolSize) (timeoutSeconds : 1 ≤ o.timeoutSeconds)
    (loaded : ofDocument o i format text = .ok plan) :
    ∃ d, Document.parse format text = .ok d ∧ (d.tests.map Prod.fst).Nodup ∧ plan.Drawn d o ∧
      (plan.context.poolSize = 0 ↔ d.Refused o .noWorkers) ∧
      (plan.context.timeoutSeconds = 0 ↔ d.Refused o .noTime) ∧
      ((plan.probes.map Probe.id).Nodup ↔ ∀ id, ¬ d.Refused o (.duplicateId id)) ∧
      ∀ {ω : Type} (invoke : Invoker ω) (world : ω),
        (∀ fault, (plan.batch invoke).run world = .error fault → d.Refused o fault) ∧
          ((∃ outcomes, (plan.batch invoke).run world = .ok outcomes) ↔
            ∀ fault, ¬ d.Refused o fault) := by
  obtain ⟨d, read, planned⟩ := ofDocument_eq_ok_iff.mp loaded
  have names := Document.nodup_of_parse read
  have drawn := drawn_of_plan names planned
  refine ⟨d, read, names, drawn, ?_, ?_, drawn.nodup_ids_iff, fun invoke world => ⟨?_, ?_⟩⟩
  · rw [drawn.poolSize, getD_eq_zero_iff poolSize]
    exact ⟨.noWorkers, fun | .noWorkers asked => asked⟩
  · rw [drawn.timeoutSeconds, getD_eq_zero_iff timeoutSeconds]
    exact ⟨.noTime, fun | .noTime asked => asked⟩
  · exact fun fault failed => drawn.refused_of_fault? invoke poolSize timeoutSeconds
      (Pool.Batch.run_eq_error_iff.mp failed)
  · exact Pool.Batch.exists_run_eq_ok_iff.trans
      (drawn.fault?_eq_none_iff invoke poolSize timeoutSeconds)

theorem accepted_ofDocument_paddedText :
    ofDocument { tag := .dev } {} .json paddedText = .ok paddedPlan ∧
      1 ≤ paddedPlan.context.poolSize ∧ 1 ≤ paddedPlan.context.timeoutSeconds ∧
      (paddedPlan.probes.map Probe.id).Nodup ∧
      ∃ outcomes, (paddedPlan.batch calmInvoker).run () = .ok outcomes := by
  obtain ⟨d, -, -, -, workers, time, ids, about⟩ :=
    accepted_ofDocument (by decide) (by decide) ofDocument_paddedText
  have different : (paddedPlan.probes.map Probe.id).Nodup := by decide
  refine ⟨ofDocument_paddedText, by decide, by decide, different,
    (about calmInvoker ()).2.mpr fun fault refused => ?_⟩
  cases refused with
  | noWorkers asked => exact absurd (workers.mpr (.noWorkers asked)) (by decide)
  | noTime asked => exact absurd (time.mpr (.noTime asked)) (by decide)
  | sameId first second differ same =>
    exact ids.mp different _ (.sameId first second differ same)

/-! ### Two documents that are refused -/

/-- A text with two names that differ in a blank. -/
def twinText : String :=
  "\x7b\"test\":\x7b\"a\":\x7b\"cmd\":\"x\",\"run\":\x7b\"always\":true\x7d\x7d," ++
    "\" a\":\x7b\"cmd\":\"y\",\"run\":\x7b\"always\":true\x7d\x7d\x7d\x7d"

/-- A text that asks for no worker. -/
def idleText : String :=
  "\x7b\"setup\":\x7b\"thread_pool_size\":0\x7d," ++
    "\"test\":\x7b\"a\":\x7b\"cmd\":\"x\",\"run\":\x7b\"always\":true\x7d\x7d\x7d\x7d"

def twinDocument : Document :=
  { tests := [("a", constantTest "x"), (" a", constantTest "y")] }

def idleDocument : Document :=
  { setup := { poolSize := some 0 }, tests := [("a", constantTest "x")] }

theorem parse_twinText : Document.parse .json twinText = .ok twinDocument := by
  have read : Json.read? twinText = some (.object [(some "test", .object [
      (some "a", constantTest "x"), (some " a", constantTest "y")])]) := by
    refine Json.read?_of_chars String.toList_append ?_
    simp [Json.readValue?, Json.readMembers?, Json.readString?, Json.skipBlanks, Json.text,
      constantTest]
  exact Document.parse_json read rfl

theorem parse_idleText : Document.parse .json idleText = .ok idleDocument := by
  have read : Json.read? idleText = some (.object [
      (some "setup", .object [(some "thread_pool_size", .number (.ofNat 0))]),
      (some "test", .object [(some "a", constantTest "x")])]) := by
    refine Json.read?_of_chars String.toList_append ?_
    simp [Json.readValue?, Json.readMembers?, Json.readString?, Json.readNumber?, Json.digitRun,
      Char.isDigit, Json.readFraction?, Json.readExponent?, Text.digitsValue?, Text.hexDigit?,
      Json.Number.ofNat, Json.skipBlanks, Json.text, constantTest]
  exact Document.parse_json read rfl

/-- What is to be run of `twinText` under the tag `dev`. -/
def twinPlan : Plan where
  context := { tag := "dev", poolSize := 5, timeoutSeconds := 600 }
  probes := [{ id := "a", command := "x" }, { id := "a", command := "y" }]

/-- What is to be run of `idleText` under the tag `dev`. -/
def idlePlan : Plan where
  context := { tag := "dev", poolSize := 0, timeoutSeconds := 600 }
  probes := [{ id := "a", command := "x" }]

/-- Both texts have a plan, and neither plan has a batch that is accepted. -/
theorem refused_twinText :
    (ofDocument { tag := .dev } {} .json twinText = .ok twinPlan ∧
      ¬ (twinPlan.probes.map Probe.id).Nodup ∧
      (twinPlan.batch calmInvoker).run () = .error (.duplicateId "a")) ∧
    ofDocument { tag := .dev } {} .json idleText = .ok idlePlan ∧
      ¬ 1 ≤ idlePlan.context.poolSize ∧
      (idlePlan.batch calmInvoker).run () = .error .noWorkers := by
  refine ⟨⟨?_, by decide, rfl⟩, ?_, by decide, rfl⟩
  · rw [ofDocument, parse_twinText]
    rfl
  · rw [ofDocument, parse_idleText]
    rfl

end Plan

end SmokeTest
