/-
The names of the tests of a document.

* `Json.nodup_mergeMembers` — a merged list has no name twice;
* `Document.nodup_of_parse` — no two tests of a document that can be read have the same name, in
  either format.

Design notes: members are merged last in both formats, so nothing has to be known of what is read
before.
-/
import Mathlib.Data.List.Nodup
import SmokeTest.Proofs.Document.Readers

namespace SmokeTest

namespace Json

variable {α : Type} [BEq α] [LawfulBEq α]

/-- A member that is put into a list adds its name, unless the list has it. -/
theorem names_putMember (name : α) (v : Json) (members : List (α × Json)) :
    (putMember name v members).map Prod.fst = members.map Prod.fst ∨
      name ∉ members.map Prod.fst ∧
        (putMember name v members).map Prod.fst = members.map Prod.fst ++ [name] := by
  induction members with
  | nil => exact .inr ⟨List.not_mem_nil, rfl⟩
  | cons first rest ih =>
    obtain ⟨n, w⟩ := first
    rw [putMember]
    by_cases same : n = name
    · rw [if_pos (beq_iff_eq.mpr same), same]
      exact .inl rfl
    · rw [if_neg (by simpa using same)]
      rcases ih with kept | ⟨new, added⟩
      · exact .inl (congrArg (n :: ·) kept)
      · exact .inr ⟨fun mem => (List.mem_cons.mp mem).elim (same ·.symm) new,
          congrArg (n :: ·) added⟩

theorem nodup_putMember {name : α} {v : Json} {members : List (α × Json)}
    (nodup : (members.map Prod.fst).Nodup) : ((putMember name v members).map Prod.fst).Nodup := by
  rcases names_putMember name v members with kept | ⟨new, added⟩
  · rwa [kept]
  · rw [added, ← List.concat_eq_append]
    exact nodup.concat new

theorem nodup_mergeMembers (members : List (α × Json)) :
    ((mergeMembers members).map Prod.fst).Nodup :=
  List.foldlRecOn (motive := fun merged : List (α × Json) => (merged.map Prod.fst).Nodup)
    members _ List.nodup_nil fun _ nodup _ _ => nodup_putMember nodup

end Json

theorem nodup_testsOfJson? {levels : Nat} {v : Json} {tests : List (String × Json)}
    (read : testsOfJson? levels v = some tests) : (tests.map Prod.fst).Nodup := by
  unfold testsOfJson? at read
  split at read
  · split at read
    · cases read
      exact Json.nodup_mergeMembers _
    · cases read
  · cases read

theorem Document.nodup_ofJson? {v : Json} {d : Document} (read : ofJson? v = some d) :
    (d.tests.map Prod.fst).Nodup := by
  obtain ⟨⟨named, fields⟩, -, read⟩ := Option.bind_eq_some_iff.mp read
  dsimp only at read
  split at read
  · next setup tests =>
    obtain ⟨s, -, read⟩ := Option.bind_eq_some_iff.mp read
    obtain ⟨listed, found, read⟩ := Option.bind_eq_some_iff.mp read
    cases read
    cases tests with
    | none => cases found; exact List.nodup_nil
    | some tests => exact nodup_testsOfJson? found
  · cases read

open Yaml

theorem nodup_testsOfYaml (levels : Nat) (n : Node) :
    (testsOfYaml levels n).Yields fun tests => (tests.map Prod.fst).Nodup := by
  refine .after fun pairs => .after fun members => .pure ?_
  exact Json.nodup_mergeMembers members

theorem Document.nodup_ofYamlNode (n : Node) :
    (ofYamlNode n).Yields fun d => (d.tests.map Prod.fst).Nodup := by
  refine .after fun fields => ?_
  split
  · next setup tests =>
    have names : (decodeField [] (testsOfYaml (yamlLevels - 2)) tests).Yields
        fun tests => (tests.map Prod.fst).Nodup := by
      refine .decodeField ?_ (nodup_testsOfYaml _) tests
      exact List.nodup_nil
    exact .after fun s => names.bind fun listed nodup => .pure nodup
  · exact .failure

/-- No two tests of a document have the same name. -/
theorem Document.nodup_of_parse {format : Format} {text : String} {d : Document}
    (read : parse format text = .ok d) : (d.tests.map Prod.fst).Nodup :=
  of_parse (fun _ _ => nodup_ofJson?) nodup_ofYamlNode List.nodup_nil read

end SmokeTest
