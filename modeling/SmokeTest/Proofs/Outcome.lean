/-
Outcomes as JSON texts.

* `Outcome.read?_toJson` — the text of an outcome is read back as its id, word, time and message;
* `Outcome.elapsedIn_toJson_iff` — the time that the text of an outcome gives;
* `Outcome.Recorded` — what the text of an outcome says, and what it tells apart;
* `Outcome.recorded_toJson` — every outcome is recorded, whatever is in its id and its message.

Design notes: a time is written as a word of 64 bits, and a time that is too long for that as the
largest word. So outcomes that differ in nothing but such times have the same text.
-/
import Mathlib.Algebra.Group.Nat.Defs
import SmokeTest.Outcome.Json
import SmokeTest.Proofs.Json.Writing

namespace SmokeTest

theorem Verdict.ofLabel?_label (v : Verdict) : ofLabel? v.label = some v := by
  cases v <;> rfl

/-- The text is a JSON object that gives the number as the elapsed time. -/
def Json.ElapsedIn (text : String) (n : Nat) : Prop :=
  ∃ members, read? text = some (.object members) ∧ (some "elapsed", .number (.ofNat n)) ∈ members

namespace Outcome

/-- The text of an outcome is read back as its id, the word of its verdict, its time in whole
milliseconds up to the largest word of 64 bits, and its message. -/
theorem read?_toJson (o : Outcome) :
    Json.read? o.toJson = some (.object [
      (some "id", .text o.id),
      (some "state", .text o.verdict.label),
      (some "elapsed", .number (.ofNat (min (o.elapsed / 1000000) (2 ^ 64 - 1)))),
      (some "message", .text o.message)]) := by
  have id := Json.writes_quote o.id
  have state := Json.writes_quote o.verdict.label
  have elapsed := Json.writes_decimal (min (o.elapsed / 1000000) (2 ^ 64 - 1))
  have message := Json.writes_quote o.message
  exact Json.read?_writeObject
    (.cons ⟨rfl, id⟩ (.cons ⟨rfl, state⟩ (.cons ⟨rfl, elapsed⟩ (.cons ⟨rfl, message⟩ .nil))))

theorem elapsedIn_toJson_iff {o : Outcome} {n : Nat} :
    Json.ElapsedIn o.toJson n ↔ n = min (o.elapsed / 1000000) (2 ^ 64 - 1) := by
  rw [Json.ElapsedIn, o.read?_toJson]
  simp [Json.Number.ofNat, Json.text, eq_comm]

/-- What the text of an outcome says, and what it tells apart. -/
structure Recorded (o : Outcome) : Prop where
  /-- The text has four members and no blanks between them. -/
  compact : o.toJson = "\x7b\"id\":" ++ Json.quote o.id ++
    ",\"state\":" ++ Json.quote o.verdict.label ++
    ",\"elapsed\":" ++ Text.decimal (min (o.elapsed / 1000000) (2 ^ 64 - 1)) ++
    ",\"message\":" ++ Json.quote o.message ++ "\x7d"
  /-- It is read back as an object with these members, in this order. -/
  read : Json.read? o.toJson = some (.object [
    (some "id", .text o.id),
    (some "state", .text o.verdict.label),
    (some "elapsed", .number (.ofNat (min (o.elapsed / 1000000) (2 ^ 64 - 1)))),
    (some "message", .text o.message)])
  /-- Only an outcome that differs in nothing but its time has the same text. -/
  told : ∀ o' : Outcome, o'.toJson = o.toJson →
    o'.id = o.id ∧ o'.verdict = o.verdict ∧ o'.message = o.message
  /-- An outcome that took as long, or longer, is never said to have taken less time. -/
  ascends : ∀ o' : Outcome, o.elapsed ≤ o'.elapsed → ∀ n n', Json.ElapsedIn o.toJson n →
    Json.ElapsedIn o'.toJson n' → n ≤ n'
  /-- A time that a word of 64 bits can hold is given as it is, and one that it cannot hold as the
  largest word. -/
  whole : ∀ n, Json.ElapsedIn o.toJson n ↔
    n = o.elapsed / 1000000 ∧ n < 2 ^ 64 ∨ n = 2 ^ 64 - 1 ∧ 2 ^ 64 ≤ o.elapsed / 1000000

/-- **Outcomes are recorded faithfully.** Whatever is in the id and the message of an outcome, and
however long it took, its JSON text is read back as its id, its verdict, its time and its message.
So the text tells the id, the verdict and the message, and the time that it gives grows with the
time that the outcome took and never wraps around. -/
theorem recorded_toJson (o : Outcome) : Recorded o := by
  constructor
  · have id : (Json.quote "id").toList = "\"id\"".toList := rfl
    have state : (Json.quote "state").toList = "\"state\"".toList := rfl
    have elapsed : (Json.quote "elapsed").toList = "\"elapsed\"".toList := rfl
    have message : (Json.quote "message").toList = "\"message\"".toList := rfl
    refine String.toList_injective ?_
    simp [toJson, Json.writeObject, id, state, elapsed, message, millis, nanosPerMilli,
      Text.wordMax]
  · exact o.read?_toJson
  · intro o' same
    have read := o'.read?_toJson
    rw [same, o.read?_toJson] at read
    simp only [Json.text, Option.some.injEq, Json.object.injEq, List.cons.injEq, Prod.mk.injEq,
      Json.string.injEq, true_and, and_true] at read
    obtain ⟨id, state, -, message⟩ := read
    have verdict : some o'.verdict = some o.verdict := by
      rw [← Verdict.ofLabel?_label, ← Verdict.ofLabel?_label, state]
    exact ⟨id.symm, Option.some.inj verdict, message.symm⟩
  · intro o' le n n' given given'
    rw [elapsedIn_toJson_iff] at given given'
    omega
  · intro n
    rw [elapsedIn_toJson_iff]
    omega

/-- An outcome with quotes, a control character and a line break in its texts, and the longest time
that a duration can be. -/
def longestOutcome : Outcome where
  id := "a\"\\\x00"
  verdict := .execError
  elapsed := 18446744073709551615999999999
  message := "first\nsecond"

/-- Its text is one line and gives the largest word for the time, and so does the text of an outcome
that took as many milliseconds. -/
theorem recorded_longestOutcome :
    longestOutcome.toJson = "\x7b\"id\":\"a\\\"\\\\\\u0000\",\"state\":\"EXEC_ERROR\"," ++
        "\"elapsed\":18446744073709551615,\"message\":\"first\\nsecond\"\x7d" ∧
      Json.ElapsedIn longestOutcome.toJson 18446744073709551615 ∧
      18446744073709551615000000 ≤ longestOutcome.elapsed ∧
      ∀ n, Json.ElapsedIn { longestOutcome with elapsed := 18446744073709551615000000 }.toJson n →
        n ≤ 18446744073709551615 := by
  have longer : 18446744073709551615000000 ≤ longestOutcome.elapsed := by decide
  have largest : Json.ElapsedIn longestOutcome.toJson 18446744073709551615 :=
    ((recorded_toJson longestOutcome).whole _).mpr (.inr ⟨rfl, by decide⟩)
  refine ⟨(recorded_toJson longestOutcome).compact.trans ?_, largest, longer, ?_⟩
  · rfl
  · intro n given
    exact (recorded_toJson _).ascends longestOutcome longer n _ given largest

end Outcome

end SmokeTest
