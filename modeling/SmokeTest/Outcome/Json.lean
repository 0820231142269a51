/-
Outcomes as JSON texts.

Main statement: `Outcome.toJson o` is a compact object with the fields `id`, `state`, `elapsed` and
`message`, in this order. Times are whole milliseconds, at most the largest 64 bit word.
-/
import SmokeTest.Json.Writer
import SmokeTest.Outcome

namespace SmokeTest

/-- The compact JSON text of an outcome. -/
def Outcome.toJson (o : Outcome) : String :=
  Json.writeObject [
    ("id", Json.quote o.id),
    ("state", Json.quote o.verdict.label),
    ("elapsed", Text.decimal (min o.millis Text.wordMax)),
    ("message", Json.quote o.message)]

end SmokeTest
