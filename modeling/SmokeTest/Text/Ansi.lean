/-
Texts with colours, for terminals.

Main definitions:

* `Span` — a piece of text, plain or in bold and a colour;
* `Span.renderAll color spans` — the text of the spans, with escape sequences or without;
* `stripEscapes s` — the text without its escape sequences.
-/

namespace SmokeTest.Text

/-- The colours of a terminal that are used. -/
inductive Color
  | red
  | green
  | yellow
  | magenta
  deriving DecidableEq, Repr, Inhabited

/-- The number that selects a colour. -/
def Color.code : Color → String
  | red => "31"
  | green => "32"
  | yellow => "33"
  | magenta => "35"

/-- A piece of text. -/
inductive Span
  | plain (text : String)
  /-- In bold letters, and in a colour if there is one. -/
  | bold (color : Option Color) (text : String)
  deriving DecidableEq, Repr, Inhabited

/-- What begins an escape sequence. -/
def escape : Char := '\x1b'

/-- The escape sequence with the given parameters. -/
def escapeSequence (parameters : String) : String :=
  String.ofList [escape, '['] ++ parameters ++ "m"

namespace Span

/-- The text of a span without its looks. -/
def text : Span → String
  | plain s | bold _ s => s

/-- The parameters of a style. -/
def styleCode : Option Color → String
  | none => "1"
  | some c => "1;" ++ c.code

/-- The text of a span, in its looks if there are any. -/
def render (color : Bool) : Span → String
  | plain s => s
  | bold style s =>
    if color then escapeSequence (styleCode style) ++ s ++ escapeSequence "0" else s

/-- The text of spans. -/
def renderAll (color : Bool) (spans : List Span) : String :=
  String.join (spans.map (render color))

end Span

/-- The text behind the parameters of an escape sequence and the letter that ends it. -/
def skipParameters : List Char → List Char
  | [] => []
  | c :: rest => if c.isDigit || c == ';' then skipParameters rest else rest

theorem length_skipParameters_le (s : List Char) : (skipParameters s).length ≤ s.length := by
  induction s with
  | nil => simp [skipParameters]
  | cons c rest ih =>
    unfold skipParameters
    split
    · exact Nat.le_succ_of_le ih
    · exact Nat.le_succ _

/-- The text without its escape sequences. -/
def stripEscapes : List Char → List Char
  | '\x1b' :: '[' :: rest => stripEscapes (skipParameters rest)
  | c :: rest => c :: stripEscapes rest
  | [] => []
termination_by s => s.length
decreasing_by
  · have := length_skipParameters_le rest
    simp only [List.length_cons]
    omega
  · simp

end SmokeTest.Text
