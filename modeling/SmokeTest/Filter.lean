/-
Filters narrow down the commands that a tag has selected.

    ==<regex>    the regular expression is found in the command
    =!<regex>    it is not found
    ~=<text>     the command contains the text
    ~!<text>     it does not
    #a#b#        the id is one of those between the `#`
    <text>       the command contains the text

Main definitions:

* `Filter.parse text` — the filter that a text writes;
* `Filter.accepts f id command` — whether a command with the given id passes.
-/
import SmokeTest.Error
import SmokeTest.Regex.Compile
import SmokeTest.Text.Split

namespace SmokeTest

/-- A condition on an id and a command. -/
inductive Filter
  | found (r : Regex)
  | notFound (r : Regex)
  | contains (text : String)
  | lacks (text : String)
  /-- The text holds the ids, with a `#` before and after each of them. -/
  | ids (text : String)
  deriving Repr, Inhabited

namespace Filter

open Text

/-- The kinds of filters, by the sign that a filter text begins with. -/
inductive Sign
  | found
  | notFound
  | contains
  | lacks
  deriving DecidableEq, Repr

/-- The sign that a text begins with, and the text after it. -/
def sign? : List Char → Option (Sign × List Char)
  | '=' :: '=' :: body => some (.found, body)
  | '=' :: '!' :: body => some (.notFound, body)
  | '~' :: '=' :: body => some (.contains, body)
  | '~' :: '!' :: body => some (.lacks, body)
  | _ => none

/-- The text with a `#` at its end. -/
def closeIds (text : List Char) : List Char :=
  if text.getLast? = some '#' then text else text ++ ['#']

/-- The filter that a text writes. -/
def parse (text : String) : Except Error Filter :=
  let chars := text.toList
  if chars.isEmpty then .error .emptyFilter
  else
    match sign? chars with
    | some (sign, body) =>
      if body.isEmpty then .error (.bareFilter text)
      else
        match sign with
        | .contains => .ok (.contains (String.ofList body))
        | .lacks => .ok (.lacks (String.ofList body))
        | .found =>
          match Regex.ofPattern? body with
          | some r => .ok (.found r)
          | none => .error (.badPattern text)
        | .notFound =>
          match Regex.ofPattern? body with
          | some r => .ok (.notFound r)
          | none => .error (.badPattern text)
    | none =>
      if chars.head? = some '#' then
        if chars.all (· == '#') then .error (.bareFilter text)
        else .ok (.ids (String.ofList (closeIds chars)))
      else .ok (.contains text)

/-- Whether a command with the given id passes. -/
def accepts (f : Filter) (id command : String) : Bool :=
  match f with
  | found r => r.occursIn command
  | notFound r => !r.occursIn command
  | contains text => Text.occursIn text.toList command.toList
  | lacks text => !Text.occursIn text.toList command.toList
  | ids text => Text.occursIn ('#' :: id.toList ++ ['#']) text.toList

end Filter

end SmokeTest
