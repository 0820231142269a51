/-
The values of arithmetic expressions in a shell.

Main definitions:

* `Run.evaluate` — the value of an expression, with its effects on variables;
* `Run.calculate` — the same for a text;
* `Run.calculateFor` — the same on behalf of a command.
-/
import SmokeTest.Shell.Arithmetic
import SmokeTest.Shell.Machine

namespace SmokeTest.Shell.Run

/-- The decimal text of a number. -/
def numberText (n : Int) : String :=
  match n with
  | .ofNat n => Text.decimal n
  | .negSucc n => "-" ++ Text.decimal (n + 1)

/-- The element of a value with the given number; negative numbers count from the end. -/
def elementAt (v : Value) (i : Int) : Option String :=
  match v with
  | .scalar s => if i = 0 || i = -1 then some s else none
  | .array elements =>
    let last := ((elements.getLast?.map Prod.fst).getD 0 : Nat)
    let i := if i < 0 then i + last + 1 else i
    if i < 0 then none else elements.lookup i.toNat
  | .table elements => elements.lookup (numberText i)

/-- Gives an element of an array a text. -/
def assignElement (name : String) (i : Int) (text : String) : Run Unit := do
  let old ← binding? name
  let elements := match old.map Variable.value with
    | some (.array elements) => elements
    | some (.scalar s) => [(0, s)]
    | _ => []
  let last := ((elements.getLast?.map Prod.fst).getD 0 : Nat)
  let i := if i < 0 then i + last + 1 else i
  putVariable name (some { (old.getD { value := .scalar "" }) with
    value := .array (putElement i.toNat text elements) })

/-- Ends the command because a text makes no sense from some place on. -/
def nonsense {α : Type} (source message token : String) : Run α := do
  let shown := String.ofList (Expression.trim source.toList)
  let speaker := (← shell).speaker
  complain s!"{speaker}{shown}: {message} (error token is \"{token}\")"
  throw (.broken 1)

mutual

/-- The value of an expression that is part of the given text. -/
def evaluate (source : String) : Nat → Expression → Run Int
  | 0, _ => throw .exhausted
  | fuel + 1, e => do
    match e with
    | .number n => return n
    | .scalar name =>
      match ← binding? name with
      | some v => textValue fuel ((valueText v.value).getD "")
      | none =>
        if ← hasOption "nounset" then
          complain s!"{name}: unbound variable"
          throw (.exit (if (← shell).nested || (← hasOption "errexit") then 1 else 127))
        return 0
    | .element name i =>
      let i ← evaluate source fuel i
      match ← binding? name with
      | some v => textValue fuel ((elementAt v.value i).getD "")
      | none => return 0
    | .unary operator e => return applySign operator (← evaluate source fuel e)
    | .binary "&&" a b _ =>
      if (← evaluate source fuel a) = 0 then return 0
      return if (← evaluate source fuel b) = 0 then 0 else 1
    | .binary "||" a b _ =>
      if (← evaluate source fuel a) ≠ 0 then return 1
      return if (← evaluate source fuel b) = 0 then 0 else 1
    | .binary operator a b behind =>
      let a ← evaluate source fuel a
      let b ← evaluate source fuel b
      operate source operator behind a b
    | .choice c a b =>
      if (← evaluate source fuel c) ≠ 0 then evaluate source fuel a else evaluate source fuel b
    | .assign target operator e behind =>
      let v ← match operator with
        | none => evaluate source fuel e
        | some operator =>
          let a ← evaluate source fuel target
          let b ← evaluate source fuel e
          operate source operator behind a b
      put source fuel target v
      return v
    | .change target amount after =>
      let old ← evaluate source fuel target
      let new := wrap (old + amount)
      put source fuel target new
      return if after then new else old

/-- The value of an operator, or a complaint. -/
def operate (source operator behind : String) (a b : Int) : Run Int := do
  match applyOperator? operator a b with
  | some n => return n
  | none =>
    if operator == "**" then nonsense source "exponent less than 0" (numberText (-b))
    else nonsense source "division by 0" behind

/-- Gives a variable or an element a number. -/
def put (source : String) : Nat → Expression → Int → Run Unit
  | 0, _, _ => throw .exhausted
  | fuel + 1, target, n => do
    match target with
    | .scalar name => assign name (numberText n)
    | .element name i => assignElement name (← evaluate source fuel i) (numberText n)
    | _ => return

/-- The number that the text of a variable is. -/
def textValue : Nat → String → Run Int
  | 0, _ => throw .exhausted
  | fuel + 1, text => do
    match Expression.read text with
    | .ok e => evaluate text fuel e
    | .error m => nonsense text m.cause.message (String.ofList m.token)

end

/-- The value of an expression that is given as a text. -/
def calculate (text : String) : Run Int :=
  textValue 1000 text

/-- The value of an expression for a command that gives its name to complaints. -/
def calculateFor (command text : String) : Run Int := do
  let before := (← shell).speaker
  change fun s => { s with speaker := command ++ ": " }
  let n ← tidily (calculate text) (change fun s => { s with speaker := before })
  return n

end SmokeTest.Shell.Run
