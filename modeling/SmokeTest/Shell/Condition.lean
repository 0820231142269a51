/-
Tests of texts, numbers and files.

Main definitions:

* `Run.holdsUnary`, `Run.holdsBinary` — the operators of tests;
* `Run.test` — what `test` and `[` say of their arguments.
-/
import SmokeTest.Shell.Calculation
import SmokeTest.Shell.Format

namespace SmokeTest.Shell.Run

/-- Whether an operator before a text holds. -/
def holdsUnary (operator text : String) : Run Bool := do
  let entry := (← outside).files.find? (← shell).directory text
  match operator with
  | "-z" => return text.isEmpty
  | "-n" => return !text.isEmpty
  | "-e" | "-a" | "-r" | "-w" | "-O" | "-G" => return entry.isSome
  | "-f" => return match entry with
    | some (.file _) => true
    | _ => false
  | "-d" => return entry == some .directory
  | "-x" => return match entry with
    | some .directory => true
    | some (.file bytes) => bytes.head? == some 0x7f
    | _ => false
  | "-s" => return match entry with
    | some (.file bytes) => !bytes.isEmpty
    | some .directory => true
    | _ => false
  | "-c" => return entry == some .sink
  | "-v" => return (← textOf? text).isSome
  | "-o" => hasOption text
  | _ => return false

/-- The comparison of two numbers by an operator. -/
def compare? (operator : String) (a b : Int) : Option Bool :=
  match operator with
  | "-eq" => some (a == b)
  | "-ne" => some (a != b)
  | "-lt" => some (a < b)
  | "-le" => some (a ≤ b)
  | "-gt" => some (b < a)
  | "-ge" => some (b ≤ a)
  | _ => none

/-- Whether an operator between two texts holds; none if it is not about texts. -/
def holdsBinary (operator a b : String) : Run (Option Bool) := do
  let o ← outside
  let directory := (← shell).directory
  match operator with
  | "=" | "==" => return some (a == b)
  | "!=" => return some (a != b)
  | "<" => return some (a < b)
  | ">" => return some (b < a)
  | "-ef" =>
    return some ((o.files.find? directory a).isSome &&
      o.files.locate? directory a == o.files.locate? directory b)
  | "-nt" =>
    return some ((o.files.find? directory a).isSome && (o.files.find? directory b).isNone)
  | "-ot" =>
    return some ((o.files.find? directory a).isNone && (o.files.find? directory b).isSome)
  | _ => return none

/-- The operators that stand between two arguments of `test`. -/
def testOperators : List String :=
  ["=", "==", "!=", "<", ">", "-eq", "-ne", "-lt", "-le", "-gt", "-ge", "-ef", "-nt", "-ot"]

/-- Whether a word is an operator that stands before an argument of `test`. -/
def isTestUnary (s : String) : Bool :=
  match s.toList with
  | ['-', c] => "abcdefghknoprstuvwxzGLNORS".toList.contains c
  | _ => false

/-- The whole number of 64 bits that a text writes, with blanks around it. -/
def wholeNumber? (s : String) : Option Int :=
  let blank (c : Char) : Bool := c == ' ' || c == '\t' || c == '\n'
  let s := s.toList.dropWhile blank
  let number := match (s.reverse.dropWhile blank).reverse with
    | '-' :: digits => (Text.readDigits? 10 digits).map fun n => -(n : Int)
    | '+' :: digits | digits => (Text.readDigits? 10 digits).map Int.ofNat
  number.filter fun n => wrap n = n

/-- Ends `test` with a complaint. -/
def badTest {α : Type} (name message : String) : Run α := do
  complain s!"{name}: {message}"
  throw (.broken 2)

/-- A comparison in `test`. -/
def testBinary (name operator a b : String) : Run Bool := do
  match ← holdsBinary operator a b with
  | some r => return r
  | none =>
    match wholeNumber? a, wholeNumber? b with
    | some x, some y => return (compare? operator x y).getD false
    | none, _ => badTest name s!"{a}: integer expression expected"
    | _, none => badTest name s!"{b}: integer expression expected"

/-- A test of two arguments. -/
def testTwo (name a b : String) : Run Bool :=
  if a == "!" then return b.isEmpty
  else if isTestUnary a then holdsUnary a b
  else badTest name s!"{a}: unary operator expected"

/-- A test of three arguments. -/
def testThree (name a b c : String) : Run Bool := do
  if testOperators.contains b then testBinary name b a c
  else if b == "-a" then return !a.isEmpty && !c.isEmpty
  else if b == "-o" then return !a.isEmpty || !c.isEmpty
  else if a == "!" then return !(← testTwo name b c)
  else if a == "(" && c == ")" then return !b.isEmpty
  else badTest name s!"{b}: binary operator expected"

mutual

/-- Alternatives among the arguments of `test`. -/
def testOr (name : String) : Nat → List String → Run (Bool × List String)
  | 0, _ => throw .exhausted
  | fuel + 1, arguments => do
    let (a, rest) ← testAnd name fuel arguments
    match rest with
    | "-o" :: rest =>
      let (b, rest) ← testOr name fuel rest
      return (a || b, rest)
    | rest => return (a, rest)

/-- Arguments of `test` that have to hold together. -/
def testAnd (name : String) : Nat → List String → Run (Bool × List String)
  | 0, _ => throw .exhausted
  | fuel + 1, arguments => do
    let (a, rest) ← testOne name fuel arguments
    match rest with
    | "-a" :: rest =>
      let (b, rest) ← testAnd name fuel rest
      return (a && b, rest)
    | rest => return (a, rest)

/-- One comparison, a test of one argument, its opposite, or a test in brackets. -/
def testOne (name : String) : Nat → List String → Run (Bool × List String)
  | 0, _ => throw .exhausted
  | fuel + 1, arguments => do
    match arguments with
    | [] => badTest name "argument expected"
    | "!" :: rest =>
      let (a, rest) ← testOne name fuel rest
      return (!a, rest)
    | "(" :: rest =>
      let (a, rest) ← testOr name fuel rest
      match rest with
      | ")" :: rest => return (a, rest)
      | _ => badTest name "\x60)' expected"
    | a :: op :: b :: rest =>
      if testOperators.contains op then return (← testBinary name op a b, rest)
      else if isTestUnary a then return (← holdsUnary a op, b :: rest)
      else return (!a.isEmpty, op :: b :: rest)
    | [op, a] =>
      if isTestUnary op then return (← holdsUnary op a, [])
      else return (!op.isEmpty, [a])
    | [a] => return (!a.isEmpty, [])

end

/-- Whether the arguments of `test` hold; their number says how they are read. -/
def testAll (name : String) (arguments : List String) : Run Bool := do
  match arguments with
  | [] => return false
  | [a] => return !a.isEmpty
  | [a, b] => testTwo name a b
  | [a, b, c] => testThree name a b c
  | ["!", a, b, c] => return !(← testThree name a b c)
  | ["(", a, b, ")"] => testTwo name a b
  | arguments =>
    let (r, rest) ← testOr name (4 * arguments.length + 8) arguments
    if rest.isEmpty then return r else badTest name "too many arguments"

/-- The status of `test` for its arguments. -/
def test (name : String) (arguments : List String) : Run Nat := do
  if name == "[" && arguments.getLast? != some "]" then
    complain "[: missing \x60]'"
    return 2
  try
    let arguments := if name == "[" then arguments.dropLast else arguments
    return if ← testAll name arguments then 0 else 1
  catch
    | .broken status => return status
    | stop => throw stop

end SmokeTest.Shell.Run
