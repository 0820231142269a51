/-
Assignments.

Main definitions:

* `Interpreter.assignOne` — carries out an assignment;
* `Interpreter.declaredFields` — the arguments of a command that declares variables.
-/
import SmokeTest.Shell.Words

namespace SmokeTest.Shell.Interpreter

open Run Builtin

/-- The commands that declare variables, whose arguments are read like assignments. -/
def declaring : List String := ["declare", "typeset", "local", "export", "readonly"]

/-- Carries out an assignment of a text to a variable or to an element of one. -/
def assignText (i : Interpreter) (name : String) (subscript : Option Word) (appending : Bool)
    (w : Word) : Run Unit := do
  let old ← binding? name
  match subscript with
  | none =>
    let t ← i.text (← withHomes w)
    match old.filter Variable.integer with
    | some v =>
      let before ← if appending then calculate ((valueText v.value).getD "") else pure 0
      assign name (numberText (before + (← calculate t)))
    | none =>
      let before := if appending then (old.bind fun v => valueText v.value).getD "" else ""
      assign name (before ++ t)
  | some sub =>
    let t ← i.text w
    let sub ← i.text sub
    match old with
    | some { value := .table es, .. } =>
      let before := if appending then (es.lookup sub).getD "" else ""
      let es := if (es.lookup sub).isSome then
          es.map fun (k, v) => if k = sub then (k, before ++ t) else (k, v)
        else (sub, t) :: es
      putVariable name (old.map fun v => { v with value := .table es })
    | _ =>
      let n ← calculate sub
      let before := if appending then (old.bind fun v => elementAt v.value n).getD "" else ""
      assignElement name n (before ++ t)

/-- The key in front of a closing bracket and the value behind it. -/
def cutKey : List Char → List Char × List Char
  | ']' :: '=' :: rest => ([], rest)
  | c :: rest =>
    let (k, v) := cutKey rest
    (c :: k, v)
  | [] => ([], [])

/-- Whether a word between the brackets of an array names its element. -/
def namesElement : Word → Bool
  | .bare s :: rest =>
    s.toList.head? == some '[' && (Text.occursIn "]=".toList s.toList || !rest.isEmpty)
  | _ => false

/-- Puts the words between the brackets of an array into it. -/
def putElements (i : Interpreter) (name : String) (ws : List Word) : Run Unit := do
  for w in ws do
    if namesElement w then
      let (key, value) := cutKey ((← i.text w).toList.drop 1)
      i.assignText name (some [.quoted (String.ofList key)]) false [.quoted (String.ofList value)]
    else
      for t in ← i.wordFields w do
        let next := match (← binding? name).map Variable.value with
          | some (.array es) => (es.getLast?.map fun (n, _) => n + 1).getD 0
          | _ => 0
        assignElement name next t

/-- Carries out an assignment. -/
def assignOne (i : Interpreter) (a : Assignment) : Run Unit := do
  match a.value with
  | .scalar w => i.assignText a.name a.subscript a.appending w
  | .array ws =>
    let old ← binding? a.name
    let isTable := old.any fun v => match v.value with
      | .table _ => true
      | _ => false
    let kept := if a.appending then old.map Variable.value else none
    if isTable then
      putVariable a.name (old.map fun v => { v with value := kept.getD (.table []) })
    else
      let value : Value := match kept with
        | some (.array es) => .array es
        | some (.scalar s) => .array [(0, s)]
        | _ => .array []
      putVariable a.name (some { (old.getD { value := .scalar "" }) with value })
    i.putElements a.name ws

/-- The arguments of a command that declares variables: what looks like an assignment is not split.
-/
def declaredFields (i : Interpreter) (ws : List Word) : Run (List String) := do
  let found ← ws.mapM fun w => do
    match w with
    | .bare s :: _ =>
      let name := s.toList.takeWhile Reader.isNameRest
      let after := s.toList.drop name.length
      if Reader.isName name && (after.head? == some '=' || after.take 2 == ['+', '=']) then
        return [← i.text w]
      else i.wordFields w
    | w => i.wordFields w
  return found.flatten

end SmokeTest.Shell.Interpreter
