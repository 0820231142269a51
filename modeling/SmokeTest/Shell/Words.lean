/-
What words become when commands are run.

Main definitions:

* `Interpreter.fields` — the fields that words become;
* `Interpreter.text` — the text of a word that is not split.

Design notes: an expansion may hold words of its own, which are read only when they are needed, so
the definitions count down how deep they are nested. A text that cannot be expanded ends the line
that it is in.
-/
import SmokeTest.Shell.Expansion
import SmokeTest.Shell.Interpreter

namespace SmokeTest.Shell.Interpreter

open Run Builtin

mutual

/-- The fields behind the parts of a word. -/
def partsIn (i : Interpreter) : Nat → (split : Bool) → Word → Fields → Run Fields
  | 0, _, _, _ => throw .exhausted
  | _, _, [], f => return f
  | fuel + 1, split, p :: rest, f => do
    let f ← match p with
      | .bare s => pure (f.add (lettersOf true s))
      | .quoted s => pure (f.begun.add (lettersOf false s))
      | .parameter source quoted =>
        match Expansion.read? source with
        | some e => addGiven quoted split (← expansion i fuel quoted e) f
        | none =>
          complain s!"$\x7b{source}\x7d: bad substitution"
          throw (.broken 1)
      | .substitution source quoted =>
        addGiven quoted split (.one (← substitution i fuel source)) f
      | .arithmetic source quoted =>
        let n ← calculate (← quotedIn i fuel (String.ofList (source.toList.filter (· != '"'))))
        addGiven quoted split (.one (numberText n)) f
      | .process source =>
        let bytes ← i.output source
        let n := 63 - (← outside).made
        let place := ["dev", "fd", Text.decimal n]
        changeOutside fun o =>
          { o with made := o.made + 1, files := o.files.create place (.file bytes) }
        pure (f.add (lettersOf false (pathOf place)))
    partsIn i fuel split rest f

/-- The letters of a word that is not split. -/
def lettersIn (i : Interpreter) : Nat → Word → Run (List Letter)
  | 0, _ => throw .exhausted
  | fuel + 1, w => do
    let f ← partsIn i fuel false (← withHome w) {}
    return f.toList.flatten

/-- The text of a word that is not split. -/
def textIn (i : Interpreter) : Nat → Word → Run String
  | 0, _ => throw .exhausted
  | fuel + 1, w => do return textOf (← lettersIn i fuel w)

/-- The text that something written inside double quotes becomes. -/
def quotedIn (i : Interpreter) : Nat → String → Run String
  | 0, _ => throw .exhausted
  | fuel + 1, source => do
    match readQuoted source with
    | .ok w => textIn i fuel w
    | .error _ => throw (.broken 1)

/-- The letters that the operand of an operation becomes. -/
def operand (i : Interpreter) : Nat → (quoted : Bool) → String → Run (List Letter)
  | 0, _, _ => throw .exhausted
  | fuel + 1, quoted, source => do
    match (if quoted then readQuoted source else readOperand source) with
    | .ok w => lettersIn i fuel w
    | .error _ => throw (.broken 1)

/-- What a parameter or an element of one gives. -/
def reference (i : Interpreter) : Nat → Reference → Run Given
  | 0, _ => throw .exhausted
  | fuel + 1, r => do
    match r.subscript with
    | none => parameter r.name
    | some "@" => return .many (← elements r.name) false
    | some "*" => return .many (← elements r.name) true
    | some sub =>
      let sub ← quotedIn i fuel sub
      let found ← match (← binding? r.name).map Variable.value with
        | some (.table es) => pure (es.lookup sub)
        | some v =>
          let i ← calculate sub
          pure (elementAt v i)
        | none =>
          let i ← calculate sub
          if r.name == "PIPESTATUS" then pure ((← elements r.name)[i.toNat]?)
          else if i = 0 then pure ((← parameter r.name).asOption)
          else pure none
      return match found with
        | some t => .one t
        | none => .nothing

/-- What an expansion gives. -/
def expansion (i : Interpreter) : Nat → (quoted : Bool) → Expansion → Run Given
  | 0, _, _ => throw .exhausted
  | fuel + 1, quoted, e => do
    let r ← if e.indirect then
        let name := (← reference i fuel e.reference).text " "
        match Expansion.reference? name.toList with
        | some (r, []) => pure r
        | _ =>
          complain s!"{e.reference.name}: invalid indirect expansion"
          throw (.broken 1)
      else pure e.reference
    let g ← reference i fuel r
    let tolerant := match e.operation with
      | .instead .. | .keys | .names => true
      | _ => r.name == "@" || r.name == "*" || r.subscript == some "@" || r.subscript == some "*"
    if !g.isSet && !tolerant && (← hasOption "nounset") then
      let dollar := if r.name.toList.all Char.isDigit then "$" else ""
      let sub := match r.subscript with
        | some s => s!"[{s}]"
        | none => ""
      complain s!"{dollar}{r.name}{sub}: unbound variable"
      throw (.exit (← fatalStatus))
    operated i fuel quoted r g e.operation

/-- What an operation makes of what a parameter gives. -/
def operated (i : Interpreter) : Nat → (quoted : Bool) → Reference → Given → Operation → Run Given
  | 0, _, _, _, _ => throw .exhausted
  | fuel + 1, quoted, r, g, o => do
    let onChars (f : List Char → List Char) : Given :=
      g.map fun s => String.ofList (f s.toList)
    match o with
    | .value => return g
    | .length =>
      let n := match g with
        | .many texts _ => texts.length
        | g => (toBytes (g.text " ")).length
      return .one (Text.decimal n)
    | .keys => return .many (← elementKeys r.name) (r.subscript == some "*")
    | .names =>
      let names := (← shell).bindings.map Prod.fst
      let fitting := names.filter fun n => r.name.toList.isPrefixOf n.toList
      return .many (fitting.mergeSort fun a b => a < b || a = b) false
    | .instead sign colon word =>
      let present := g.isSet && !(colon && g.isNull)
      match sign with
      | '+' => if present then return .letters (← operand i fuel quoted word) else return .nothing
      | '-' => if present then return g else return .letters (← operand i fuel quoted word)
      | '=' =>
        if present then return g
        let t := textOf (← operand i fuel quoted word)
        assign r.name t
        return .one t
      | _ =>
        if present then return g
        let t := textOf (← operand i fuel quoted word)
        let t := if word.isEmpty then
            if colon then "parameter null or not set" else "parameter not set"
          else t
        complain s!"{r.name}: {t}"
        throw (.exit (← fatalStatus))
    | .trim back longest pattern =>
      let p := Glob.ofWord (← operand i fuel false pattern)
      return onChars (trimmed back longest p)
    | .replace anchor pattern replacement =>
      let p := Glob.ofWord (← operand i fuel false pattern)
      let replacement ← operand i fuel false replacement
      let put (found : List Char) : List Char := replacement.flatMap fun l =>
        if l.active && l.char == '&' then found else [l.char]
      return if pattern.isEmpty then g else onChars (replaced anchor p put)
    | .slice offset length =>
      if !g.isSet then return g
      let start ← calculateFor r.name (← quotedIn i fuel offset)
      let length ← length.mapM fun l => do calculateFor r.name (← quotedIn i fuel l)
      match g with
      | .many texts joined =>
        let positional := r.name == "@" || r.name == "*"
        let all ← if positional then pure ((← shell).zero :: texts) else pure texts
        return .many (slice start length all) joined
      | g => return .one (String.ofList (slice start length (g.text " ").toList))
    | .letters upper all => return onChars (relettered upper all)
    | .form c =>
      return match c with
        | 'Q' => onChars quotedText
        | 'U' => onChars (relettered true true)
        | 'u' => onChars (relettered true false)
        | 'L' => onChars (relettered false true)
        | _ => g

/-- The text that takes the place of commands: what they write, without line ends behind it. -/
def substitution (i : Interpreter) : Nat → String → Run String
  | 0, _ => throw .exhausted
  | fuel + 1, text => do
    let bytes ← match readCommands 1 text.toList with
      | .ok (.sequence [.redirected (.simple _ [] []) [{ kind := .read, target, .. }]], []) =>
        match ← openToRead (← textIn i fuel target) with
        | .ok (.input n) => pure (((← outside).sources[n]?).map Source.bytes |>.getD [])
        | .ok _ => pure []
        | .error e =>
          complain e
          change fun s => { s with substituted := some 1 }
          pure []
      | _ => i.output text
    let kept := bytes.filter (· != 0)
    return ofBytes (kept.reverse.dropWhile (· == 10)).reverse

end

/-- The letters of a word that is not split. -/
def letters (i : Interpreter) (w : Word) : Run (List Letter) := i.lettersIn i.fuel w

/-- The text of a word that is not split. -/
def text (i : Interpreter) (w : Word) : Run String := i.textIn i.fuel w

/-- The text that something written inside double quotes becomes. -/
def quotedWord (i : Interpreter) (source : String) : Run String := i.quotedIn i.fuel source

/-- The fields that a word becomes. -/
def wordFields (i : Interpreter) (w : Word) : Run (List String) := do
  let found ← (braceWords w).mapM fun w => do
    let f ← i.partsIn i.fuel true (← withHome w) {}
    if ← hasOption "noglob" then return f.toList.map textOf
    let files := (← outside).files
    let s ← shell
    let style : PathStyle :=
      { orNothing := s.options.contains "nullglob", hidden := s.options.contains "dotglob"
        anyCase := s.options.contains "nocaseglob" }
    return f.toList.flatMap (expandPaths style files s.directory)
  return found.flatten

/-- The fields that words become. -/
def fields (i : Interpreter) (ws : List Word) : Run (List String) := do
  return (← ws.mapM i.wordFields).flatten

end SmokeTest.Shell.Interpreter
