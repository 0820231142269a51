/-
Commands of the shell that declare and remove variables, and that set options.
-/
import SmokeTest.Shell.Calculation
import SmokeTest.Shell.Reader

namespace SmokeTest.Shell.Builtin

open Run

/-- A name and what is assigned to it by an argument. -/
def assignment (a : String) : String × Option (Bool × String) :=
  match Text.cut '=' a.toList with
  | some (name, value) =>
    match name.reverse with
    | '+' :: front => (String.ofList front.reverse, some (true, String.ofList value))
    | _ => (String.ofList name, some (false, String.ofList value))
  | none => (a, none)

/-- A variable that is made local to the function that is run. -/
def makeLocal (name : String) : Run Unit := do
  let old ← binding? name
  change fun s =>
    match s.frames with
    | frame :: rest =>
      if frame.any (·.1 == name) then s
      else { s with frames := ((name, old) :: frame) :: rest }
    | [] => s

/-- A value as a declaration writes it. -/
def declaredText : Value → String
  | .scalar s => "=" ++ inQuotes s
  | .array elements =>
    let each := elements.map fun (i, s) => s!"[{Text.decimal i}]={inQuotes s}"
    "=(" ++ " ".intercalate each ++ ")"
  | .table elements =>
    let each := elements.map fun (k, s) => s!"[{k}]={inQuotes s} "
    "=(" ++ String.join each ++ ")"
where
  /-- A text between double quotes. -/
  inQuotes (s : String) : String :=
    String.ofList ('"' :: (s.toList.flatMap fun c =>
      if ['"', '$', '\\', '\x60'].contains c then ['\\', c] else [c]) ++ ['"'])

/-- A variable as a declaration writes it. -/
def declaration (name : String) (v : Variable) : String :=
  let kind := match v.value with
    | .scalar _ => ""
    | .array _ => "a"
    | .table _ => "A"
  let letters := kind ++ (if v.integer then "i" else "") ++ (if v.constant then "r" else "") ++
    (if v.exported then "x" else "")
  let letters := if letters.isEmpty then "-" else letters
  s!"declare -{letters} {name}{declaredText v.value}\n"

/-- Shows variables: the given ones, or all that are exported or constant as is asked for. -/
def showDeclared (name : String) (exported constant : Bool) (names : List String) : Run Nat := do
  let bindings := (← shell).bindings
  if names.isEmpty then
    let fitting := bindings.filter fun (n, v) =>
      Reader.isName n.toList && (!exported || v.exported) && (!constant || v.constant)
    let sorted := fitting.mergeSort fun a b => a.1 < b.1 || a.1 = b.1
    let _ ← write 1 (String.join (sorted.map fun (n, v) => declaration n v))
    return 0
  let mut status := 0
  for n in names do
    match bindings.lookup n with
    | some v => let _ ← write 1 (declaration n v)
    | none =>
      complain s!"{name}: {n}: not found"
      status := 1
  return status

/-- Declares variables: by the letters of options, the way it is done. -/
def declare (name : String) (isLocal : Bool) (arguments : List String) : Run Nat := do
  let arguments := arguments.filter (· != "--")
  let (options, operands) := arguments.partition fun a =>
    a.toList.head? == some '-' || (a.toList.head? == some '+' && 1 < a.length)
  let on (c : Char) : Bool := options.any fun o => o.toList.head? == some '-' && o.toList.contains c
  let off (c : Char) : Bool :=
    options.any fun o => o.toList.head? == some '+' && o.toList.contains c
  if on 'p' || operands.isEmpty then return ← showDeclared name (on 'x') (on 'r') operands
  if on 'f' || on 'F' then
    let known := (← shell).functions.map Prod.fst
    return if operands.all known.contains then 0 else 1
  let converted : Value → Value
    | .scalar s =>
      if on 'A' then .table [] else if on 'a' then .array (if s.isEmpty then [] else [(0, s)])
      else .scalar s
    | value => value
  let mut status := 0
  for a in operands do
    let (target, given) := assignment a
    if !Reader.isName target.toList then
      complain s!"{name}: \x60{a}': not a valid identifier"
      status := 1
      continue
    if isLocal && !on 'g' then makeLocal target
    let old ← binding? target
    match old with
    | some v =>
      if v.constant && given.isSome then
        let speaker := if name == "export" then "" else name ++ ": "
        complain s!"{speaker}{target}: readonly variable"
        status := 1
        continue
    | none => pure ()
    let fresh : Value := if on 'A' then .table [] else if on 'a' then .array [] else .scalar ""
    let base : Variable := match old with
      | some v => if isLocal && given.isNone && options.isEmpty then { value := fresh } else v
      | none => { value := fresh }
    let base := if given.isNone then { base with value := converted base.value } else base
    let oldText := (valueText base.value).getD ""
    let integer := (base.integer || on 'i') && !off 'i'
    let text ← match given with
      | some (appending, value) =>
        if integer then
          let old ← if appending then calculate oldText else pure 0
          pure (some (numberText (wrap (old + (← calculateFor name value)))))
        else pure (some (if appending then oldText ++ value else value))
      | none => pure none
    let value := match text with
      | some t => Value.scalar t
      | none => base.value
    let skipped := old.isNone && given.isNone && !isLocal && !on 'A' && !on 'a'
    putVariable target (some {
      value := value
      exported := (base.exported || on 'x') && !off 'x'
      constant := base.constant || on 'r'
      integer := integer })
    if skipped && !on 'x' && !on 'r' && !on 'i' then putVariable target none
  return status

/-- Removes variables and functions. -/
def unset (arguments : List String) : Run Nat := do
  let functions := arguments.contains "-f"
  let mut status := 0
  for a in arguments.filter fun a => a.toList.head? != some '-' do
    match Text.cut '[' a.toList with
    | some (name, sub) =>
      let name := String.ofList name
      match ← binding? name with
      | some v =>
        match v.value with
        | .array elements =>
          let i ← calculate (String.ofList sub.dropLast)
          let value := Value.array (elements.filter fun (j, _) => (j : Int) != i)
          putVariable name (some { v with value })
        | .table elements =>
          let value := Value.table (elements.filter (·.1 != String.ofList sub.dropLast))
          putVariable name (some { v with value })
        | .scalar _ => pure ()
      | none => pure ()
    | none =>
      match ← binding? a with
      | some v =>
        if functions then change fun s => { s with functions := s.functions.filter (·.1 != a) }
        else if v.constant then
          complain s!"unset: {a}: cannot unset: readonly variable"
          status := 1
        else putVariable a none
      | none => change fun s => { s with functions := s.functions.filter (·.1 != a) }
  return status

/-- The names of options by their letters. -/
def optionNames : List (Char × String) :=
  [('e', "errexit"), ('u', "nounset"), ('f', "noglob"), ('x', "xtrace"), ('a', "allexport"),
    ('n', "noexec"), ('v', "verbose"), ('C', "noclobber"), ('b', "notify"), ('h', "hashall"),
    ('m', "monitor"), ('E', "errtrace"), ('B', "braceexpand"), ('H', "histexpand"), ('k', "keyword"),
    ('p', "privileged"), ('t', "onecmd"), ('P', "physical"), ('T', "functrace")]

/-- The options that have no letter. -/
def longNames : List String :=
  ["pipefail", "posix", "emacs", "vi", "history", "ignoreeof", "interactive-comments", "nolog"]

/-- Turns an option with a long name on or off; says whether there is such an option. -/
def setNamed (name : String) (on : Bool) : Run Bool := do
  let known := (optionNames.map Prod.snd).contains name || longNames.contains name
  if known then setOption name on
  else complain s!"set: {name}: invalid option name"
  return known

/-- Sets options and positional parameters. -/
def set : Nat → List String → Run Nat
  | 0, _ => return 0
  | fuel + 1, arguments => do
    match arguments with
    | [] => return 0
    | "--" :: rest =>
      change fun s => { s with positional := rest }
      return 0
    | a :: rest =>
      match a.toList with
      | sign :: 'o' :: [] =>
        if (sign == '-' || sign == '+') && !rest.isEmpty then
          if ← setNamed (rest.head?.getD "") (sign == '-') then set fuel (rest.drop 1) else return 2
        else
          change fun s => { s with positional := a :: rest }
          return 0
      | sign :: c :: letters =>
        if sign == '-' || sign == '+' then
          for letter in c :: letters do
            match optionNames.lookup letter with
            | some name => setOption name (sign == '-')
            | none =>
              if letter == 'o' then
                if !(← setNamed (rest.head?.getD "") (sign == '-')) then return 2
              else
                complain s!"set: {sign}{letter}: invalid option"
                let _ ← write 2
                  "set: usage: set [-abefhkmnptuvxBCEHPT] [-o option-name] [--] [-] [arg ...]\n"
                return 2
          set fuel (if (c :: letters).contains 'o' then rest.drop 1 else rest)
        else
          change fun s => { s with positional := a :: rest }
          return 0
      | _ =>
        change fun s => { s with positional := a :: rest }
        return 0

/-- The options of `shopt` that are on from the start. -/
def usualShellOptions : List String :=
  ["checkwinsize", "cmdhist", "complete_fullquote", "extquote", "force_fignore", "globasciiranges",
    "globskipdots", "hostcomplete", "interactive_comments", "patsub_replacement", "progcomp",
    "promptvars", "sourcepath"]

/-- The other options of `shopt`. -/
def otherShellOptions : List String :=
  ["autocd", "assoc_expand_once", "cdable_vars", "cdspell", "checkhash", "checkjobs", "compat31",
    "compat32", "compat40", "compat41", "compat42", "compat43", "compat44", "direxpand", "dirspell",
    "dotglob", "execfail", "expand_aliases", "extdebug", "extglob", "failglob", "globstar",
    "gnu_errfmt", "histappend", "histreedit", "histverify", "huponexit", "inherit_errexit",
    "lastpipe", "lithist", "localvar_inherit", "localvar_unset", "login_shell", "mailwarn",
    "no_empty_cmd_completion", "nocaseglob", "nocasematch", "noexpand_translation", "nullglob",
    "progcomp_alias", "restricted_shell", "shift_verbose", "varredir_close", "xpg_echo"]

/-- Turns options of the shell on or off, or shows them. An option that is on from the start is kept
by the name of its opposite. -/
def shopt (arguments : List String) : Run Nat := do
  let (flags, names) := arguments.partition fun a => a.toList.head? == some '-'
  let has (c : Char) : Bool := flags.any fun f => f.toList.contains c
  let mut status := 0
  for n in names do
    let usual := usualShellOptions.contains n
    let key := if usual then "no " ++ n else n
    if !usual && !otherShellOptions.contains n then
      complain s!"shopt: {n}: invalid shell option name"
      status := 1
    else if has 's' then setOption key (!usual)
    else if has 'u' then setOption key usual
    else
      let on := (← hasOption key) != usual
      if !on then status := 1
      if !has 'q' then
        let _ ← write 1 (n ++ (String.ofList (List.replicate (15 - n.length) ' ')) ++ "\t" ++
          (if on then "on" else "off") ++ "\n")
  return status

end SmokeTest.Shell.Builtin
