/-
Arithmetic expressions of the shell.

Main definitions:

* `Expression` — expressions with variables and assignments;
* `Mistake` — why a text is no expression;
* `Expression.read` — the expression that a text is;
* `wrap` — the number that 64 bits hold.
-/
import SmokeTest.Text.Numeral

namespace SmokeTest.Shell

/-- How many numbers 64 bits can hold. -/
def wordCount : Nat := Nat.pow 2 64

/-- The number that 64 bits with a sign hold. -/
def wrap (n : Int) : Int := Int.bmod n wordCount

/-- An arithmetic expression. -/
inductive Expression
  | number (n : Int)
  | scalar (name : String)
  | element (name : String) (subscript : Expression)
  | unary (operator : String) (e : Expression)
  /-- What is written behind the operator is kept for complaints. -/
  | binary (operator : String) (a b : Expression) (behind : String)
  | choice (c a b : Expression)
  /-- Assigns to a variable, by an operator if there is one. -/
  | assign (target : Expression) (operator : Option String) (e : Expression) (behind : String)
  /-- Changes a variable by a number; its value is the one before or the one after. -/
  | change (target : Expression) (amount : Int) (after : Bool)
  deriving DecidableEq, Repr, Inhabited

/-- Why a text is no expression. -/
inductive Mistake.Cause
  | noOperand
  | noOperator
  | leftOver
  | tooGreat
  | badBase
  | badNumber
  | noColon
  | noTarget
  | unclosed
  | badSubscript
  deriving DecidableEq, Repr, Inhabited

/-- What is said about a mistake. -/
def Mistake.Cause.message : Mistake.Cause → String
  | noOperand => "syntax error: operand expected"
  | noOperator => "syntax error: invalid arithmetic operator"
  | leftOver => "syntax error in expression"
  | tooGreat => "value too great for base"
  | badBase => "invalid arithmetic base"
  | badNumber => "invalid integer constant"
  | noColon => "\x60:' expected for conditional expression"
  | noTarget => "attempted assignment to non-variable"
  | unclosed => "missing \x60)'"
  | badSubscript => "bad array subscript"

/-- What is wrong with a text that should be an expression, and from where on. -/
structure Mistake where
  cause : Mistake.Cause
  token : List Char
  deriving DecidableEq, Repr, Inhabited

namespace Expression

/-- The operators between two operands, with their strength. -/
def operators : List (String × Nat) :=
  [("**", 13), ("*", 12), ("/", 12), ("%", 12), ("+", 11), ("-", 11), ("<<", 10), (">>", 10),
    ("<=", 9), (">=", 9), ("<", 9), (">", 9), ("==", 8), ("!=", 8), ("&&", 4), ("||", 3),
    ("&", 7), ("^", 6), ("|", 5), (",", 0)]

/-- The operators that can be joined with an assignment. -/
def assigning : List String := ["*", "/", "%", "+", "-", "<<", ">>", "&", "^", "|"]

/-- The text without the blanks it begins with. -/
def trim (s : List Char) : List Char :=
  s.dropWhile fun c => c == ' ' || c == '\t' || c == '\n'

/-- What follows the first text in the second. -/
def after? : (t s : List Char) → Option (List Char)
  | [], s => some s
  | _ :: _, [] => none
  | a :: t, b :: s => if a == b then after? t s else none

/-- The value of a digit of a base up to sixty-four; up to thirty-six, capital letters are the same
as small ones. -/
def digitOf? (base : Nat) (c : Char) : Option Nat :=
  if c.isDigit then some (c.toNat - '0'.toNat)
  else if c.isLower then some (c.toNat - 'a'.toNat + 10)
  else if c.isUpper then some (c.toNat - 'A'.toNat + if base ≤ 36 then 10 else 36)
  else if c == '@' then some 62
  else if c == '_' then some 63
  else none

/-- The number that digits of a base write. -/
def inBase (base : Nat) (token : List Char) : Int → List Char → Except Mistake Int
  | acc, [] => .ok (wrap acc)
  | acc, c :: rest =>
    match (digitOf? base c).filter (· < base) with
    | some d => inBase base token (acc * base + d) rest
    | none => .error ⟨.tooGreat, token⟩

/-- The number that a text with letters and digits writes. -/
def literal (s : List Char) : Except Mistake Int :=
  match s with
  | '0' :: 'x' :: d | '0' :: 'X' :: d => inBase 16 s 0 d
  | '0' :: d =>
    if d.contains '#' then .error ⟨.badBase, s⟩ else inBase 8 s 0 d
  | s =>
    let base := s.takeWhile (· != '#')
    match s.drop base.length with
    | '#' :: d =>
      match Text.readDigits? 10 base with
      | some b =>
        if b < 2 || 64 < b then .error ⟨.badBase, s⟩
        else if d.isEmpty then .error ⟨.badNumber, s⟩
        else inBase b s 0 d
      | none => .error ⟨.tooGreat, s⟩
    | _ => inBase 10 s 0 s

/-- The operator between two operands that the text begins with. -/
def operator? (s : List Char) : Option (String × Nat × List Char) :=
  operators.findSome? fun (op, strength) =>
    match after? op.toList s with
    | some rest =>
      let assigns := rest.head? == some '=' && assigning.contains op && rest[1]? != some '='
      let longer := (op == "&" && rest.head? == some '&') || (op == "|" && rest.head? == some '|')
      if assigns || longer then none else some (op, strength, rest)
    | none => none

/-- Whether an expression can be assigned to. -/
def isTarget : Expression → Bool
  | scalar _ | element .. => true
  | _ => false

/-- The assignment that the text begins with: its operator and the rest. -/
def assignment? (s : List Char) : Option (Option String × List Char) :=
  match s with
  | '=' :: '=' :: _ => none
  | '=' :: rest => some (none, rest)
  | s =>
    assigning.findSome? fun op =>
      match after? op.toList s with
      | some ('=' :: '=' :: _) => none
      | some ('=' :: rest) => some (some op, rest)
      | _ => none

/-- What is wrong where an operand is missing: the text from there on, or from the last token on. -/
def noOperand (last s : List Char) : Mistake :=
  ⟨.noOperand, if s.isEmpty then last else s⟩

/-- What is wrong where a text goes on behind an expression. -/
def leftOver (s : List Char) : Mistake :=
  match s with
  | c :: _ =>
    let known := c.isAlphanum || "_+-*/%<>=!&|^~?:,()".toList.contains c
    ⟨if known then .leftOver else .noOperator, s⟩
  | [] => ⟨.leftOver, s⟩

mutual

/-- An expression whose operators are at least of the given strength, behind the text of the last
token. -/
def expression : Nat → Nat → (last s : List Char) → Except Mistake (Expression × List Char)
  | 0, _, _, s => .error ⟨.leftOver, s⟩
  | fuel + 1, strength, last, s => do
    let (first, rest) ← operand fuel last (trim s)
    expressionRest fuel strength first rest

/-- What follows an operand. -/
def expressionRest : Nat → Nat → Expression → List Char → Except Mistake (Expression × List Char)
  | 0, _, _, s => .error ⟨.leftOver, s⟩
  | fuel + 1, strength, first, s =>
    let s := trim s
    match (if strength ≤ 1 then assignment? s else none) with
    | some (op, rest) =>
      if !first.isTarget then .error ⟨.noTarget, s⟩
      else do
        let (e, after) ← expression fuel 1 s rest
        expressionRest fuel strength (.assign first op e (String.ofList (trim rest))) after
    | none =>
      match s with
      | '?' :: rest =>
        if strength ≤ 2 then do
          let (a, rest) ← expression fuel 0 s rest
          match trim rest with
          | ':' :: rest =>
            let (b, rest) ← expression fuel 2 (':' :: rest) rest
            expressionRest fuel strength (.choice first a b) rest
          | [] => .error ⟨.noColon, lastToken s⟩
          | rest => .error ⟨.noColon, rest⟩
        else .ok (first, s)
      | s =>
        match operator? s with
        | some (op, own, rest) =>
          if own < strength then .ok (first, s)
          else do
            let (e, after) ← expression fuel (if op == "**" then own else own + 1) s rest
            expressionRest fuel strength (.binary op first e (String.ofList (trim rest))) after
        | none => .ok (first, s)
where
  /-- The last word of a text, which its last token is part of. -/
  lastToken (s : List Char) : List Char :=
    (s.reverse.takeWhile fun c => c.isAlphanum).reverse

/-- An operand with the signs before and behind it. -/
def operand : Nat → (last s : List Char) → Except Mistake (Expression × List Char)
  | 0, _, s => .error ⟨.leftOver, s⟩
  | fuel + 1, last, s =>
    match s with
    | '+' :: '+' :: rest => changed fuel 1 s rest '+'
    | '-' :: '-' :: rest => changed fuel (-1) s rest '-'
    | '(' :: rest => do
      let (e, rest) ← expression fuel 0 s rest
      match trim rest with
      | ')' :: rest => .ok (e, rest)
      | rest => .error ⟨.unclosed, rest⟩
    | c :: rest =>
      if ['!', '~', '-', '+'].contains c then do
        let (e, rest) ← operand fuel s (trim rest)
        .ok (.unary (String.singleton c) e, rest)
      else if c.isDigit then
        let digits := s.takeWhile fun c => c.isAlphanum || c == '#' || c == '_' || c == '@'
        (literal digits).map fun n => (.number n, s.drop digits.length)
      else if c.isAlpha || c == '_' then
        let name := s.takeWhile fun c => c.isAlphanum || c == '_'
        named fuel (String.ofList name) s (s.drop name.length)
      else .error (noOperand last s)
    | [] => .error (noOperand last s)

/-- A variable or an element, with a change behind it. -/
def named : Nat → String → (whole s : List Char) → Except Mistake (Expression × List Char)
  | 0, _, _, s => .error ⟨.leftOver, s⟩
  | fuel + 1, name, whole, s => do
    let (target, rest) ←
      match s with
      | '[' :: rest =>
        match expression fuel 0 s rest with
        | .ok (i, rest) =>
          match trim rest with
          | ']' :: rest => pure (Expression.element name i, rest)
          | _ => .error ⟨.badSubscript, whole⟩
        | .error e => .error (if rest.contains ']' then e else ⟨.badSubscript, whole⟩)
      | s => pure (.scalar name, s)
    match trim rest with
    | '+' :: '+' :: rest => return (.change target 1 false, rest)
    | '-' :: '-' :: rest => return (.change target (-1) false, rest)
    | rest => return (target, rest)

/-- An operand behind a doubled sign, which is a change only before a variable. -/
def changed : Nat → Int → (last s : List Char) → Char → Except Mistake (Expression × List Char)
  | 0, _, _, s, _ => .error ⟨.leftOver, s⟩
  | fuel + 1, n, last, s, sign => do
    let (e, rest) ← operand fuel last (trim s)
    if e.isTarget then return (.change e n true, rest)
    else
      let once (e : Expression) : Expression := .unary (String.singleton sign) e
      return (once (once e), rest)

end

/-- The expression that a text is; nothing at all is zero. -/
def read (text : String) : Except Mistake Expression :=
  let s := trim text.toList
  if s.isEmpty then .ok (.number 0)
  else
    match expression (4 * s.length + 16) 0 s s with
    | .ok (e, rest) => if (trim rest).isEmpty then .ok e else .error (leftOver (trim rest))
    | .error m => .error m

end Expression

/-- The value of an operator between two numbers; none for a division by zero or a negative power.
-/
def applyOperator? (operator : String) (a b : Int) : Option Int :=
  let truth (p : Bool) : Int := if p then 1 else 0
  match operator with
  | "+" => some (wrap (a + b))
  | "-" => some (wrap (a - b))
  | "*" => some (wrap (a * b))
  | "/" => if b = 0 then none else some (wrap (Int.tdiv a b))
  | "%" => if b = 0 then none else some (wrap (Int.tmod a b))
  | "**" => if b < 0 then none else some (power a b.toNat 1)
  | "<<" => some (wrap (a * (Nat.pow 2 (b % 64).toNat : Nat)))
  | ">>" => some (Int.fdiv a (Nat.pow 2 (b % 64).toNat : Nat))
  | "<" => some (truth (a < b))
  | ">" => some (truth (b < a))
  | "<=" => some (truth (a ≤ b))
  | ">=" => some (truth (b ≤ a))
  | "==" => some (truth (a = b))
  | "!=" => some (truth (a ≠ b))
  | "&" => some (bits (· &&& ·))
  | "^" => some (bits (· ^^^ ·))
  | "|" => some (bits (· ||| ·))
  | "," => some b
  | _ => none
where
  /-- A combination of the bits of both numbers. -/
  bits (f : UInt64 → UInt64 → UInt64) : Int :=
    wrap (f (UInt64.ofInt a) (UInt64.ofInt b)).toNat
  /-- A power that wraps. -/
  power (a : Int) : Nat → Int → Int
    | 0, r => r
    | n + 1, r => power a n (wrap (r * a))

/-- The value of a sign before a number. -/
def applySign (operator : String) (a : Int) : Int :=
  match operator with
  | "-" => wrap (-a)
  | "~" => wrap (-a - 1)
  | "!" => if a = 0 then 1 else 0
  | _ => a

end SmokeTest.Shell
