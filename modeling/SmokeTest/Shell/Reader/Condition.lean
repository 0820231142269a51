/-
Reading conditions between double brackets.

Main definitions:

* `Reader.condition` — a condition up to its end.
-/
import SmokeTest.Shell.Reader.Word

namespace SmokeTest.Shell.Reader

/-- The operators of conditions that stand before one operand. -/
def isUnary (s : String) : Bool :=
  match s.toList with
  | ['-', c] => "abcdefghknoprstuvwxzGLNORS".toList.contains c
  | _ => false

/-- The operators of conditions that stand between two operands. -/
def binaryOperators : List String :=
  ["==", "=~", "!=", "-eq", "-ne", "-lt", "-le", "-gt", "-ge", "-ef", "-nt", "-ot", "=", "<", ">"]

/-- The operator between two operands that stands here, if there is one. -/
def binaryOperator? (s : List Char) : Option String :=
  binaryOperators.find? fun op =>
    match Text.dropPrefix? op.toList s with
    | some (c :: _) => op.toList.head? != some '-' || c == ' ' || c == '\t'
    | _ => false

/-- The word behind an operator that has so many operands. -/
def operandOf (arity : String) : Reader Word := do
  skipBlanks
  let s ← get
  if plainWord s == "]]" then
    let message := "unexpected argument \x60]]' to conditional " ++ arity ++ " operator"
    throw (.condition message "]]" s.length)
  someWord

mutual

/-- A condition. -/
def condition : Nat → Reader Condition
  | 0 => refuse
  | fuel + 1 => do
    let first ← conjunction fuel
    skipLines
    match ← get with
    | '|' :: '|' :: rest =>
      goOn rest
      return .or first (← condition fuel)
    | _ => return first

/-- Conditions that have to hold together. -/
def conjunction : Nat → Reader Condition
  | 0 => refuse
  | fuel + 1 => do
    let first ← simpleCondition fuel
    skipLines
    match ← get with
    | '&' :: '&' :: rest =>
      goOn rest
      return .and first (← conjunction fuel)
    | _ => return first

/-- A condition without `&&` and `||` outside of brackets. -/
def simpleCondition : Nat → Reader Condition
  | 0 => refuse
  | fuel + 1 => do
    skipLines
    let s ← get
    match s with
    | '!' :: ' ' :: rest =>
      goOn rest
      return .not (← simpleCondition fuel)
    | '(' :: rest =>
      goOn rest
      let c ← condition fuel
      skipLines
      expect ")"
      return c
    | _ =>
      let operator := plainWord s
      if operator == "]]" then throw (.condition "" "]]" s.length)
      if isUnary operator then
        skip operator.length
        return .unary operator (← operandOf "unary")
      let left ← someWord
      skipBlanks
      let after ← get
      match binaryOperator? after with
      | some op =>
        skip op.length
        return .binary op left (← if op == "=~" then regexWord else operandOf "binary")
      | none =>
        if plainWord after == "]]" then return .nonempty left
        match after with
        | '&' :: '&' :: _ | '|' :: '|' :: _ | ')' :: _ | [] => return .nonempty left
        | '\n' :: _ =>
          throw (.condition "unexpected token \x60newline', conditional binary operator expected"
            (literalText left) after.length)
        | _ =>
          let token := String.ofList (after.takeWhile fun c => !isMeta c)
          throw (.condition "conditional binary operator expected" token after.length)

end

end SmokeTest.Shell.Reader
