/-
Formats of `printf`.

Main definitions:

* `Directive` — a conversion with its flags, width and precision;
* `formatAll` — what a format makes of its arguments, again and again until they are used up.

Design notes: numbers are exact. A fraction is rounded to the places that are asked for, a half to
the even neighbour.
-/
import SmokeTest.Shell.Arithmetic
import SmokeTest.Shell.Escape

namespace SmokeTest.Shell.Format

/-- A conversion. -/
structure Conversion where
  flags : List Char := []
  width : Option Nat := none
  precision : Option Nat := none
  letter : Char
  deriving DecidableEq, Repr, Inhabited

/-- What has come of a format so far. -/
structure Written where
  text : List Char := []
  /-- What was wrong with arguments. -/
  complaints : List String := []
  /-- Nothing more may be written. -/
  ended : Bool := false
  deriving Inhabited

/-- Some text behind what has been written. -/
def Written.add (w : Written) (text : List Char) : Written :=
  { w with text := w.text ++ text }

/-- A text with blanks or zeros up to the width of a conversion. -/
def pad (c : Conversion) (zeros : Bool) (s : List Char) : List Char :=
  let missing := (c.width.getD 0) - s.length
  if c.flags.contains '-' then s ++ List.replicate missing ' '
  else if zeros && c.flags.contains '0' then
    match s with
    | '-' :: rest => '-' :: List.replicate missing '0' ++ rest
    | '+' :: rest => '+' :: List.replicate missing '0' ++ rest
    | s => List.replicate missing '0' ++ s
  else List.replicate missing ' ' ++ s

/-- The sign before a number. -/
def signText (c : Conversion) (negative : Bool) : List Char :=
  if negative then ['-']
  else if c.flags.contains '+' then ['+']
  else if c.flags.contains ' ' then [' ']
  else []

/-- A whole number in a conversion. -/
def wholeText (c : Conversion) (n : Int) : List Char :=
  let word := (wrap n % wordCount).toNat
  let unsigned (base : Nat) : List Char := Nat.toDigits base word
  let (sign, digits) := match c.letter with
    | 'd' | 'i' => (signText c (n < 0), Nat.toDigits 10 n.natAbs)
    | 'o' => (if c.flags.contains '#' then ['0'] else [], unsigned 8)
    | 'x' => (if c.flags.contains '#' && word != 0 then ['0', 'x'] else [], unsigned 16)
    | 'X' =>
      (if c.flags.contains '#' && word != 0 then ['0', 'X'] else [],
        (unsigned 16).map Char.toUpper)
    | _ => ([], unsigned 10)
  let least := c.precision.getD 0
  let digits := List.replicate (least - digits.length) '0' ++ digits
  pad c c.precision.isNone (sign ++ digits)

/-- Numbers with a greater power of ten than this one are not told from zero and infinity. -/
def greatestPower : Nat := 4932

/-- A decimal number: its sign, digits and the number of places behind the point. -/
def decimal? (s : List Char) : Option (Bool × Nat × Nat) := do
  let (negative, s) := match s with
    | '-' :: rest => (true, rest)
    | '+' :: rest => (false, rest)
    | s => (false, s)
  let whole := s.takeWhile Char.isDigit
  let (fraction, rest) := match s.drop whole.length with
    | '.' :: rest => (rest.takeWhile Char.isDigit, rest.dropWhile Char.isDigit)
    | rest => ([], rest)
  if whole.isEmpty && fraction.isEmpty then none
  let digits ← Text.digitsValue? 10 0 (whole ++ fraction)
  match rest with
  | [] => some (negative, digits, fraction.length)
  | e :: rest =>
    if e != 'e' && e != 'E' then none
    match rest with
    | '-' :: d =>
      let power ← Text.readDigits? 10 d
      if greatestPower < power then some (negative, 0, 0)
      else some (negative, digits, fraction.length + power)
    | '+' :: d | d =>
      let power ← Text.readDigits? 10 d
      if greatestPower < power then none
      some (negative, digits * Nat.pow 10 (power - fraction.length), fraction.length - power)

/-- The nearest whole number to a quotient, a half to the even neighbour. -/
def roundDiv (a b : Nat) : Nat :=
  let q := a / b
  let twice := 2 * (a % b)
  if twice < b || (twice == b && q % 2 == 0) then q else q + 1

/-- A number with a fraction in a conversion. -/
def fractionText (c : Conversion) (value : Bool × Nat × Nat) : List Char :=
  let (negative, digits, places) := value
  let wanted := c.precision.getD 6
  let scaled := roundDiv (digits * Nat.pow 10 wanted) (Nat.pow 10 places)
  let all := Nat.toDigits 10 scaled
  let all := List.replicate (wanted + 1 - all.length) '0' ++ all
  let whole := all.take (all.length - wanted)
  let fraction := all.drop (all.length - wanted)
  let point := if wanted == 0 then [] else '.' :: fraction
  pad c true (signText c negative ++ whole ++ point)

/-- The digits and the power of ten of a number in scientific notation, rounded to so many places
behind the first digit. -/
def scientific (digits places wanted : Nat) : List Char × Int :=
  if digits = 0 then (List.replicate (wanted + 1) '0', 0)
  else
    let length := (Nat.toDigits 10 digits).length
    let kept := wanted + 1
    let scaled :=
      if length ≤ kept then digits * Nat.pow 10 (kept - length)
      else roundDiv digits (Nat.pow 10 (length - kept))
    let all := Nat.toDigits 10 scaled
    let power : Int := (length : Int) - 1 - places
    if kept < all.length then (all.take kept, power + 1) else (all, power)

/-- The power of ten behind the digits in scientific notation. -/
def powerText (letter : Char) (power : Int) : List Char :=
  let d := Nat.toDigits 10 power.natAbs
  letter :: (if power < 0 then '-' else '+') :: List.replicate (2 - d.length) '0' ++ d

/-- The text of digits with a point behind the first one. -/
def pointed (digits : List Char) : List Char :=
  match digits with
  | d :: rest => if rest.isEmpty then [d] else d :: '.' :: rest
  | [] => []

/-- A number in scientific notation in a conversion. -/
def scientificText (c : Conversion) (value : Bool × Nat × Nat) : List Char :=
  let (negative, digits, places) := value
  let (ds, power) := scientific digits places (c.precision.getD 6)
  let letter := if c.letter == 'E' then 'E' else 'e'
  pad c true (signText c negative ++ pointed ds ++ powerText letter power)

/-- A number in a conversion, in the shorter notation and without zeros at its end. -/
def generalText (c : Conversion) (value : Bool × Nat × Nat) : List Char :=
  let (negative, digits, places) := value
  let precision := max 1 (c.precision.getD 6)
  let (ds, power) := scientific digits places (precision - 1)
  let strip (s : List Char) : List Char :=
    if c.flags.contains '#' || !s.contains '.' then s
    else
      let s := (s.reverse.dropWhile (· == '0')).reverse
      if s.getLast? == some '.' then s.dropLast else s
  let body :=
    if power < -4 || (precision : Int) ≤ power then
      strip (pointed ds) ++ powerText (if c.letter == 'G' then 'E' else 'e') power
    else if power < 0 then
      strip ('0' :: '.' :: List.replicate (power.natAbs - 1) '0' ++ ds)
    else
      let whole := power.toNat + 1
      let fraction := ds.drop whole
      strip (ds.take whole ++ if fraction.isEmpty then [] else '.' :: fraction)
  pad c true (signText c negative ++ body)

/-- The number that an argument writes; for a quote, that of the character behind it. -/
def number? (s : List Char) : Option Int :=
  match s.dropWhile (· == ' ') with
  | '\'' :: c :: _ | '"' :: c :: _ => some c.toNat
  | '-' :: rest => (literal? rest).map fun n => -n
  | '+' :: rest => literal? rest
  | rest => literal? rest
where
  /-- The number that digits write, octal behind a zero and hexadecimal behind `0x`. -/
  literal? : List Char → Option Int
    | '0' :: 'x' :: d | '0' :: 'X' :: d => (Text.readDigits? 16 d).map Int.ofNat
    | ['0'] => some 0
    | '0' :: d => (Text.readDigits? 8 d).map Int.ofNat
    | d => (Text.readDigits? 10 d).map Int.ofNat

/-- The number that a text begins with. -/
def leadingNumber (s : List Char) : Int :=
  let sign := s.takeWhile fun c => c == '-' || c == '+'
  let digits := (s.drop sign.length).takeWhile Char.isDigit
  (number? (sign.take 1 ++ digits)).getD 0

/-- Whether a character needs no quotes in a shell. -/
def isPlain (c : Char) : Bool :=
  c.isAlphanum || "_-./:=@%+,".toList.contains c

/-- A text that the shell reads as the given one. -/
def quoteText (s : List Char) : List Char :=
  if s.isEmpty then ['\'', '\'']
  else if s.any fun c => c.toNat < 0x20 || 0x7f ≤ c.toNat then
    let inner := s.flatMap fun c =>
      match c with
      | '\n' => ['\\', 'n']
      | '\t' => ['\\', 't']
      | '\r' => ['\\', 'r']
      | '\\' => ['\\', '\\']
      | '\'' => ['\\', '\'']
      | c => if c.toNat < 0x20 || 0x7f ≤ c.toNat then '\\' :: octal c.toNat else [c]
    '$' :: '\'' :: inner ++ ['\'']
  else s.flatMap fun c => if isPlain c then [c] else ['\\', c]
where
  /-- Three octal digits. -/
  octal (n : Nat) : List Char :=
    [n / 64 % 8, n / 8 % 8, n % 8].map Nat.digitChar

/-- The number behind a mark in a conversion, or the next argument for a star. -/
def count? (s : List Char) (arguments : List String) : Option Int × List Char × List String :=
  match s with
  | '*' :: rest =>
    (some ((arguments.head?.bind fun a => number? a.toList).getD 0), rest, arguments.drop 1)
  | s =>
    let digits := s.takeWhile Char.isDigit
    ((Text.readDigits? 10 digits).map Int.ofNat, s.drop digits.length, arguments)

/-- What a conversion makes of the next argument, which is empty or zero if there is none. -/
def convert (c : Conversion) (argument : Option String) (w : Written) : Written :=
  let text := (argument.getD "").toList
  let cut (s : List Char) : List Char := match c.precision with
    | some n => s.take n
    | none => s
  let complaint (w : Written) : Written :=
    { w with complaints := w.complaints ++ [s!"{String.ofList text}: invalid number"] }
  match c.letter with
  | 's' => w.add (pad c false (cut text))
  | 'q' => w.add (pad c false (cut (quoteText text)))
  | 'c' => w.add (pad c false (text.take 1))
  | 'b' =>
    let (s, ended) := echoText true (text.length + 1) text
    { w.add (pad c false (cut s)) with ended }
  | 'e' | 'f' | 'g' | 'E' | 'F' | 'G' =>
    let shown := match c.letter with
      | 'e' | 'E' => scientificText c
      | 'g' | 'G' => generalText c
      | _ => fractionText c
    match (if text.isEmpty then some (false, 0, 0) else decimal? text) with
    | some v => w.add (shown v)
    | none => (complaint w).add (shown (false, 0, 0))
  | _ =>
    match (if argument.isNone || text.isEmpty then some 0 else number? text) with
    | some n => w.add (wholeText c n)
    | none => (complaint w).add (wholeText c (leadingNumber text))

/-- Goes through a format once; gives back the arguments that it has not used. -/
def pass : Nat → List Char → List String → Written → Written × List String
  | fuel + 1, '%' :: '%' :: rest, arguments, w => pass fuel rest arguments (w.add ['%'])
  | fuel + 1, '%' :: rest, arguments, w =>
    let flags := rest.takeWhile "-+ 0#".toList.contains
    let (width, rest, arguments) := count? (rest.drop flags.length) arguments
    let (precision, rest, arguments) := match rest with
      | '.' :: rest =>
        let (n, rest, arguments) := count? rest arguments
        (some (n.getD 0), rest, arguments)
      | rest => (none, rest, arguments)
    let flags := if width.any (· < 0) then '-' :: flags else flags
    match rest.dropWhile "lhLjzt".toList.contains with
    | letter :: rest =>
      if "sqcbdiuoxXeEfFgG".toList.contains letter then
        let c : Conversion :=
          { flags, width := width.map Int.natAbs, precision := precision.map Int.toNat, letter }
        let w := convert c arguments.head? w
        if w.ended then (w, []) else pass fuel rest (arguments.drop 1) w
      else
        let text := s!"\x60{String.singleton letter}': invalid format character"
        ({ w with complaints := w.complaints ++ [text], ended := true }, [])
    | [] =>
      let text := "\x60%': missing format character"
      ({ w with complaints := w.complaints ++ [text], ended := true }, [])
  | fuel + 1, '\\' :: rest, arguments, w =>
    match rest with
    | 'c' :: _ => ({ w with ended := true }, [])
    | rest =>
      match formatEscape? rest with
      | some (text, rest) => pass fuel rest arguments (w.add text)
      | none => pass fuel rest arguments (w.add ['\\'])
  | fuel + 1, c :: rest, arguments, w => pass fuel rest arguments (w.add [c])
  | _, _, arguments, w => (w, arguments)

/-- Goes through a format until the arguments are used up. -/
def formatAll (format : List Char) : Nat → List String → Written → Written
  | 0, _, w => w
  | fuel + 1, arguments, w =>
    let (w, rest) := pass (format.length + 1) format arguments w
    if rest.isEmpty || rest.length == arguments.length || w.ended then w
    else formatAll format fuel rest w

end SmokeTest.Shell.Format
