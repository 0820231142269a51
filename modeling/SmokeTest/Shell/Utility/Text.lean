/-
Commands that count, cut and order the lines of texts.
-/
import SmokeTest.Shell.Format
import SmokeTest.Shell.Glob
import SmokeTest.Shell.Utility.Basic

namespace SmokeTest.Shell.Utility

open Text

/-- Writes its files. -/
def cat (c : Call) : Effect :=
  let (os, paths) := options [] c.arguments
  onText c paths fun bytes =>
    if has os 'n' then
      unlines ((linesOf bytes).zipIdx.map fun (l, i) =>
        let n := (decimal (i + 1)).toList
        List.replicate (6 - n.length) ' ' ++ n ++ '\t' :: l)
    else bytes

/-- The arguments, where a number behind a dash in front stands for a number of lines. -/
def dashNumbers (arguments : List String) : List String :=
  match arguments with
  | a :: more =>
    match a.toList with
    | '-' :: d :: rest =>
      if (d :: rest).all Char.isDigit then "-n" :: String.ofList (d :: rest) :: more else arguments
    | _ => arguments
  | [] => []

/-- The first lines or bytes. -/
def head (c : Call) : Effect :=
  let (os, paths) := options ['n', 'c'] (dashNumbers c.arguments)
  let zeros := paths == ["/dev/zero"]
  match (value? os 'c').map String.toList with
  | some ('-' :: n) =>
    let n := (readDigits? 10 n).getD 0
    onText c paths fun b => b.take (b.length - n)
  | some n =>
    let n := (readDigits? 10 n).getD 0
    if zeros then { output := List.replicate n 0 } else onText c paths (·.take n)
  | none =>
    match ((value? os 'n').getD "10").toList with
    | '-' :: n =>
      let n := (readDigits? 10 n).getD 0
      onText c paths fun b => cutLines ((linesOf b).length - n) b
    | n => onText c paths (cutLines ((readDigits? 10 n).getD 10))
where
  /-- So many lines, as they are. -/
  cutLines (n : Nat) (bytes : List UInt8) : List UInt8 :=
    match n, bytes with
    | 0, _ => []
    | _, [] => []
    | n + 1, b :: rest => if b == 10 then b :: cutLines n rest else b :: cutLines (n + 1) rest

/-- The last lines or bytes. -/
def tail (c : Call) : Effect :=
  let (os, paths) := options ['n', 'c'] (dashNumbers c.arguments)
  match (value? os 'c').map String.toList with
  | some ('+' :: n) => onText c paths (·.drop ((readDigits? 10 n).getD 1 - 1))
  | some n =>
    let n := (readDigits? 10 n).getD 0
    onText c paths fun b => b.drop (b.length - n)
  | none =>
    match ((value? os 'n').getD "10").toList with
    | '+' :: n => onText c paths fun b => dropLines ((readDigits? 10 n).getD 1 - 1) b
    | n =>
      let n := (readDigits? 10 n).getD 10
      onText c paths fun b => dropLines ((linesOf b).length - n) b
where
  /-- What is behind so many lines. -/
  dropLines (n : Nat) (bytes : List UInt8) : List UInt8 :=
    match n, bytes with
    | 0, bytes => bytes
    | _, [] => []
    | n + 1, b :: rest => if b == 10 then dropLines n rest else dropLines (n + 1) rest

/-- The number of words. -/
def countWords (s : List Char) : Nat :=
  let blank (c : Char) : Bool := inClass "space" c
  (s.foldl (fun (n, inside) c => if blank c then (n, false) else (if inside then n else n + 1, true))
    (0, false)).1

/-- Counts lines, words and bytes. -/
def wc (c : Call) : Effect :=
  let (os, paths) := options [] c.arguments
  let chosen := ['l', 'w', 'm', 'c'].filter (has os)
  let chosen := if chosen.isEmpty then ['l', 'w', 'c'] else chosen
  let count (bytes : List UInt8) (letter : Char) : Nat :=
    match letter with
    | 'l' => bytes.count 10
    | 'w' => countWords (ofBytes bytes).toList
    | _ => bytes.length
  onTexts c paths fun texts =>
    let size := texts.foldl (fun n t => n + t.2.length) 0
    let width :=
      if chosen.length == 1 && texts.length == 1 then 1
      else if paths.isEmpty then 7
      else (Nat.toDigits 10 size).length
    let padded (n : Nat) : List Char :=
      let d := Nat.toDigits 10 n
      List.replicate (width - d.length) ' ' ++ d
    let row (name : String) (counts : List Nat) : List Char :=
      let name := if paths.isEmpty then [] else ' ' :: name.toList
      [' '].intercalate (counts.map padded) ++ name
    let rows := texts.map fun (name, bytes) => row name (chosen.map (count bytes))
    let total := chosen.map fun letter => texts.foldl (fun n t => n + count t.2 letter) 0
    unlines (if 1 < texts.length then rows ++ [row "total" total] else rows)

/-- Writes lines the other way round, or their characters. -/
def reversing (characters : Bool) (c : Call) : Effect :=
  onText c c.arguments fun b =>
    unlines (if characters then (linesOf b).map List.reverse else (linesOf b).reverse)

/-- The characters of a set for `tr`. -/
def trSet : Nat → List Char → List Char
  | fuel + 1, '[' :: ':' :: rest =>
    match className? rest with
    | some (name, after) =>
      ((List.range 128).map Char.ofNat).filter (inClass name) ++ trSet fuel after
    | none => '[' :: trSet fuel (':' :: rest)
  | fuel + 1, '\\' :: rest =>
    match formatEscape? rest with
    | some (s, after) => s ++ trSet fuel after
    | none => trSet fuel rest
  | fuel + 1, a :: '-' :: b :: rest =>
    if a ≤ b then
      let run := (List.range (b.toNat - a.toNat + 1)).map fun i => Char.ofNat (a.toNat + i)
      run ++ trSet fuel rest
    else trSet fuel rest
  | fuel + 1, c :: rest => c :: trSet fuel rest
  | _, s => s

/-- Replaces, removes or squeezes characters. -/
def tr (c : Call) : Effect :=
  let (os, sets) := options [] c.arguments
  let set (i : Nat) : List Char := ((sets[i]?).map fun s => trSet (s.length + 1) s.toList).getD []
  let complement := has os 'c' || has os 'C'
  let first := set 0
  let isFirst (x : Char) : Bool := first.contains x != complement
  let second := set 1
  let replace (x : Char) : Char :=
    if complement then (if isFirst x then second.getLast?.getD x else x)
    else
      match first.findIdx? (· == x) with
      | some i => (second[i]?.or second.getLast?).getD x
      | none => x
  let squeeze (p : Char → Bool) (s : List Char) : List Char :=
    (s.foldl (fun (out : List Char) x => if p x && out.head? == some x then out else x :: out)
      []).reverse
  let text := (ofBytes c.input).toList
  let result :=
    if has os 'd' then
      let kept := text.filter fun x => !isFirst x
      if has os 's' then squeeze second.contains kept else kept
    else if second.isEmpty then if has os 's' then squeeze isFirst text else text
    else
      let replaced := text.map replace
      if has os 's' then squeeze second.contains replaced else replaced
  { output := result.map charByte, reads := true }

/-- The number that a line begins with, for ordering. -/
def lineNumber (l : List Char) : Int :=
  match l.dropWhile (· == ' ') with
  | '-' :: d => -(((readDigits? 10 (d.takeWhile Char.isDigit)).getD 0 : Nat) : Int)
  | d => ((readDigits? 10 (d.takeWhile Char.isDigit)).getD 0 : Nat)

/-- The fields of a line between blanks, from one on. -/
def fieldFrom (n : Nat) (separator : Option Char) (l : List Char) : List Char :=
  let parts := match separator with
    | some c => pieces c l
    | none => (pieces ' ' l).filter (· ≠ [])
  [separator.getD ' '].intercalate (parts.drop (n - 1))

/-- Whether a line comes before another one in the order of characters. -/
def comesBefore (a b : List Char) : Bool :=
  List.lex a b fun x y => x.toNat < y.toNat

/-- Puts lines in order. -/
def sort (c : Call) : Effect :=
  let (os, paths) := options ['k', 't', 'o'] c.arguments
  let separator := (value? os 't').bind fun s => s.toList.head?
  let keyText := ((value? os 'k').getD "").toList
  let column := readDigits? 10 (keyText.takeWhile Char.isDigit)
  let flag (x : Char) : Bool := has os x || keyText.contains x
  let key (l : List Char) : List Char :=
    let l := match column with
      | some n => fieldFrom n separator l
      | none => l
    if flag 'f' then l.map Char.toUpper else l
  let before (a b : List Char) : Bool :=
    let (a', b') := (key a, key b)
    let less := if flag 'n' then decide (lineNumber a' < lineNumber b') else comesBefore a' b'
    let same := if flag 'n' then lineNumber a' == lineNumber b' else a' == b'
    let (less, tie) :=
      if flag 'r' then (!less && !same, !comesBefore a b) else (less, !comesBefore b a)
    less || (same && (has os 's' || tie))
  onText c paths fun b =>
    let sorted := (linesOf b).mergeSort before
    let sameKey (x y : List Char) : Bool :=
      if flag 'n' then lineNumber (key x) == lineNumber (key y) else key x == key y
    let kept := if has os 'u' then
        (sorted.foldl (fun (out : List (List Char)) l =>
          if out.head?.any (sameKey l) then out else l :: out) []).reverse
      else sorted
    unlines kept

/-- Runs of equal lines with their lengths. -/
def runs : List (List Char) → List (Nat × List Char)
  | [] => []
  | l :: rest =>
    match runs rest with
    | (n, m) :: more => if m == l then (n + 1, l) :: more else (1, l) :: (n, m) :: more
    | [] => [(1, l)]

/-- Drops repeated lines. -/
def uniq (c : Call) : Effect :=
  let (os, paths) := options [] c.arguments
  onText c paths fun b =>
    let kept := (runs (linesOf b)).filter fun (n, _) =>
      if has os 'd' then 1 < n else if has os 'u' then n == 1 else true
    unlines (kept.map fun (n, l) =>
      if has os 'c' then
        let d := Nat.toDigits 10 n
        List.replicate (7 - d.length) ' ' ++ d ++ ' ' :: l
      else l)

/-- The numbers of a list such as `1,3-5`. -/
def inRanges (ranges : List Char) (n : Nat) : Bool :=
  (pieces ',' ranges).any fun r =>
    match pieces '-' r with
    | [a] => readDigits? 10 a == some n
    | [a, b] =>
      (a.isEmpty || (readDigits? 10 a).any (· ≤ n)) && (b.isEmpty || (readDigits? 10 b).any (n ≤ ·))
    | _ => false

/-- Cuts fields or characters out of lines. -/
def cut (c : Call) : Effect :=
  let (os, paths) := options ['d', 'f', 'c', 'b'] c.arguments
  let separator := ((value? os 'd').bind fun s => s.toList.head?).getD '\t'
  onText c paths fun bytes =>
    unlines ((linesOf bytes).filterMap fun l =>
      match value? os 'f' with
      | some ranges =>
        let fields := pieces separator l
        if fields.length == 1 then if has os 's' then none else some l
        else
          let chosen := fields.zipIdx.filter fun (_, i) => inRanges ranges.toList (i + 1)
          let kept := chosen.map Prod.fst
          some ([separator].intercalate kept)
      | none =>
        let ranges := ((value? os 'c').orElse fun _ => value? os 'b').getD ""
        some ((l.zipIdx.filter fun (_, i) => inRanges ranges.toList (i + 1)).map Prod.fst))

/-- Whole numbers one after the other. -/
def seq (c : Call) : Effect :=
  let (os, operands) := options ['s', 'f'] (c.arguments.map fun a =>
    match a.toList with
    | '-' :: d :: _ => if d.isDigit then " " ++ a else a
    | _ => a)
  let numbers := operands.mapM fun a => Format.number? a.toList
  let row (start step stop : Int) : List Int :=
    if step = 0 then []
    else
      let count := if 0 < step then (stop - start) / step else (start - stop) / (-step)
      let reached := if 0 < step then start ≤ stop else stop ≤ start
      if reached then (List.range (count.toNat + 1)).map fun (i : Nat) => start + step * (i : Int)
      else []
  let values := match numbers with
    | some [stop] => some (row 1 1 stop)
    | some [start, stop] => some (row start 1 stop)
    | some [start, step, stop] => some (row start step stop)
    | _ => none
  match values with
  | none => refuse c 1 "invalid argument"
  | some ns =>
    let plain := ns.map fun n => Format.wholeText { letter := 'd' } n
    let width := (plain.map List.length).foldl max 0
    let texts := if has os 'w' then
        ns.map fun n => Format.wholeText { flags := ['0'], width := some width, letter := 'd' } n
      else plain
    let separator := ((value? os 's').getD "\n").toList
    if texts.isEmpty then {} else
      { output := (separator.intercalate texts ++ ['\n']).map charByte }

end SmokeTest.Shell.Utility
