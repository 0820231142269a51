/-
What is written as JSON is read back.

* `readString?_quoted` — a text is read back from the way it is written in a string;
* `readNumber?_digits` — a number is read back from its digits;
* `Writes` — the text writes the value: the value is read from it, whatever follows;
* `read?_writeObject` — an object has the members that it is written from, in their order.

Design notes: a reader gets the whole text that is left, so every law has a text that follows. A
number goes on as long as there are digits, which is why `Writes` asks for what may follow a value.
-/
import Mathlib.Data.List.Forall2
import SmokeTest.Json.Reader
import SmokeTest.Json.Writer
import SmokeTest.Proofs.Text.Numeral

namespace SmokeTest.Json

open Text

/-! ### Strings -/

/-- A character that is neither a quote, a backslash nor a control character stands for itself. -/
theorem readString?_self {c : Char} (noQuote : c ≠ '"') (noBackslash : c ≠ '\\')
    (noControl : ¬ c.toNat < 0x20) (fuel : Nat) (read : Option (List Char)) (rest : List Char) :
    readString? (fuel + 1) read (c :: rest) = readString? fuel (read.map (c :: ·)) rest := by
  rw [readString?.eq_def]
  simp [noQuote, noBackslash, noControl]

theorem hexQuad?_control {n : Nat} (control : n < 0x20) (rest : List Char) :
    hexQuad? ('0' :: '0' :: hexDigit (n / 16) :: hexDigit (n % 16) :: rest) = some (n, rest) := by
  have value : ∀ n < 0x20, digitsValue? 16 0 ['0', '0', hexDigit (n / 16), hexDigit (n % 16)] =
      some n := by decide
  rw [hexQuad?, value n control, Option.map_some]

/-- A character is read back from the way it is written in a string. -/
theorem readString?_quoteChar (c : Char) (fuel : Nat) (read : Option (List Char))
    (rest : List Char) :
    readString? (fuel + 1) read (quoteChar c ++ rest) =
      readString? fuel (read.map (c :: ·)) rest := by
  unfold quoteChar
  split
  · rfl
  · rfl
  · rfl
  · rfl
  · rfl
  · rfl
  · rfl
  · next noQuote noBackslash _ _ _ _ _ =>
    split
    · next control =>
      have small : c.toNat < 0xD800 := by omega
      simp only [List.cons_append, List.nil_append]
      rw [readString?.eq_def]
      simp [hexQuad?_control control, small, Char.ofNat_toNat]
    · next noControl => exact readString?_self noQuote noBackslash noControl fuel read rest

/-- A text is read back from the way it is written in a string. -/
theorem readString?_quoted {s : List Char} {fuel : Nat} (enough : s.length < fuel)
    (read rest : List Char) :
    readString? fuel (some read) (s.flatMap quoteChar ++ '"' :: rest) =
      some (some (String.ofList (read.reverse ++ s)), rest) := by
  -- what has been read is kept general, since it grows with every character
  induction s generalizing fuel read with
  | nil =>
    obtain ⟨fuel, rfl⟩ : ∃ n, fuel = n + 1 := Nat.exists_eq_add_one.mpr enough
    rw [List.append_nil]
    rfl
  | cons c s ih =>
    rw [List.length_cons] at enough
    obtain ⟨fuel, rfl⟩ : ∃ n, fuel = n + 1 := Nat.exists_eq_add_one.mpr (by omega)
    rw [List.flatMap_cons, List.append_assoc, readString?_quoteChar, Option.map_some,
      ih (by omega), List.reverse_cons, List.append_assoc, List.singleton_append]

theorem length_le_flatMap_quoteChar (s : List Char) : s.length ≤ (s.flatMap quoteChar).length := by
  induction s with
  | nil => exact Nat.le_refl 0
  | cons c s ih =>
    have some_char : 0 < (quoteChar c).length := by
      unfold quoteChar
      repeat' split
      all_goals exact Nat.succ_pos _
    rw [List.flatMap_cons, List.length_append, List.length_cons]
    omega

/-! ### Numbers -/

/-- Only zero is written with a zero in front. -/
theorem eq_zero_of_head?_toDigits {n : Nat} (zero : (Nat.toDigits 10 n).head? = some '0') :
    n = 0 := by
  induction n using Nat.strongRecOn with
  | ind n ih =>
    by_cases small : n < 10
    · have only : ∀ d < 10, d.digitChar = '0' → d = 0 := by decide
      rw [Nat.toDigits_of_lt_base small] at zero
      exact only n small (Option.some.inj zero)
    · rw [Nat.toDigits_of_base_le (by decide) (by omega),
        List.head?_append_of_ne_nil _ Nat.toDigits_ne_nil] at zero
      have := ih (n / 10) (by omega) zero
      omega

/-- What may follow a value in an object. -/
def Closes (rest : List Char) : Prop :=
  ∃ tail, rest = ',' :: tail ∨ rest = '\x7d' :: tail

theorem digitRun_append {digits rest : List Char} (all : ∀ c ∈ digits, c.isDigit = true)
    (closes : Closes rest) : digitRun (digits ++ rest) = (digits, rest) := by
  obtain ⟨tail, rfl | rfl⟩ := closes
  all_goals
    rw [digitRun, List.takeWhile_append_of_pos all, List.dropWhile_append_of_pos all]
    simp [List.takeWhile, List.dropWhile]

/-- A number is read back from its digits. -/
theorem readNumber?_digits (n : Nat) {rest : List Char} (closes : Closes rest) :
    readNumber? false (Nat.toDigits 10 n ++ rest) = some (.ofNat n, rest) := by
  have digits : ∀ c ∈ Nat.toDigits 10 n, c.isDigit = true :=
    fun c mem => Nat.isDigit_of_mem_toDigits (by decide) (by decide) mem
  have value : digitsValue? 10 0 (Nat.toDigits 10 n) = some n :=
    digitsValue?_eq_some_iff.mpr ⟨digits, Nat.ofDigitChars_ten_toDigits⟩
  have fraction : readFraction? rest = some ([], rest) := by
    obtain ⟨tail, rfl | rfl⟩ := closes <;> rfl
  have exponent : readExponent? rest = some (none, rest) := by
    obtain ⟨tail, rfl | rfl⟩ := closes <;> rfl
  rw [readNumber?, digitRun_append digits closes]
  dsimp only
  split
  · next none => exact absurd none Nat.toDigits_ne_nil
  · next d more long =>
    -- a longer numeral does not begin with a zero
    have zero := eq_zero_of_head?_toDigits (congrArg List.head? long)
    rw [zero] at long
    cases long
  · simp [fraction, exponent, value, Number.ofNat]

/-! ### Values and objects -/

theorem skipBlanks_cons {c : Char} (solid : c ∉ [' ', '\n', '\t', '\r']) (rest : List Char) :
    skipBlanks (c :: rest) = c :: rest := by
  rw [skipBlanks, List.dropWhile_cons_of_neg]
  simpa [and_assoc] using solid

/-- The text writes the value: whatever follows the value in an object, the value is read from the
text, and what follows is left. -/
def Writes (written : List Char) (v : Json) : Prop :=
  ∀ fuel rest, written.length < fuel → Closes rest →
    readValue? fuel (written ++ rest) = some (v, rest)

theorem writes_quote (s : String) : Writes (quote s).toList (.text s) := by
  intro fuel rest enough _
  have long := length_le_flatMap_quoteChar s.toList
  rw [quote, String.toList_ofList, quoteChars, List.length_append, List.length_cons] at enough
  obtain ⟨fuel, rfl⟩ : ∃ n, fuel = n + 1 := Nat.exists_eq_add_one.mpr (by omega)
  have short : s.toList.length < fuel := by omega
  have string := readString?_quoted short [] rest
  rw [quote, String.toList_ofList, quoteChars, List.append_assoc, List.cons_append,
    List.singleton_append, readValue?, skipBlanks_cons (by decide)]
  simp only [string, Option.map_some, text, List.reverse_nil, List.nil_append,
    String.ofList_toList]

/-- A value that begins with a digit is a number. -/
theorem readValue?_digit {d : Char} (digit : d.isDigit = true) (fuel : Nat) (rest : List Char) :
    readValue? (fuel + 1) (d :: rest) =
      (readNumber? false (d :: rest)).map fun (n, rest) => (number n, rest) := by
  have other {c : Char} (noDigit : c.isDigit = false) : d ≠ c := by
    rintro rfl
    exact Bool.false_ne_true (noDigit.symm.trans digit)
  have solid : d ∉ [' ', '\n', '\t', '\r'] := by simp [other]
  rw [readValue?, skipBlanks_cons solid]
  split
  case h_8 => rfl
  all_goals next same => exact absurd (List.cons.inj same).1 (other rfl)

theorem writes_decimal (n : Nat) : Writes (decimal n).toList (.number (.ofNat n)) := by
  intro fuel rest enough closes
  obtain ⟨fuel, rfl⟩ : ∃ n, fuel = n + 1 := Nat.exists_eq_add_one.mpr (by omega)
  obtain ⟨d, more, digits⟩ := List.exists_cons_of_ne_nil (Nat.toDigits_ne_nil (b := 10) (n := n))
  have digit : d.isDigit = true :=
    Nat.isDigit_of_mem_toDigits (by decide) (by decide) (digits ▸ List.mem_cons_self)
  have number := readNumber?_digits n closes
  rw [digits, List.cons_append] at number
  rw [decimal, String.toList_ofList, digits, List.cons_append, readValue?_digit digit, number,
    Option.map_some]

/-- The name and the value of a member as they are written. -/
def writtenMember (m : String × String) : List Char :=
  (quote m.1).toList ++ ':' :: m.2.toList

/-- The member is written with its name and a text that writes its value. -/
def WritesMember (m : String × String) (v : Option String × Json) : Prop :=
  v.1 = some m.1 ∧ Writes m.2.toList v.2

theorem toList_writeObject (members : List (String × String)) :
    (writeObject members).toList =
      '\x7b' :: [','].intercalate (members.map writtenMember) ++ ['\x7d'] := by
  have each : writtenMember = fun m => (quote m.1 ++ ":" ++ m.2).toList := by
    funext m
    simp [writtenMember]
  simp [writeObject, String.toList_intercalate, Function.comp_def, each]

/-- One member is read, and what closes it tells whether there is another one. -/
theorem readMembers?_member {m : String × String} {v : Option String × Json}
    (writes : WritesMember m v) {fuel : Nat} (enough : (writtenMember m).length ≤ fuel)
    (read : List (Option String × Json)) {closer : Char} (closes : closer = ',' ∨ closer = '\x7d')
    (rest : List Char) :
    readMembers? (fuel + 1) read (writtenMember m ++ closer :: rest) =
      if closer = ',' then readMembers? fuel (v :: read) rest
      else some ((v :: read).reverse, rest) := by
  obtain ⟨name, value⟩ := v
  obtain ⟨rfl, writes⟩ := writes
  have long := length_le_flatMap_quoteChar m.1.toList
  simp only [writtenMember, quote, quoteChars, String.toList_ofList, List.length_append,
    List.length_cons] at enough
  have short : m.1.toList.length < fuel := by omega
  have string := readString?_quoted short [] (':' :: (m.2.toList ++ closer :: rest))
  rw [List.reverse_nil, List.nil_append, String.ofList_toList] at string
  have value := writes fuel (closer :: rest) (by omega) ⟨rest, by simpa using closes⟩
  rw [writtenMember, quote, String.toList_ofList, quoteChars, readMembers?]
  simp only [List.cons_append, List.append_assoc, List.nil_append]
  rw [skipBlanks_cons (by decide)]
  simp only [string]
  rw [skipBlanks_cons (by decide)]
  simp only [value]
  rcases closes with rfl | rfl
  · rw [skipBlanks_cons (by decide), if_pos rfl]
    rfl
  · rw [skipBlanks_cons (by decide), if_neg (by decide)]
    rfl

theorem readMembers?_written {members : List (String × String)}
    {values : List (Option String × Json)} (writes : members.Forall₂ WritesMember values)
    (some_member : members ≠ []) {fuel : Nat}
    (enough : ([','].intercalate (members.map writtenMember)).length < fuel)
    (read : List (Option String × Json)) (rest : List Char) :
    readMembers? fuel read
        ([','].intercalate (members.map writtenMember) ++ '\x7d' :: rest) =
      some (read.reverse ++ values, rest) := by
  induction writes generalizing fuel read with
  | nil => exact absurd rfl some_member
  | @cons m v members values first others ih =>
    obtain ⟨fuel, rfl⟩ : ∃ n, fuel = n + 1 := Nat.exists_eq_add_one.mpr (by omega)
    cases others with
    | nil =>
      rw [List.map_singleton, List.intercalate_singleton] at enough ⊢
      rw [readMembers?_member first (by omega) read (.inr rfl), if_neg (by decide),
        List.reverse_cons]
    | cons second others =>
      rw [List.map_cons, List.map_cons, List.intercalate_cons_cons] at enough ⊢
      simp only [List.length_append, List.length_singleton] at enough
      rw [List.append_assoc, List.append_assoc, List.singleton_append,
        readMembers?_member first (by omega) read (.inl rfl), if_pos rfl]
      rw [List.map_cons] at ih
      rw [ih (List.cons_ne_nil _ _) (by omega), List.reverse_cons, List.append_assoc,
        List.singleton_append]

/-- A value that begins with a brace and a quote is an object with a member. -/
theorem readValue?_object (fuel : Nat) (rest : List Char) :
    readValue? (fuel + 1) ('\x7b' :: '"' :: rest) =
      (readMembers? fuel [] ('"' :: rest)).map fun (members, rest) => (object members, rest) := by
  rw [readValue?, skipBlanks_cons (by decide)]
  rfl

/-- An object is read back with the members that it is written from, in their order. -/
theorem read?_writeObject {members : List (String × String)}
    {values : List (Option String × Json)} (writes : members.Forall₂ WritesMember values) :
    read? (writeObject members) = some (.object values) := by
  have whole : readValue? ((writeObject members).toList.length + 1) (writeObject members).toList =
      some (.object values, []) := by
    rw [toList_writeObject]
    cases writes with
    | nil => rfl
    | @cons m v members values first others =>
      obtain ⟨body, quoted⟩ :
          ∃ body, [','].intercalate ((m :: members).map writtenMember) = '"' :: body := by
        rw [List.map_cons, writtenMember, quote, String.toList_ofList, quoteChars,
          List.cons_append, List.cons_append, List.intercalate_cons_cons_left]
        exact ⟨_, rfl⟩
      have all (fuel : Nat) (enough : body.length + 1 < fuel) :=
        readMembers?_written (.cons first others) (List.cons_ne_nil _ _)
          (by rwa [quoted, List.length_cons]) [] []
      rw [quoted, List.cons_append] at all
      rw [quoted, List.cons_append, List.cons_append, readValue?_object,
        all _ (by simp only [List.length_cons, List.length_append]; omega)]
      rfl
  rw [read?, whole]
  rfl

end SmokeTest.Json
