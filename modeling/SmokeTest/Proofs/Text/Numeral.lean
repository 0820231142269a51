/-
Decimal numerals.

* `decimal_injective` — different numbers have different numerals;
* `trimBlank_decimal`, `decimal_ne_empty` — a numeral has digits, and nothing to trim;
* `Denotes` — a text writes a number: an optional plus and at least one decimal digit;
* `readDecimal?_eq_some_iff` — a numeral is read as the number that it writes, up to the limit.
-/
import SmokeTest.Proofs.Text.Blank
import SmokeTest.Text.Numeral

namespace SmokeTest.Text

theorem decimal_injective : Function.Injective decimal := by
  intro m n same
  have digits : Nat.toDigits 10 m = Nat.toDigits 10 n := String.ofList_injective same
  -- the digits are read back
  simpa using congrArg (fun s => Nat.ofDigitChars 10 s 0) digits

theorem decimal_ne_empty (n : Nat) : decimal n ≠ "" := by
  intro same
  have digits : Nat.toDigits 10 n = [] := String.ofList_injective same
  exact Nat.toDigits_ne_nil digits

theorem isBlank_of_isDigit {c : Char} (digit : c.isDigit = true) : isBlank c = false := by
  simp only [Char.isDigit, Bool.and_eq_true, decide_eq_true_eq, ge_iff_le, UInt32.le_iff_toNat_le]
    at digit
  have least : 48 ≤ c.toNat := digit.1
  have most : c.toNat ≤ 57 := digit.2
  simp only [isBlank, Bool.or_eq_false_iff, Bool.and_eq_false_iff, decide_eq_false_iff_not,
    beq_eq_false_iff_ne]
  omega

@[simp] theorem trimBlank_decimal (n : Nat) : (decimal n).trimBlank = decimal n := by
  refine String.trimBlank_of_solid fun c mem => isBlank_of_isDigit ?_
  rw [decimal, String.toList_ofList] at mem
  exact Nat.isDigit_of_mem_toDigits (by decide) (by decide) mem

/-- The text writes the number: an optional plus and at least one decimal digit, whose value is the
number. -/
def Denotes (s : List Char) (n : Nat) : Prop :=
  ∃ digits, (s = digits ∨ s = '+' :: digits) ∧ digits ≠ [] ∧
    (∀ c ∈ digits, c.isDigit = true) ∧ Nat.ofDigitChars 10 digits 0 = n

theorem hexDigit?_lt_ten_iff {c : Char} {d : Nat} :
    hexDigit? c = some d ∧ d < 10 ↔ c.isDigit = true ∧ d = c.toNat - '0'.toNat := by
  have digit : c.isDigit = true ↔ '0' ≤ c ∧ c ≤ '9' := by
    simp only [Char.isDigit, Bool.and_eq_true, decide_eq_true_eq, ge_iff_le]
    rfl
  rw [digit, hexDigit?]
  by_cases decimal : '0' ≤ c ∧ c ≤ '9'
  · have most : c.toNat ≤ 57 := UInt32.le_iff_toNat_le.mp decimal.2
    have zero : '0'.toNat = 48 := rfl
    rw [if_pos decimal, Option.some.injEq]
    constructor
    · rintro ⟨rfl, -⟩
      exact ⟨decimal, rfl⟩
    · rintro ⟨-, rfl⟩
      exact ⟨rfl, by omega⟩
  · -- the letters that are digits stand for ten and more
    rw [if_neg decimal]
    refine iff_of_false ?_ fun h => decimal h.1
    rintro ⟨value, small⟩
    split at value
    · cases value
      omega
    · split at value
      · cases value
        omega
      · cases value

/-- The digits behind a number extend it to the number that all of them write. -/
theorem digitsValue?_eq_some_iff {acc n : Nat} {s : List Char} :
    digitsValue? 10 acc s = some n ↔
      (∀ c ∈ s, c.isDigit = true) ∧ Nat.ofDigitChars 10 s acc = n := by
  induction s generalizing acc with
  | nil => simp [digitsValue?, Nat.ofDigitChars]
  | cons c rest ih =>
    have step : digitsValue? 10 acc (c :: rest) = some n ↔
        ∃ d, (hexDigit? c = some d ∧ d < 10) ∧ digitsValue? 10 (acc * 10 + d) rest = some n := by
      rw [digitsValue?]
      cases hexDigit? c with
      | none => simp
      | some d => by_cases small : d < 10 <;> simp [small]
    rw [step, Nat.ofDigitChars_cons, Nat.mul_comm 10 acc]
    simp only [hexDigit?_lt_ten_iff, ih, List.forall_mem_cons]
    constructor
    · rintro ⟨d, ⟨digit, rfl⟩, others, value⟩
      exact ⟨⟨digit, others⟩, value⟩
    · rintro ⟨⟨digit, others⟩, value⟩
      exact ⟨_, ⟨digit, rfl⟩, others, value⟩

theorem readDigits?_eq_some_iff {n : Nat} {s : List Char} :
    readDigits? 10 s = some n ↔
      s ≠ [] ∧ (∀ c ∈ s, c.isDigit = true) ∧ Nat.ofDigitChars 10 s 0 = n := by
  cases s with
  | nil => simp [readDigits?]
  | cons c rest =>
    rw [readDigits?, digitsValue?_eq_some_iff]
    · simp
    · simp

/-- A numeral is read as the number that it writes, if this does not exceed the limit. -/
theorem readDecimal?_eq_some_iff {limit n : Nat} {s : List Char} :
    readDecimal? limit s = some n ↔ Denotes s n ∧ n ≤ limit := by
  rw [readDecimal?.eq_def, Option.filter_eq_some_iff, decide_eq_true_iff]
  refine and_congr_left fun _ => ?_
  split
  · next rest =>
    rw [readDigits?_eq_some_iff]
    constructor
    · rintro ⟨some_digit, digits, value⟩
      exact ⟨rest, .inr rfl, some_digit, digits, value⟩
    · rintro ⟨written, whole | whole, some_digit, digits, value⟩
      · -- a plus is no digit
        subst whole
        exact absurd (digits '+' List.mem_cons_self) (by decide)
      · cases whole
        exact ⟨some_digit, digits, value⟩
  · next unsigned =>
    rw [readDigits?_eq_some_iff]
    constructor
    · rintro ⟨some_digit, digits, value⟩
      exact ⟨s, .inl rfl, some_digit, digits, value⟩
    · rintro ⟨written, whole | whole, some_digit, digits, value⟩
      · subst whole
        exact ⟨some_digit, digits, value⟩
      · exact (unsigned written whole).elim

theorem Denotes.unique {s : List Char} {m n : Nat} (h : Denotes s m) (h' : Denotes s n) :
    m = n := by
  have read := readDecimal?_eq_some_iff.mpr ⟨h, Nat.le_max_left m n⟩
  have read' := readDecimal?_eq_some_iff.mpr ⟨h', Nat.le_max_right m n⟩
  exact Option.some.inj (read.symm.trans read')

theorem readDecimal?_le {limit n : Nat} {s : List Char} (h : readDecimal? limit s = some n) :
    n ≤ limit :=
  (readDecimal?_eq_some_iff.mp h).2

end SmokeTest.Text
