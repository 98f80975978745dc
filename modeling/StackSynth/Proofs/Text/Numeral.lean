import Mathlib
import StackSynth.Text.Split

/-!
Decimal numerals: one digit or more, and the number that they stand for.
-/
namespace StackSynth.Text

/-- The number that digits stand for, the last of them counting for one. -/
def decimalValue (digits : List Char) : Nat :=
  Nat.ofDigits 10 (digits.reverse.map fun c => c.toNat - '0'.toNat)

structure Numeral (text : List Char) (n : Nat) : Prop where
  filled : text ≠ []
  digits : ∀ c ∈ text, c.isDigit = true
  value : decimalValue text = n

variable {c : Char} {text : List Char} {n : Nat}

theorem decimal_value_cons (c : Char) (rest : List Char) :
    decimalValue (c :: rest) = (c.toNat - '0'.toNat) * 10 ^ rest.length + decimalValue rest := by
  rw [decimalValue, List.reverse_cons, List.map_append, Nat.ofDigits_append]
  simp only [List.map_cons, List.map_nil, Nat.ofDigits_singleton, List.length_map,
    List.length_reverse, decimalValue]
  rw [Nat.add_comm, Nat.mul_comm]

/-- One more digit after the number read so far; what is no digit ends the reading. -/
def readDigit (before : Option Nat) (c : Char) : Option Nat := do
  let n ← before
  if isAsciiDigit c then some (n * 10 + (c.toNat - '0'.toNat)) else none

theorem read_digits_none (text : List Char) : text.foldl readDigit none = none := by
  induction text with
  | nil => rfl
  | cons c rest ih => exact ih

theorem read_digits (text : List Char) (before : Nat) :
    text.foldl readDigit (some before) =
      if ∀ c ∈ text, c.isDigit = true then some (before * 10 ^ text.length + decimalValue text)
      else none := by
  induction text generalizing before with
  | nil => simp [decimalValue]
  | cons c rest ih =>
    have step : readDigit (some before) c =
        if c.isDigit then some (before * 10 + (c.toNat - '0'.toNat)) else none := rfl
    rw [List.foldl_cons, step]
    by_cases digit : c.isDigit = true
    · rw [if_pos digit, ih, decimal_value_cons, List.length_cons]
      simp only [List.forall_mem_cons, digit, true_and]
      congr 2
      ring
    · rw [if_neg digit, read_digits_none, if_neg fun all => digit (all c List.mem_cons_self)]

theorem decimal_eq_some_iff : decimal? text = some n ↔ Numeral text n := by
  have fold : decimal? text = if text = [] then none else text.foldl readDigit (some 0) := rfl
  rw [fold, read_digits, Nat.zero_mul, Nat.zero_add]
  by_cases empty : text = []
  · rw [if_pos empty]
    exact iff_of_false nofun fun numeral => numeral.filled empty
  · rw [if_neg empty, Option.ite_none_right_eq_some, Option.some_inj]
    exact ⟨fun ⟨all, value⟩ => ⟨empty, all, value⟩,
      fun numeral => ⟨numeral.digits, numeral.value⟩⟩

theorem Numeral.not_mem (numeral : Numeral text n) (other : c.isDigit = false) : c ∉ text := by
  intro member
  have digit := numeral.digits c member
  rw [other] at digit
  cases digit

theorem digit_value_pos (digit : c.isDigit = true) (other : c ≠ '0') :
    1 ≤ c.toNat - '0'.toNat := by
  have low : 48 ≤ c.toNat := by
    simp only [Char.isDigit, Bool.and_eq_true, decide_eq_true_eq] at digit
    exact digit.1
  have apart : c.toNat ≠ 48 := fun same => other (Char.toNat_inj.mp same)
  have zero : '0'.toNat = 48 := rfl
  omega

/-- A numeral with no zero in front stands for a number with as many digits. -/
theorem Numeral.pow_le (numeral : Numeral text n) (first : text.head? ≠ some '0') :
    10 ^ (text.length - 1) ≤ n := by
  obtain ⟨filled, digits, value⟩ := numeral
  cases text with
  | nil => exact absurd rfl filled
  | cons c rest =>
    have own := digit_value_pos (digits c List.mem_cons_self)
      fun zero => first (congrArg some zero)
    rw [← value, decimal_value_cons]
    calc 10 ^ rest.length = 1 * 10 ^ rest.length := (Nat.one_mul _).symm
      _ ≤ (c.toNat - '0'.toNat) * 10 ^ rest.length := Nat.mul_le_mul_right _ own
      _ ≤ _ := Nat.le_add_right _ _

/-! The digits that a number is written with. -/

theorem of_digit_chars (text : List Char) (before : Nat) :
    Nat.ofDigitChars 10 text before = before * 10 ^ text.length + decimalValue text := by
  induction text generalizing before with
  | nil => simp [decimalValue]
  | cons c rest ih =>
    rw [Nat.ofDigitChars_cons, ih, decimal_value_cons, List.length_cons]
    ring

theorem numeral_of_digits (n : Nat) : Numeral (Nat.toDigits 10 n) n where
  filled := Nat.toDigits_ne_nil
  digits _ member := Nat.isDigit_of_mem_toDigits (by decide) (by decide) member
  value := by
    have value := of_digit_chars (Nat.toDigits 10 n) 0
    rwa [Nat.ofDigitChars_ten_toDigits, Nat.zero_mul, Nat.zero_add, eq_comm] at value

/-- Only the number zero is written with a zero in front. -/
theorem eq_zero_of_digits (lead : (Nat.toDigits 10 n).head? = some '0') : n = 0 := by
  have small : ∀ n < 10, Nat.digitChar n = '0' → n = 0 := by decide
  induction n using Nat.base_induction 10 (by decide) with
  | single n digit =>
    rw [Nat.toDigits_of_lt_base digit] at lead
    exact small n digit (Option.some.inj lead)
  | digit n d digit positive ih =>
    rw [← Nat.toDigits_append_toDigits (by decide) positive digit,
      List.head?_append_of_ne_nil _ Nat.toDigits_ne_nil] at lead
    exact absurd (ih lead) (Nat.ne_of_gt positive)

end StackSynth.Text
