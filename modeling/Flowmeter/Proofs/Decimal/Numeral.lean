import Flowmeter.Decimal.Numeral

/-!
# Numerals of counters

A counter is read from ASCII digits only, and the digits of a number are such a numeral: reading
them gives the number back.

The digits of a counter are fewer characters than those that a setting may be written in, which
takes digits of every script (`readInteger`). So that what is written is read back takes two steps:
written digits are ASCII, and their value is the number.
-/

set_option autoImplicit false

namespace Flowmeter.Decimal

open Flowmeter.Text

theorem isAsciiDigit_of_isDigit {c : Char} (h : c.isDigit = true) : isAsciiDigit c = true := by
  obtain ⟨hlow, hhigh⟩ := Char.isDigit_iff_toNat.mp h
  unfold isAsciiDigit
  rw [Bool.and_eq_true]
  exact ⟨decide_eq_true hlow, decide_eq_true hhigh⟩

theorem isBlank_of_isAsciiDigit {c : Char} (h : isAsciiDigit c = true) : isBlank c = false := by
  unfold isAsciiDigit at h
  rw [Bool.and_eq_true, decide_eq_true_eq, decide_eq_true_eq] at h
  unfold isBlank
  simp only [Bool.or_eq_false_iff, Bool.and_eq_false_iff, decide_eq_false_iff_not,
    beq_eq_false_iff_ne]
  omega

theorem isAsciiDigit_of_mem_toDigits {n : Nat} {c : Char} (h : c ∈ Nat.toDigits 10 n) :
    isAsciiDigit c = true :=
  isAsciiDigit_of_isDigit (Nat.isDigit_of_mem_toDigits (by decide) (by decide) h)

theorem isCounterNumeral_toDigits (n : Nat) : isCounterNumeral (Nat.toDigits 10 n) = true := by
  rw [isCounterNumeral, Bool.and_eq_true]
  refine ⟨?_, List.all_eq_true.mpr fun c hc => isAsciiDigit_of_mem_toDigits hc⟩
  rw [List.isEmpty_eq_false_iff.mpr Nat.toDigits_ne_nil]
  rfl

/-- Reading undoes writing. -/
theorem counterValue_toDigits (n : Nat) : counterValue (Nat.toDigits 10 n) = n := by
  rw [counterValue, if_pos (isCounterNumeral_toDigits n)]
  exact Nat.ofDigitChars_ten_toDigits

end Flowmeter.Decimal
