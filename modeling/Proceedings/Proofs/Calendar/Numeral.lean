import Mathlib
import Proceedings.Calendar.Iso

/-! # Numerals of fixed width

The digits of a number, filled up with zeros to a width, are read back as that number. None of them
is one of the marks that separate the parts of a date and time.
-/

namespace Proceedings

def Text.ofChars (cs : List Char) : Text := cs.map CodePoint.scalar

/-- The digits of a number as a text, filled up with zeros on the left to a width. -/
def digitsText (width n : Nat) : Text := Text.ofChars (fixedDigits width n)

@[simp] theorem length_fixedDigits (width n : Nat) : (fixedDigits width n).length = width := by
  induction width generalizing n with
  | zero => rfl
  | succ width ih => simp [fixedDigits, ih]

@[simp] theorem length_digitsText (width n : Nat) : (digitsText width n).length = width := by
  simp [digitsText, Text.ofChars]

theorem digitsText_succ (width n : Nat) :
    digitsText (width + 1) n =
      digitsText width (n / 10) ++ [.scalar (Char.ofNat (0x30 + n % 10))] := by
  simp [digitsText, Text.ofChars, fixedDigits]

theorem isAsciiDigit_ofNat {k : Nat} (hk : k < 10) :
    (CodePoint.scalar (Char.ofNat (0x30 + k))).isAsciiDigit = true ∧
      (CodePoint.scalar (Char.ofNat (0x30 + k))).digitValue = k := by
  revert k
  decide

theorem isAsciiDigit_of_mem {width n : Nat} {p : CodePoint} (h : p ∈ digitsText width n) :
    p.isAsciiDigit = true := by
  induction width generalizing n with
  | zero => simp [digitsText, Text.ofChars, fixedDigits] at h
  | succ width ih =>
    rw [digitsText_succ, List.mem_append, List.mem_singleton] at h
    rcases h with h | rfl
    · exact ih h
    · exact (isAsciiDigit_ofNat (Nat.mod_lt n (by decide))).1

namespace Iso

theorem digits_append {width : Nat} {value : Nat} {t : Text} {found : Nat} {rest : Text}
    (h : digits width value t = some (found, rest)) (more : Nat) :
    digits (width + more) value t = digits more found rest := by
  induction width generalizing value t with
  | zero => simp_all [digits]
  | succ width ih =>
    cases t with
    | nil => simp [digits] at h
    | cons p t =>
      rw [Nat.succ_add]
      simp only [digits] at h ⊢
      split at h
      · next hp => rw [if_pos hp, ih h]
      · cases h

/-- The digits of a number are read as that number, whatever stands behind them. -/
theorem digits_digitsText (width n value : Nat) (rest : Text) :
    digits width value (digitsText width n ++ rest) =
      some (value * 10 ^ width + n % 10 ^ width, rest) := by
  induction width generalizing n rest with
  | zero => simp [digits, digitsText, Text.ofChars, fixedDigits, Nat.mod_one]
  | succ width ih =>
    rw [digitsText_succ, List.append_assoc, digits_append (ih _ _)]
    obtain ⟨hdigit, hvalue⟩ := isAsciiDigit_ofNat (Nat.mod_lt n (show 10 > 0 by decide))
    simp only [List.singleton_append, digits, hdigit, hvalue, if_true, Option.some.injEq,
      Prod.mk.injEq, and_true]
    have hpow : 10 ^ (width + 1) = 10 ^ width * 10 := Nat.pow_succ ..
    have hmod : n % (10 ^ width * 10) = n / 10 % 10 ^ width * 10 + n % 10 := by
      rw [Nat.mul_comm, Nat.mod_mul, Nat.mul_comm, Nat.add_comm]
    rw [hpow, hmod, Nat.add_mul, ← Nat.mul_assoc, Nat.add_assoc]

theorem digits_digitsText_of_lt {width n : Nat} (h : n < 10 ^ width) (rest : Text) :
    digits width 0 (digitsText width n ++ rest) = some (n, rest) := by
  rw [digits_digitsText, Nat.mod_eq_of_lt h, Nat.zero_mul, Nat.zero_add]

theorem isChar_scalar (c d : Char) : isChar c (.scalar d) = decide (d = c) := by
  by_cases h : d = c <;> simp [isChar, h]

theorem isChar_of_isAsciiDigit {c : Char} {p : CodePoint} (hp : p.isAsciiDigit = true)
    (hc : (CodePoint.scalar c).isAsciiDigit = false) : isChar c p = false := by
  rw [isChar, beq_eq_false_iff_ne]
  rintro rfl
  rw [hp] at hc
  cases hc

theorem isZoneMark_of_isAsciiDigit {p : CodePoint} (hp : p.isAsciiDigit = true) :
    isZoneMark p = false := by
  have hmark (c : Char) (hc : (CodePoint.scalar c).isAsciiDigit = false) : isChar c p = false :=
    isChar_of_isAsciiDigit hp hc
  simp only [isZoneMark, hmark '+' rfl, hmark '-' rfl, hmark 'Z' rfl, Bool.or_self]

end Iso

end Proceedings
