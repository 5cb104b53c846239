import Mathlib
import Proceedings.Calendar.Date

/-! # Days and dates

Every day has a date, and a date gives back the number of its day.
-/

namespace Proceedings.Date

structure IsValid (d : Date) : Prop where
  year_pos : 1 ≤ d.year
  year_le : d.year ≤ 9999
  month_pos : 1 ≤ d.month
  month_le : d.month ≤ 12
  day_pos : 1 ≤ d.day
  day_le : d.day ≤ daysInMonth d.year d.month

@[simp] theorem length_monthLengths (leap : Bool) : (monthLengths leap).length = 12 := rfl

theorem sum_monthLengths (leap : Bool) :
    (monthLengths leap).sum = if leap then 366 else 365 := by
  cases leap <;> rfl

theorem daysBeforeMonth_succ (leap : Bool) (k : Nat) :
    daysBeforeMonth leap (k + 1) = ((monthLengths leap).take k).sum := by
  rw [daysBeforeMonth, List.sum_eq_foldl, Nat.add_sub_cancel]

theorem daysInMonth_succ (year : Nat) {k : Nat} (hk : k < (monthLengths (isLeap year)).length) :
    daysInMonth year (k + 1) = (monthLengths (isLeap year))[k] := by
  simp [daysInMonth, List.getD_eq_getElem?_getD, List.getElem?_eq_getElem hk]

theorem daysInMonth_le (year month : Nat) : daysInMonth year month ≤ 31 := by
  have hle : ∀ leap, ∀ length ∈ monthLengths leap, length ≤ 31 := by decide
  unfold daysInMonth
  split
  · decide
  · rw [List.getD_eq_getElem?_getD]
    cases h : (monthLengths (isLeap year))[month - 1]? with
    | none => decide
    | some length => exact hle _ _ (List.mem_of_getElem? h)

theorem locate_eq (lengths : List Nat) (month rest : Nat) (h : rest < lengths.sum) :
    ∃ k, ∃ hk : k < lengths.length, (lengths.take k).sum ≤ rest ∧
      rest < (lengths.take k).sum + lengths[k] ∧
      locate month lengths rest = (month + k, rest - (lengths.take k).sum + 1) := by
  induction lengths generalizing month rest with
  | nil => simp at h
  | cons length lengths ih =>
    by_cases hlt : rest < length
    · exact ⟨0, by simp, by simp, by simpa using hlt, by simp [locate, hlt]⟩
    · rw [List.sum_cons] at h
      obtain ⟨k, hk, hle, hgt, heq⟩ := ih (month + 1) (rest - length) (by omega)
      refine ⟨k + 1, by simpa using hk, ?_, ?_, ?_⟩
      · simp; omega
      · simp; omega
      · simp only [locate, if_neg hlt, heq, List.take_succ_cons, List.sum_cons, Prod.mk.injEq]
        omega

section Cycles

variable {q c f y : Nat}

/-- A year counted by its cycle of 400 years, its century, its cycle of four years and its place
in that. -/
theorem daysBeforeYear_cycles (hc : c ≤ 3) (hf : f ≤ 24) (hy : y ≤ 3) :
    daysBeforeYear (q * 400 + c * 100 + f * 4 + y + 1) =
      q * 146097 + c * 36524 + f * 1461 + y * 365 := by
  simp only [daysBeforeYear, Nat.add_sub_cancel]
  omega

theorem isLeap_cycles (hc : c ≤ 3) (hf : f ≤ 24) (hy : y ≤ 3) :
    isLeap (q * 400 + c * 100 + f * 4 + y + 1) = true ↔ y = 3 ∧ (f ≠ 24 ∨ c = 3) := by
  simp only [isLeap, Bool.and_eq_true, Bool.or_eq_true, beq_iff_eq, bne_iff_ne]
  omega

end Cycles

theorem exists_day_of_year (n : Nat) :
    ∃ year inYear, 1 ≤ year ∧ daysBeforeYear year + inYear = n ∧
      inYear < (monthLengths (isLeap year)).sum ∧
      ofDayNumber n = ⟨year, (locate 1 (monthLengths (isLeap year)) inYear).1,
        (locate 1 (monthLengths (isLeap year)) inYear).2⟩ := by
  let c := min (n % 146097 / 36524) 3
  let f := (n % 146097 - c * 36524) / 1461
  let y := min ((n % 146097 - c * 36524) % 1461 / 365) 3
  let inYear := (n % 146097 - c * 36524) % 1461 - y * 365
  have hc : c ≤ 3 := Nat.min_le_right _ _
  have hf : f ≤ 24 := by omega
  have hy : y ≤ 3 := Nat.min_le_right _ _
  refine ⟨n / 146097 * 400 + c * 100 + f * 4 + y + 1, inYear, by omega, ?_, ?_, rfl⟩
  · rw [daysBeforeYear_cycles hc hf hy]
    omega
  · rw [sum_monthLengths]
    have hleap := isLeap_cycles (q := n / 146097) hc hf hy
    split
    · omega
    · rename_i h
      rw [hleap] at h
      omega

theorem lt_daysBeforeYear {year : Nat} (h : 9999 < year) : 3652059 ≤ daysBeforeYear year := by
  unfold daysBeforeYear
  omega

/-- Every day up to the last one of the year 9999 has a date, which gives back its number. -/
theorem ofDayNumber_spec {n : Nat} (hn : n < 3652059) :
    (ofDayNumber n).IsValid ∧ (ofDayNumber n).dayNumber = n := by
  obtain ⟨year, inYear, hpos, hday, hlt, hdate⟩ := exists_day_of_year n
  obtain ⟨k, hk, hle, hgt, hloc⟩ := locate_eq _ 1 inYear hlt
  rw [hloc, Nat.add_comm 1 k] at hdate
  rw [hdate]
  have hyear : year ≤ 9999 := by
    refine Nat.le_of_not_lt fun h => ?_
    have := lt_daysBeforeYear h
    omega
  constructor
  · refine ⟨hpos, hyear, Nat.le_add_left _ _, hk, Nat.le_add_left _ _, ?_⟩
    simp only [daysInMonth_succ year hk]
    omega
  · simp only [dayNumber, daysBeforeMonth_succ]
    omega

end Proceedings.Date
