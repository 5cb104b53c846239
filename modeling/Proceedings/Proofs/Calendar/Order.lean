import Proceedings.Proofs.Calendar.DateTime
import Proceedings.Proofs.Calendar.Numeral

/-! # The order of time and the order of texts

Numerals of one width stand in the order of their numbers, and so do fields one behind the other if
each is of one width or ends in a mark that comes before its characters. The dates of a year stand
in the order of their months and days.
-/

namespace Proceedings

section Texts

variable {a b x y : List Char}

theorem append_lt_append_iff (h : a.length = b.length) :
    a ++ x < b ++ y ↔ a < b ∨ a = b ∧ x < y := by
  induction a generalizing b with
  | nil =>
    obtain rfl := List.length_eq_zero_iff.mp h.symm
    simp
  | cons c a ih =>
    cases b with
    | nil => cases h
    | cons d b =>
      simp only [List.cons_append, List.cons_lt_cons_iff, ih (Nat.succ.inj h), List.cons.injEq]
      tauto

/-- Where two texts have a mark behind their first parts that comes before every character of these,
the parts decide first, whatever their lengths. -/
theorem append_mark_lt_iff {mark : Char} (ha : ∀ c ∈ a, mark < c) (hb : ∀ c ∈ b, mark < c) :
    a ++ mark :: x < b ++ mark :: y ↔ a < b ∨ a = b ∧ x < y := by
  induction a generalizing b with
  | nil =>
    cases b with
    | nil => simp
    | cons d b =>
      have hd := (List.forall_mem_cons.mp hb).1
      simp [List.cons_lt_cons_iff, hd]
  | cons c a ih =>
    obtain ⟨hc, ha⟩ := List.forall_mem_cons.mp ha
    cases b with
    | nil => simp [List.cons_lt_cons_iff, hc.not_gt, hc.ne']
    | cons d b =>
      have hb := (List.forall_mem_cons.mp hb).2
      simp only [List.cons_append, List.cons_lt_cons_iff, ih ha hb, List.cons.injEq]
      tauto

theorem digit_lt_digit_iff {m n : Nat} (hm : m < 10) (hn : n < 10) :
    Char.ofNat (0x30 + m) < Char.ofNat (0x30 + n) ↔ m < n := by
  have hdigits : ∀ m < 10, ∀ n < 10,
      (Char.ofNat (0x30 + m) < Char.ofNat (0x30 + n) ↔ m < n) := by decide
  exact hdigits m hm n hn

theorem fixedDigits_inj {width m n : Nat} (hm : m < 10 ^ width) (hn : n < 10 ^ width) :
    fixedDigits width m = fixedDigits width n ↔ m = n := by
  refine ⟨fun h => ?_, fun h => by rw [h]⟩
  have hread := Iso.digits_digitsText_of_lt hm []
  rw [digitsText, h, ← digitsText, Iso.digits_digitsText_of_lt hn] at hread
  exact (Prod.mk.inj (Option.some.inj hread)).1.symm

theorem fixedDigits_lt_iff {width m n : Nat} (hm : m < 10 ^ width) (hn : n < 10 ^ width) :
    fixedDigits width m < fixedDigits width n ↔ m < n := by
  induction width generalizing m n with
  | zero =>
    obtain rfl : m = 0 := by simpa using hm
    obtain rfl : n = 0 := by simpa using hn
    simp [fixedDigits]
  | succ width ih =>
    have hlength : (fixedDigits width (m / 10)).length = (fixedDigits width (n / 10)).length := by
      simp
    have hm' : m / 10 < 10 ^ width := by omega
    have hn' : n / 10 < 10 ^ width := by omega
    have hlast := digit_lt_digit_iff (Nat.mod_lt m (show 10 > 0 by decide))
      (Nat.mod_lt n (show 10 > 0 by decide))
    simp only [fixedDigits, append_lt_append_iff hlength, ih hm' hn', fixedDigits_inj hm' hn',
      List.cons_lt_cons_iff, hlast, List.lt_irrefl, and_false, or_false]
    omega

theorem toDigits_eq_fixedDigits {width n : Nat} (hlow : 10 ^ width ≤ n)
    (h : n < 10 ^ (width + 1)) : Nat.toDigits 10 n = fixedDigits (width + 1) n := by
  induction width generalizing n with
  | zero =>
    have hn : n < 10 := by simpa using h
    have hdigits : ∀ n < 10, Nat.toDigits 10 n = fixedDigits 1 n := by decide
    exact hdigits n hn
  | succ width ih =>
    have hn : ¬ n < 10 := by
      have hpos : 0 < 10 ^ width := Nat.pow_pos (by decide)
      omega
    have hdigit : ∀ k < 10, Nat.digitChar k = Char.ofNat (0x30 + k) := by decide
    rw [Nat.toDigits_eq_if (by decide), if_neg hn, ih (by omega) (by omega),
      hdigit _ (Nat.mod_lt n (by decide))]
    rfl

end Texts

namespace Date

/-- The days up to the end of a month are no more than those before any later month, or than all
days of the year, which are those before a thirteenth. -/
theorem daysBeforeMonth_add_le {year month later : Nat} (hpos : 1 ≤ month) (hlt : month < later)
    (hle : later ≤ 13) :
    daysBeforeMonth (isLeap year) month + daysInMonth year month ≤
      daysBeforeMonth (isLeap year) later := by
  obtain ⟨k, rfl⟩ := Nat.exists_eq_add_of_le' hpos
  obtain ⟨l, rfl⟩ := Nat.exists_eq_add_of_le' (hpos.trans hlt.le)
  have hk : k < (monthLengths (isLeap year)).length := by
    rw [length_monthLengths]
    omega
  rw [daysBeforeMonth_succ, daysBeforeMonth_succ, daysInMonth_succ year hk, ← List.sum_take_succ]
  exact (List.take_prefix_take_left (by omega)).sublist.sum_le_sum fun _ _ => Nat.zero_le _

variable {d e : Date}

theorem dayNumber_lt_of_month_lt (hd : d.IsValid) (he : e.IsValid) (hyear : d.year = e.year)
    (hmonth : d.month < e.month) : d.dayNumber < e.dayNumber := by
  have hdays : daysBeforeMonth (isLeap e.year) d.month + daysInMonth e.year d.month ≤
      daysBeforeMonth (isLeap e.year) e.month :=
    daysBeforeMonth_add_le hd.month_pos hmonth (he.month_le.trans (by decide))
  have hday := hd.day_le
  have hpos := hd.day_pos
  rw [hyear] at hday
  simp only [dayNumber, hyear]
  omega

theorem dayNumber_lt_iff (hd : d.IsValid) (he : e.IsValid) (hyear : d.year = e.year) :
    d.dayNumber < e.dayNumber ↔ d.month < e.month ∨ d.month = e.month ∧ d.day < e.day := by
  rcases Nat.lt_trichotomy d.month e.month with h | h | h
  · simp [h, dayNumber_lt_of_month_lt hd he hyear h]
  · have hpos := hd.day_pos
    have hpos' := he.day_pos
    simp only [dayNumber, hyear, h, Nat.lt_irrefl, true_and, false_or]
    omega
  · have := dayNumber_lt_of_month_lt he hd hyear.symm h
    omega

theorem daysBeforeYear_succ {year : Nat} (hpos : 1 ≤ year) :
    daysBeforeYear (year + 1) = daysBeforeYear year + daysBeforeMonth (isLeap year) 13 := by
  obtain ⟨k, rfl⟩ := Nat.exists_eq_add_of_le' hpos
  have hyear : daysBeforeMonth (isLeap (k + 1)) 13 = if isLeap (k + 1) then 366 else 365 := by
    cases isLeap (k + 1) <;> rfl
  have hleap : isLeap (k + 1) = true ↔ 4 ∣ k + 1 ∧ (¬ 100 ∣ k + 1 ∨ 400 ∣ k + 1) := by
    simp [isLeap, Nat.dvd_iff_mod_eq_zero]
  have hfour : 100 ∣ k + 1 → 4 ∣ k + 1 := (Nat.dvd_trans (by decide) ·)
  have hcentury : 400 ∣ k + 1 → 100 ∣ k + 1 := (Nat.dvd_trans (by decide) ·)
  have hle : k / 100 ≤ k := Nat.div_le_self k 100
  simp only [daysBeforeYear, Nat.add_sub_cancel, hyear, hleap, Nat.succ_div]
  generalize k / 4 = fours, k / 100 = centuries, k / 400 = cycles at *
  -- a year that a longer cycle ends in is one that the shorter cycles end in
  split_ifs <;> grind

theorem daysBeforeYear_le {year later : Nat} (hpos : 1 ≤ year) (h : year ≤ later) :
    daysBeforeYear year ≤ daysBeforeYear later := by
  induction h with
  | refl => exact le_rfl
  | step h ih =>
    rw [Nat.succ_eq_add_one, daysBeforeYear_succ (hpos.trans h)]
    exact ih.trans (Nat.le_add_right _ _)

theorem dayNumber_lt_of_year_lt (hd : d.IsValid) (hyear : d.year < e.year) :
    d.dayNumber < e.dayNumber := by
  have hmonth : daysBeforeMonth (isLeap d.year) d.month + daysInMonth d.year d.month ≤
      daysBeforeMonth (isLeap d.year) 13 :=
    daysBeforeMonth_add_le hd.month_pos (Nat.lt_succ_of_le hd.month_le) le_rfl
  have hnext := daysBeforeYear_succ hd.year_pos
  have hlater : daysBeforeYear (d.year + 1) ≤ daysBeforeYear e.year :=
    daysBeforeYear_le (Nat.le_add_left _ _) hyear
  have hday := hd.day_le
  have hpos := hd.day_pos
  simp only [dayNumber]
  omega

end Date

namespace DateTime

variable (d : DateTime)

/-- The second that a clock shows, counted from the start of the year 1 on that clock. -/
def clockSecond : Nat := d.reading.val / 1000000

theorem clockSecond_eq :
    d.clockSecond = ((d.date.dayNumber * 24 + d.hour) * 60 + d.minute) * 60 + d.second := by
  rw [(date_spec d).2]
  unfold clockSecond hour minute second
  omega

variable {d} {e : DateTime}

theorem fields_eq_of_clockSecond_eq (h : d.clockSecond = e.clockSecond) :
    d.date = e.date ∧ d.hour = e.hour ∧ d.minute = e.minute ∧ d.second = e.second := by
  unfold clockSecond at h
  have hday : d.reading.val / 86400000000 = e.reading.val / 86400000000 := by omega
  refine ⟨congrArg Date.ofDayNumber hday, ?_, ?_, ?_⟩
  · unfold hour
    omega
  · unfold minute
    omega
  · exact congrArg (· % 60) h

theorem clockSecond_lt_of_year_lt (h : d.date.year < e.date.year) :
    d.clockSecond < e.clockSecond := by
  have hday := Date.dayNumber_lt_of_year_lt d.date_spec.1 h
  have hhour := d.hour_lt
  have hminute := d.minute_lt
  have hsecond := d.second_lt
  rw [d.clockSecond_eq, e.clockSecond_eq]
  omega

end DateTime

end Proceedings
