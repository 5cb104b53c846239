import Proceedings.Artifact
import Proceedings.Proofs.Calendar.Order

/-! # Names in the order of time

Names of artifacts stand in the order of the times that their clocks showed: by the digits of the
year, and in one year by the second. From the year 1000 on that is the order of the seconds, which
is the order of time for clocks that keep one offset.
-/

namespace Proceedings

/-- The second of UTC that a reading with an offset falls into, counted from the start of the
year 1. -/
def DateTime.utcSecond? (d : DateTime) : Option Int := d.instant?.map (· / 1000000)

namespace Artifact

variable {d e : DateTime}

def timeInYear (d : DateTime) : List Char :=
  fixedDigits 2 d.date.month ++ '-' :: (fixedDigits 2 d.date.day ++ '_' ::
    (fixedDigits 2 d.hour ++ '-' :: (fixedDigits 2 d.minute ++ '-' :: fixedDigits 2 d.second)))

/-- The UTC date and time of a reading, each part in its full width. -/
def utcTimeChars (d : DateTime) : List Char :=
  fixedDigits 4 d.utc.date.year ++ '-' :: timeInYear d.utc

/-- Whether the names that are made at a reading stand before those made at another, whatever their
identifiers and suffixes are. -/
def SortsBefore (d e : DateTime) : Prop :=
  ∀ (u v : Uuid) (suffix suffix' : String), name d u suffix < name e v suffix'

theorem timeChars_eq (d : DateTime) :
    timeChars d = Nat.toDigits 10 d.date.year ++ '-' :: timeInYear d := by
  simp [timeChars, timeInYear]

@[simp] theorem length_timeInYear (d : DateTime) : (timeInYear d).length = 14 := by
  simp [timeInYear]

theorem field_lt_iff {mark : Char} {m n : Nat} {x y : List Char} (hm : m < 10 ^ 2)
    (hn : n < 10 ^ 2) :
    fixedDigits 2 m ++ mark :: x < fixedDigits 2 n ++ mark :: y ↔ m < n ∨ m = n ∧ x < y := by
  have hlength : (fixedDigits 2 m).length = (fixedDigits 2 n).length := by simp
  simp [append_lt_append_iff hlength, fixedDigits_lt_iff hm hn, fixedDigits_inj hm hn]

theorem timeInYear_lt_iff (hyear : d.date.year = e.date.year) :
    timeInYear d < timeInYear e ↔ d.clockSecond < e.clockSecond := by
  have hd := d.date_spec.1
  have he := e.date_spec.1
  have hdays := Date.dayNumber_lt_iff hd he hyear
  have hdays' := Date.dayNumber_lt_iff he hd hyear.symm
  have hmonth := hd.month_le
  have hmonth' := he.month_le
  have hday := hd.day_le.trans (Date.daysInMonth_le _ _)
  have hday' := he.day_le.trans (Date.daysInMonth_le _ _)
  have hhour := d.hour_lt
  have hhour' := e.hour_lt
  have hminute := d.minute_lt
  have hminute' := e.minute_lt
  have hsecond := d.second_lt
  have hsecond' := e.second_lt
  simp only [timeInYear]
  rw [field_lt_iff (by omega) (by omega), field_lt_iff (by omega) (by omega),
    field_lt_iff (by omega) (by omega), field_lt_iff (by omega) (by omega),
    fixedDigits_lt_iff (by omega) (by omega), d.clockSecond_eq, e.clockSecond_eq]
  omega

theorem toDigits_inj {m n : Nat} : Nat.toDigits 10 m = Nat.toDigits 10 n ↔ m = n := by
  refine ⟨fun h => ?_, fun h => by rw [h]⟩
  rw [← Nat.ofDigitChars_ten_toDigits (n := m), h, Nat.ofDigitChars_ten_toDigits]

theorem mark_lt_of_mem_toDigits {n : Nat} : ∀ c ∈ Nat.toDigits 10 n, '-' < c := by
  intro c hc
  have hdigit := Nat.isDigit_of_mem_toDigits (by decide) (by decide) hc
  exact Nat.lt_of_lt_of_le (by decide) (Char.isDigit_iff_toNat.mp hdigit).1

theorem timeInYear_eq_iff (hyear : d.date.year = e.date.year) :
    timeInYear d = timeInYear e ↔ d.clockSecond = e.clockSecond := by
  constructor
  · intro h
    have hle : ¬ d.clockSecond < e.clockSecond := by
      rw [← timeInYear_lt_iff hyear, h]
      exact List.lt_irrefl _
    have hge : ¬ e.clockSecond < d.clockSecond := by
      rw [← timeInYear_lt_iff hyear.symm, h]
      exact List.lt_irrefl _
    omega
  · intro h
    obtain ⟨hdate, hhour, hminute, hsecond⟩ := DateTime.fields_eq_of_clockSecond_eq h
    rw [timeInYear, hdate, hhour, hminute, hsecond, timeInYear]

/-- The order of any two names: the digits of the year decide first, then the second that the clocks
showed, and of one second the identifiers and suffixes. -/
theorem name_lt_iff (u v : Uuid) (suffix suffix' : String) :
    name d u suffix < name e v suffix' ↔
      Nat.toDigits 10 d.date.year < Nat.toDigits 10 e.date.year ∨
        d.date.year = e.date.year ∧ (d.clockSecond < e.clockSecond ∨
          d.clockSecond = e.clockSecond ∧ u.name ++ suffix < v.name ++ suffix') := by
  have hchars (d : DateTime) (u : Uuid) (suffix : String) : (name d u suffix).toList =
      Nat.toDigits 10 d.date.year ++ '-' :: (timeInYear d ++ '_' :: (u.name ++ suffix).toList) := by
    simp [name, stem, timeChars_eq]
  have hlength : (timeInYear d).length = (timeInYear e).length := by simp
  rw [String.lt_iff_toList_lt, String.lt_iff_toList_lt, hchars, hchars,
    append_mark_lt_iff mark_lt_of_mem_toDigits mark_lt_of_mem_toDigits, toDigits_inj]
  refine or_congr_right (and_congr_right fun hyear => ?_)
  rw [append_lt_append_iff hlength, timeInYear_lt_iff hyear, timeInYear_eq_iff hyear]
  simp

/-- One reading sorts before another by the digits of the year, or in one year by the second that
the clocks showed. -/
theorem sortsBefore_iff : SortsBefore d e ↔
    Nat.toDigits 10 d.date.year < Nat.toDigits 10 e.date.year ∨
      d.date.year = e.date.year ∧ d.clockSecond < e.clockSecond := by
  simp only [SortsBefore, name_lt_iff]
  constructor
  · intro h
    -- names that end alike are told apart by the readings alone
    simpa using h ⟨0⟩ ⟨0⟩ "" ""
  · rintro (h | ⟨hyear, h⟩) u v suffix suffix'
    · exact .inl h
    · exact .inr ⟨hyear, .inl h⟩

theorem toDigits_year (hyear : 1000 ≤ d.date.year) :
    Nat.toDigits 10 d.date.year = fixedDigits 4 d.date.year :=
  toDigits_eq_fixedDigits hyear (Nat.lt_succ_of_le d.date_spec.1.year_le)

theorem sortsBefore_iff_of_year (hd : 1000 ≤ d.date.year) (he : 1000 ≤ e.date.year) :
    SortsBefore d e ↔ d.clockSecond < e.clockSecond := by
  have hdle := Nat.lt_succ_of_le d.date_spec.1.year_le
  have hele := Nat.lt_succ_of_le e.date_spec.1.year_le
  rw [sortsBefore_iff, toDigits_year hd, toDigits_year he, fixedDigits_lt_iff hdle hele]
  constructor
  · rintro (h | ⟨-, h⟩)
    · exact DateTime.clockSecond_lt_of_year_lt h
    · exact h
  · intro h
    rcases Nat.lt_trichotomy d.date.year e.date.year with hyear | hyear | hyear
    · exact .inl hyear
    · exact .inr ⟨hyear, h⟩
    · exact absurd (DateTime.clockSecond_lt_of_year_lt hyear) (Nat.lt_asymm h)

theorem clockSecond_lt_iff_of_offset {o : Offset} (hd : d.offset = some o) (he : e.offset = some o)
    (hwhole : o.micros % 1000000 = 0) {m n : Int} (hm : d.utcSecond? = some m)
    (hn : e.utcSecond? = some n) : d.clockSecond < e.clockSecond ↔ m < n := by
  simp only [DateTime.utcSecond?, DateTime.instant?, hd, he, Option.map_some,
    Option.some.injEq] at hm hn
  subst hm hn
  unfold DateTime.clockSecond
  omega

/-- The time in a name is that of UTC in its full width if and only if the clock showed the second
of UTC, in a year of four digits. -/
theorem timeChars_eq_utcTimeChars_iff :
    timeChars d = utcTimeChars d ↔ 1000 ≤ d.date.year ∧ d.clockSecond = d.utc.clockSecond := by
  rw [timeChars_eq, utcTimeChars]
  constructor
  · intro h
    obtain ⟨hyears, htimes⟩ := List.append_inj' h (by simp)
    have hfour : 1000 ≤ d.date.year := by
      by_contra hshort
      have hlength : (Nat.toDigits 10 d.date.year).length ≤ 3 :=
        (Nat.length_toDigits_le_iff (by decide) (by decide)).mpr (by omega)
      rw [hyears, length_fixedDigits] at hlength
      omega
    have hdle := Nat.lt_succ_of_le d.date_spec.1.year_le
    have hule := Nat.lt_succ_of_le d.utc.date_spec.1.year_le
    rw [toDigits_year hfour, fixedDigits_inj hdle hule] at hyears
    exact ⟨hfour, (timeInYear_eq_iff hyears).mp (List.cons.inj htimes).2⟩
  · rintro ⟨hyear, h⟩
    have hdate := (DateTime.fields_eq_of_clockSecond_eq h).1
    rw [toDigits_year hyear, (timeInYear_eq_iff (by rw [hdate])).mpr h, hdate]

/-- One reading sorts before another by the digits of the year, or in one year by the seconds that
the clocks showed; from the year 1000 on by these seconds alone. So clocks that keep one offset of
whole seconds, such as UTC, give names in the order of the seconds of UTC from then on. The time in
a name is that of UTC in its full width only if the clock showed UTC to the second, in a year of
four digits. -/
theorem sortsBefore_of_clocks (d e : DateTime) :
    (SortsBefore d e ↔ Nat.toDigits 10 d.date.year < Nat.toDigits 10 e.date.year ∨
      d.date.year = e.date.year ∧ d.clockSecond < e.clockSecond) ∧
    (1000 ≤ d.date.year → 1000 ≤ e.date.year →
      (SortsBefore d e ↔ d.clockSecond < e.clockSecond) ∧
      ∀ o, d.offset = some o → e.offset = some o → o.micros % 1000000 = 0 →
        ∀ m n, d.utcSecond? = some m → e.utcSecond? = some n → (SortsBefore d e ↔ m < n)) ∧
    (timeChars d = utcTimeChars d ↔ 1000 ≤ d.date.year ∧ d.clockSecond = d.utc.clockSecond) := by
  refine ⟨sortsBefore_iff, fun hd he => ⟨sortsBefore_iff_of_year hd he, ?_⟩,
    timeChars_eq_utcTimeChars_iff⟩
  intro o hdo heo hwhole m n hm hn
  rw [sortsBefore_iff_of_year hd he]
  exact clockSecond_lt_iff_of_offset hdo heo hwhole hm hn

def pastMidnight : DateTime := ⟨⟨63844849800000000, by decide⟩, Offset.ofMicros? 7200000000, none⟩

def beforeMidnight : DateTime := ⟨⟨63844847999000000, by decide⟩, Offset.ofMicros? 7200000000, none⟩

def lateEvening : DateTime := ⟨⟨63844846200000000, by decide⟩, some .utc, none⟩

theorem sortsBefore_of_clocks_leapNight :
    (∃ m n, beforeMidnight.utcSecond? = some m ∧ pastMidnight.utcSecond? = some n ∧ m < n) ∧
      SortsBefore beforeMidnight pastMidnight ∧
      timeChars lateEvening = utcTimeChars lateEvening := by
  obtain ⟨-, hsorts, -⟩ := sortsBefore_of_clocks beforeMidnight pastMidnight
  obtain ⟨-, -, htime⟩ := sortsBefore_of_clocks lateEvening lateEvening
  obtain ⟨-, hutc⟩ := hsorts (by decide) (by decide)
  have hlt : (63844840799 : Int) < 63844842600 := by decide
  refine ⟨⟨_, _, rfl, rfl, hlt⟩, ?_, htime.mpr ⟨by decide, by decide⟩⟩
  exact (hutc _ rfl rfl (by decide) _ _ rfl rfl).mpr hlt

def oldYear : DateTime := ⟨⟨31525372799000000, by decide⟩, some .utc, none⟩

def newYear : DateTime := ⟨⟨31525372800000000, by decide⟩, some .utc, none⟩

/-- A later time stands first where clocks keep different offsets, and where the years differ in the
number of their digits. -/
theorem sortsBefore_earlier :
    ((∃ m n, pastMidnight.utcSecond? = some m ∧ lateEvening.utcSecond? = some n ∧ m < n) ∧
      ¬ SortsBefore pastMidnight lateEvening ∧ SortsBefore lateEvening pastMidnight) ∧
    (∃ m n, oldYear.utcSecond? = some m ∧ newYear.utcSecond? = some n ∧ m < n) ∧
      ¬ SortsBefore oldYear newYear ∧ SortsBefore newYear oldYear := by
  simp only [sortsBefore_iff]
  exact ⟨⟨⟨_, _, rfl, rfl, by decide⟩, by decide, by decide⟩, ⟨_, _, rfl, rfl, by decide⟩,
    by decide, by decide⟩

end Artifact

end Proceedings
