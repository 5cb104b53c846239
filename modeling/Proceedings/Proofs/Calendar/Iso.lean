import Proceedings.Proofs.Calendar.DateTime
import Proceedings.Proofs.Calendar.Numeral

/-! # Reading what was written

A date and time of day that is written with hyphens and colons, with one of the three forms of a
fraction and with an offset of whole seconds, is read back as the reading that it was written from.
-/

namespace Proceedings.Iso

/-- A fraction of a second as it may be written: nothing, milliseconds or microseconds. -/
inductive IsFraction : Nat → Text → Prop where
  | none : IsFraction 0 []
  | millis {k : Nat} (h : k < 1000) : IsFraction (k * 1000) (.scalar '.' :: digitsText 3 k)
  | micros {n : Nat} (h : n < 1000000) : IsFraction n (.scalar '.' :: digitsText 6 n)

theorem fraction_digitsText {width n : Nat} (hw : width ≤ 6) (hn : n < 10 ^ width)
    (hour minute second : Nat) :
    fraction? hour minute second (digitsText width n) =
      some ⟨hour, minute, second, n * 10 ^ (6 - width), false⟩ := by
  have hread := digits_digitsText_of_lt hn []
  rw [List.append_nil] at hread
  simp [fraction?, Nat.min_eq_left hw, hread, goesOn]

section Fields

variable {left n : Nat} {colons : Bool} {done : List Nat}

theorem fields_last (hn : n < 100) :
    fields? left colons done (digitsText 2 n) =
      some ⟨(n :: done).reverse.getD 0 0, (n :: done).reverse.getD 1 0,
        (n :: done).reverse.getD 2 0, 0, false⟩ := by
  have hread := digits_digitsText_of_lt (show n < 10 ^ 2 from hn) []
  rw [List.append_nil] at hread
  rw [fields?, hread]
  rfl

theorem fields_colon (hn : n < 100) (hcolons : done = [] ∨ colons = true) {rest : Text}
    (hrest : rest ≠ []) :
    fields? (left + 1) colons done (digitsText 2 n ++ .scalar ':' :: rest) =
      fields? left true (n :: done) rest := by
  have hread := digits_digitsText_of_lt (show n < 10 ^ 2 from hn) (.scalar ':' :: rest)
  rw [fields?, hread]
  rcases hcolons with rfl | rfl <;> simp [hrest, isChar_scalar]

theorem fields_point (hn : n < 100) (hdone : done ≠ []) {rest : Text} (hrest : rest ≠ []) :
    fields? left true done (digitsText 2 n ++ .scalar '.' :: rest) =
      fraction? ((n :: done).reverse.getD 0 0) ((n :: done).reverse.getD 1 0)
        ((n :: done).reverse.getD 2 0) rest := by
  have hread := digits_digitsText_of_lt (show n < 10 ^ 2 from hn) (.scalar '.' :: rest)
  rw [fields?, hread]
  cases left <;> simp [hrest, hdone, isChar_scalar]

end Fields

def clockText (hour minute second : Nat) (fraction : Text) : Text :=
  digitsText 2 hour ++ .scalar ':' :: (digitsText 2 minute ++ .scalar ':' ::
    (digitsText 2 second ++ fraction))

theorem digitsText_append_ne_nil (width n : Nat) (t : Text) :
    digitsText (width + 1) n ++ t ≠ [] := by
  simp [digitsText_succ]

theorem clock_clockText {hour minute second micro : Nat} {fraction : Text} (hh : hour < 100)
    (hm : minute < 100) (hs : second < 100) (hf : IsFraction micro fraction) :
    clock? (clockText hour minute second fraction) =
      some ⟨hour, minute, second, micro, false⟩ := by
  rw [clock?, clockText, fields_colon hh (.inl rfl) (digitsText_append_ne_nil _ _ _),
    fields_colon hm (.inr rfl) (digitsText_append_ne_nil _ _ _)]
  cases hf with
  | none => rw [List.append_nil, fields_last hs]; rfl
  | millis hk =>
    rw [fields_point hs (List.cons_ne_nil _ _) (by simp [digitsText_succ]),
      fraction_digitsText (by decide) hk]
    rfl
  | micros hn =>
    rw [fields_point hs (List.cons_ne_nil _ _) (by simp [digitsText_succ]),
      fraction_digitsText (by decide) hn]
    simp

theorem clock_minutes {hour minute : Nat} (hh : hour < 100) (hm : minute < 100) :
    clock? (digitsText 2 hour ++ .scalar ':' :: digitsText 2 minute) =
      some ⟨hour, minute, 0, 0, false⟩ := by
  rw [clock?, fields_colon hh (.inl rfl) (by simp [digitsText_succ]), fields_last hm]
  rfl

theorem isZoneMark_of_mem_clockText {hour minute second micro : Nat} {fraction : Text}
    (hf : IsFraction micro fraction) {p : CodePoint}
    (hp : p ∈ clockText hour minute second fraction) : isZoneMark p = false := by
  have hdigit {width n : Nat} (h : p ∈ digitsText width n) : isZoneMark p = false :=
    isZoneMark_of_isAsciiDigit (isAsciiDigit_of_mem h)
  simp only [clockText, List.mem_append, List.mem_cons] at hp
  rcases hp with hp | rfl | hp | rfl | hp | hp
  · exact hdigit hp
  · rfl
  · exact hdigit hp
  · rfl
  · exact hdigit hp
  · cases hf with
    | none => cases hp
    | _ =>
      rcases List.mem_cons.mp hp with rfl | hp
      · rfl
      · exact hdigit hp

/-- An offset of whole seconds is written as a mark and what is read behind the mark as that
offset. -/
theorem zone_chars (o : Offset) (ho : o.micros % 1000000 = 0) :
    ∃ mark rest, Text.ofChars o.chars = mark :: rest ∧ isZoneMark mark = true ∧
      zone? mark rest = some o.micros := by
  have hlower := o.lower
  have hupper := o.upper
  let n := o.micros.natAbs
  let mark : CodePoint := .scalar (if o.micros < 0 then '-' else '+')
  have hmark : isZoneMark mark = true ∧ isChar 'Z' mark = false ∧
      isChar '-' mark = decide (o.micros < 0) := by
    by_cases h : o.micros < 0 <;> simp [mark, h, isZoneMark, isChar_scalar]
  have hsign (size : Int) (h : size = n) :
      (if isChar '-' mark then -size else size) = o.micros := by
    by_cases hneg : o.micros < 0 <;> simp [hmark.2.2, hneg] <;> omega
  have hh : n / 3600000000 < 100 := by omega
  have hm : n / 60000000 % 60 < 100 := by omega
  have hwhole : n % 1000000 = 0 := by omega
  by_cases hs : n % 60000000 = 0
  · refine ⟨mark, digitsText 2 (n / 3600000000) ++ .scalar ':' ::
      digitsText 2 (n / 60000000 % 60), ?_, hmark.1, ?_⟩
    · simp [Text.ofChars, Offset.chars, digitsText, mark, n, hs, hwhole]
    · rw [zone?, hmark.2.1, clock_minutes hh hm]
      simp only [Bool.false_eq_true, if_false, Option.bind_eq_bind, Option.bind_some,
        Option.pure_def, Option.some.injEq]
      refine hsign _ ?_
      split <;> omega
  · refine ⟨mark, clockText (n / 3600000000) (n / 60000000 % 60) (n / 1000000 % 60) [],
      ?_, hmark.1, ?_⟩
    · simp [Text.ofChars, Offset.chars, clockText, digitsText, mark, n, hs, hwhole]
    · rw [zone?, hmark.2.1, clock_clockText hh hm (by omega) .none]
      simp only [Bool.false_eq_true, if_false, Option.bind_eq_bind, Option.bind_some,
        Option.pure_def, Option.some.injEq]
      refine hsign _ ?_
      split <;> omega

theorem time_clockText {hour minute second micro : Nat} {fraction : Text} (hh : hour < 100)
    (hm : minute < 100) (hs : second < 100) (hf : IsFraction micro fraction) (o : Offset)
    (ho : o.micros % 1000000 = 0) :
    time? (clockText hour minute second fraction ++ Text.ofChars o.chars) =
      some (⟨hour, minute, second, micro, false⟩, some o.micros) := by
  obtain ⟨mark, rest, hzone, hmark, hread⟩ := zone_chars o ho
  have hclock : ∀ p ∈ clockText hour minute second fraction, (!isZoneMark p) = true := by
    intro p hp
    rw [isZoneMark_of_mem_clockText hf hp]
    rfl
  rw [time?, hzone, List.takeWhile_append_of_pos hclock, List.dropWhile_append_of_pos hclock]
  simp [hmark, clock_clockText hh hm hs hf, hread]

def dateText (d : Date) : Text :=
  digitsText 4 d.year ++ .scalar '-' :: (digitsText 2 d.month ++ .scalar '-' ::
    digitsText 2 d.day)

@[simp] theorem length_dateText (d : Date) : (dateText d).length = 10 := by
  simp [dateText]

theorem exists_digit (width n : Nat) (t : Text) :
    ∃ p rest, digitsText (width + 1) n ++ t = p :: rest ∧ p.isAsciiDigit = true := by
  obtain ⟨p, rest, h⟩ := List.exists_cons_of_ne_nil
    (List.ne_nil_of_length_eq_add_one (length_digitsText (width + 1) n))
  have hp : p ∈ digitsText (width + 1) n := h ▸ List.mem_cons_self
  exact ⟨p, rest ++ t, by rw [h, List.cons_append], isAsciiDigit_of_mem hp⟩

theorem date_dateText {d : Date} (hy : d.year < 10000) (hm : d.month < 100) (hd : d.day < 100) :
    date? (dateText d) = some d := by
  have hyear := digits_digitsText_of_lt (show d.year < 10 ^ 4 from hy)
    (.scalar '-' :: (digitsText 2 d.month ++ .scalar '-' :: digitsText 2 d.day))
  have hmonth := digits_digitsText_of_lt (show d.month < 10 ^ 2 from hm)
    (.scalar '-' :: digitsText 2 d.day)
  have hday := digits_digitsText_of_lt (show d.day < 10 ^ 2 from hd) []
  rw [List.append_nil] at hday
  obtain ⟨p, rest, hp, hdigit⟩ := exists_digit 1 d.month (.scalar '-' :: digitsText 2 d.day)
  rw [dateText, date?, hyear]
  simp [isChar_scalar]
  rw [hp] at hmonth ⊢
  split
  · next h =>
    obtain ⟨rfl, -⟩ := List.cons.inj h
    cases hdigit
  · simp [hmonth, hyphen?, isChar_scalar, hday]

theorem separator_dateText (d : Date) (t : Text) :
    separator? (dateText d ++ t) = some 10 := by
  obtain ⟨p, rest, hp, hdigit⟩ := exists_digit 1 d.month
    (.scalar '-' :: (digitsText 2 d.day ++ t))
  have hsplit : dateText d ++ t = digitsText 4 d.year ++ .scalar '-' :: p :: rest := by
    rw [← hp]
    simp [dateText]
  have hlength : (dateText d ++ t).length ≠ 7 := by
    simp
    omega
  have hw : isChar 'W' p = false := isChar_of_isAsciiDigit hdigit rfl
  have hfour : (dateText d ++ t)[4]? = some (.scalar '-') := by
    rw [hsplit, List.getElem?_append_right (by simp)]
    simp
  have hfive : (dateText d ++ t)[5]? = some p := by
    rw [hsplit, List.getElem?_append_right (by simp)]
    simp
  simp only [separator?, if_neg hlength, hfour, hfive]
  simp [isChar_scalar, hw]

theorem withoutSurrogate_eq {t : Text} (ht : ∀ p ∈ t, p.isSurrogate = false) :
    withoutSurrogate? t = some t := by
  have hplace (i : Nat) : t[i]?.any CodePoint.isSurrogate = false := by
    cases h : t[i]? with
    | none => rfl
    | some p => exact ht p (List.mem_of_getElem? h)
  have hany : t.any CodePoint.isSurrogate = false := by simpa using ht
  simp [withoutSurrogate?, List.find?, hplace, hany]

theorem isSurrogate_of_mem_ofChars {cs : List Char} {p : CodePoint} (hp : p ∈ Text.ofChars cs) :
    p.isSurrogate = false := by
  obtain ⟨c, -, rfl⟩ := List.mem_map.mp hp
  rfl

theorem parts_written {d : Date} (hd : d.IsValid) (mark : CodePoint)
    {hour minute second micro : Nat} {fraction : Text} (hh : hour < 24) (hm : minute < 60)
    (hs : second < 60) (hf : IsFraction micro fraction) (o : Offset)
    (ho : o.micros % 1000000 = 0)
    (hplain : ∀ p ∈ dateText d ++ mark ::
      (clockText hour minute second fraction ++ Text.ofChars o.chars), p.isSurrogate = false) :
    parts? (dateText d ++ mark :: (clockText hour minute second fraction ++ Text.ofChars o.chars)) =
      some (d, ⟨hour, minute, second, micro, false⟩, some o.micros) := by
  have hday := Date.daysInMonth_le d.year d.month
  have hdate := date_dateText (d := d) (by have := hd.year_le; omega)
    (by have := hd.month_le; omega) (by have := hd.day_le; omega)
  have htime := time_clockText (show hour < 100 by omega) (show minute < 100 by omega)
    (show second < 100 by omega) hf o ho
  have hlength : ¬ (dateText d ++ mark ::
      (clockText hour minute second fraction ++ Text.ofChars o.chars)).length < 7 := by
    simp
    omega
  rw [parts?, if_neg hlength, withoutSurrogate_eq hplain]
  simp only [Option.bind_eq_bind, Option.bind_some, separator_dateText,
    List.take_left' (length_dateText d), List.drop_left' (length_dateText d), hdate, htime,
    Option.pure_def]

theorem read_of_parts {t : Text} {date : Date} {clock : Clock} {o : Offset} {d : DateTime}
    (hparts : parts? t = some (date, clock, some o.micros)) (hdate : date.IsValid)
    (hh : clock.hour < 24) (hm : clock.minute < 60) (hs : clock.second < 60)
    (hfields : DateTime.ofFields? date clock.hour clock.minute clock.second clock.micro (some o) =
      some d) :
    read t = .ok d := by
  have hyear : ¬ (date.year = 0 ∨ 9999 < date.year) := by
    have := hdate.year_pos
    have := hdate.year_le
    omega
  have hmonth : ¬ (date.month = 0 ∨ 12 < date.month) := by
    have := hdate.month_pos
    have := hdate.month_le
    omega
  have hday : ¬ (date.day = 0 ∨ Date.daysInMonth date.year date.month < date.day) := by
    have := hdate.day_pos
    have := hdate.day_le
    omega
  have hhour := Nat.not_le.mpr hh
  have hminute := Nat.not_le.mpr hm
  have hsecond := Nat.not_le.mpr hs
  rw [read, hparts]
  simp [bind, Except.bind, hyear, hmonth, hday, hhour, hminute, hsecond, hfields]

/-- A reading that is written with an offset of whole seconds is read back with that offset. -/
theorem read_written (d : DateTime) (mark : Char) {fraction : List Char}
    (hf : IsFraction d.micro (Text.ofChars fraction)) (o : Offset) (ho : o.micros % 1000000 = 0) :
    read (Text.ofChars (d.secondsChars mark ++ fraction ++ o.chars)) =
      .ok ⟨d.reading, some o, none⟩ := by
  have htext : Text.ofChars (d.secondsChars mark ++ fraction ++ o.chars) =
      dateText d.date ++ .scalar mark ::
        (clockText d.hour d.minute d.second (Text.ofChars fraction) ++ Text.ofChars o.chars) := by
    simp [Text.ofChars, DateTime.secondsChars, dateText, clockText, digitsText]
  have hvalid := d.date_spec.1
  have hparts := parts_written hvalid (.scalar mark) d.hour_lt d.minute_lt d.second_lt hf o ho
    (fun p hp => isSurrogate_of_mem_ofChars (htext ▸ hp))
  rw [htext]
  exact read_of_parts hparts hvalid d.hour_lt d.minute_lt d.second_lt (d.ofFields_fields (some o))

theorem isFraction_fractionChars (d : DateTime) :
    IsFraction d.micro (Text.ofChars d.fractionChars) := by
  have hlt := d.micro_lt
  unfold DateTime.fractionChars
  split
  · next h => rw [h]; exact .none
  · split
    · next h =>
      have hmillis : d.micro / 1000 * 1000 = d.micro := by omega
      have hform := IsFraction.millis (k := d.micro / 1000) (by omega)
      rw [hmillis] at hform
      exact hform
    · exact .micros hlt

end Proceedings.Iso
