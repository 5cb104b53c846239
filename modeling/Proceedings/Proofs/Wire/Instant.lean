import Proceedings.Proofs.Answer
import Proceedings.Proofs.Calendar.Iso
import Proceedings.Wire.Instant

/-! # Canonical texts of instants

A reading has a canonical text if it has a UTC reading, and that text is read back as its UTC
reading. So the canonical texts stand for the instants: each instant has one, and no two share one.
-/

namespace Proceedings

/-- The canonical text of a reading: that of its UTC reading. -/
def DateTime.canonicalText (d : DateTime) : Text := Text.ofChars d.utc.canonicalChars

namespace Wire

variable {d e : DateTime} {b : Breach}

theorem toUtc_of_hasUtc (h : d.HasUtc) (b : Breach) : toUtc d b = .ok d.utc := by
  obtain ⟨n, u, hn, hu⟩ := h
  simp [toUtc, hn, hu, DateTime.utc]

theorem toUtc_of_not_aware (h : d.isAware = false) (b : Breach) :
    toUtc d b = .error (.breach b) := by
  have hn : d.instant? = none := by simpa [DateTime.isAware, DateTime.instant?] using h
  simp [toUtc, hn]

theorem toUtc_of_aware (haware : d.isAware = true) (h : ¬ d.HasUtc) (b : Breach) :
    toUtc d b = .error .dateRange := by
  obtain ⟨o, ho⟩ := Option.isSome_iff_exists.mp haware
  have hn : d.instant? = some (d.reading.val - o.micros) := by simp [DateTime.instant?, ho]
  have hu : DateTime.ofInstant? (d.reading.val - o.micros) = none := by
    cases hu : DateTime.ofInstant? (d.reading.val - o.micros) with
    | none => rfl
    | some u => exact absurd ⟨_, u, hn, hu⟩ h
  simp [toUtc, hn, hu]

theorem utc_utc (h : d.HasUtc) : d.utc.HasUtc ∧ d.utc.utc = d.utc := by
  obtain ⟨n, u, hn, hu⟩ := h
  have hutc : d.utc = u := by simp [DateTime.utc, hn, hu]
  have hinstant := (DateTime.ofInstant_eq_some hu).2
  rw [hutc]
  exact ⟨⟨n, u, hinstant, hu⟩, by simp [DateTime.utc, hinstant, hu]⟩

theorem formatReading_of_hasUtc (h : d.HasUtc) : formatReading d = .ok d.canonicalText := by
  rw [formatReading, toUtc_of_hasUtc h]
  rfl

theorem formatReading_ok_iff {t : Text} :
    formatReading d = .ok t ↔ d.HasUtc ∧ t = d.canonicalText := by
  by_cases h : d.HasUtc
  · simp [formatReading_of_hasUtc h, h, eq_comm]
  · cases haware : d.isAware with
    | true => simp [formatReading, toUtc_of_aware haware h, h, bind, Except.bind]
    | false => simp [formatReading, toUtc_of_not_aware haware, h, bind, Except.bind]

theorem escapes_toUtc {f : Failure} :
    Escapes (toUtc d b) f ↔ f = .dateRange ∧ d.isAware = true ∧ ¬ d.HasUtc := by
  by_cases h : d.HasUtc
  · simp [toUtc_of_hasUtc h, h]
  · cases haware : d.isAware with
    | true => simp [toUtc_of_aware haware h, h, escapes_error, Failure.IsBreach]
    | false => simp [toUtc_of_not_aware haware]

theorem escapes_formatReading {f : Failure} :
    Escapes (formatReading d) f ↔ f = .dateRange ∧ d.isAware = true ∧ ¬ d.HasUtc := by
  simp [formatReading, escapes_bind, escapes_toUtc]

theorem spelledOut_canonicalText (d : DateTime) :
    spelledOut d.canonicalText =
      Text.ofChars (d.utc.secondsChars 'T' ++ d.utc.fractionChars ++ Offset.utc.chars) := by
  have hend : endsInUtc d.canonicalText = true := by
    simp [endsInUtc, DateTime.canonicalText, Text.ofChars, DateTime.canonicalChars]
  rw [spelledOut, if_pos hend]
  simp [DateTime.canonicalText, Text.ofChars, DateTime.canonicalChars]
  rfl

theorem read_canonicalText (h : d.HasUtc) : Iso.read (spelledOut d.canonicalText) = .ok d.utc := by
  have hoffset := h.utc_spec.1
  have hplace := h.place_utc
  rw [spelledOut_canonicalText, Iso.read_written _ _ (Iso.isFraction_fractionChars _) _ rfl,
    ← hoffset, ← hplace]

/-- A text that is read, once the letter for UTC is spelled out, stands for the UTC reading of what
is read. -/
theorem parseInstant_of_read {t : Text} (ht : t ≠ []) (hread : Iso.read (spelledOut t) = .ok d)
    (h : d.HasUtc) : parseInstant (.text t) = .ok d.utc := by
  obtain ⟨p, rest, rfl⟩ := List.exists_cons_of_ne_nil ht
  simp [parseInstant, Value.text?, parseText, hread, toUtc_of_hasUtc h]

theorem parseInstant_canonicalText (h : d.HasUtc) :
    parseInstant (.text d.canonicalText) = .ok d.utc := by
  have hne : d.canonicalText ≠ [] := by
    simp [DateTime.canonicalText, Text.ofChars, DateTime.canonicalChars]
  obtain ⟨hutc, hself⟩ := utc_utc h
  rw [parseInstant_of_read hne (read_canonicalText h) hutc, hself]

theorem parseInstant_of_canonical {time : String} (h : d.HasUtc) (hutc : d.utc = d)
    (htime : Text.ofString time = d.canonicalText) : parseInstant (.str time) = .ok d := by
  rw [Value.str, htime, parseInstant_canonicalText h, hutc]

theorem canonicalText_eq_iff (hd : d.HasUtc) (he : e.HasUtc) :
    d.canonicalText = e.canonicalText ↔ d.instant? = e.instant? := by
  rw [← hd.utc_eq_iff he]
  constructor
  · intro h
    have hread := parseInstant_canonicalText hd
    rw [h, parseInstant_canonicalText he] at hread
    exact (Except.ok.inj hread).symm
  · intro h
    rw [DateTime.canonicalText, h, DateTime.canonicalText]

theorem formatInstant_ok_iff {v : Value} {t : Text} :
    formatInstant v = .ok t ↔ ∃ d : DateTime, v = .time d ∧ d.HasUtc ∧ t = d.canonicalText := by
  cases v
  case time d => simp [formatInstant, formatReading_ok_iff]
  all_goals simp [formatInstant]

/-- Readings of one instant, and no others, are written as one text. It is read as that instant in
UTC, and what is read from a written text is written as that text again. -/
theorem formatInstant_canonical (hd : d.HasUtc) (he : e.HasUtc) :
    (∃ s u, formatInstant (.time d) = .ok s ∧ parseInstant (.text s) = .ok u ∧
      u.offset = some .utc ∧ u.instant? = d.instant?) ∧
    (∃ s t, formatInstant (.time d) = .ok s ∧ formatInstant (.time e) = .ok t ∧
      (s = t ↔ d.instant? = e.instant?)) ∧
    ∀ v s, formatInstant v = .ok s →
      ∃ u, parseInstant (.text s) = .ok u ∧ formatInstant (.time u) = .ok s := by
  have hwritten {f : DateTime} (hf : f.HasUtc) : formatInstant (.time f) = .ok f.canonicalText :=
    formatInstant_ok_iff.mpr ⟨f, rfl, hf, rfl⟩
  refine ⟨?_, ?_, ?_⟩
  · exact ⟨_, d.utc, hwritten hd, parseInstant_canonicalText hd, hd.utc_spec⟩
  · exact ⟨_, _, hwritten hd, hwritten he, canonicalText_eq_iff hd he⟩
  · intro v s h
    obtain ⟨f, rfl, hf, rfl⟩ := formatInstant_ok_iff.mp h
    obtain ⟨hutc, hself⟩ := utc_utc hf
    refine ⟨f.utc, parseInstant_canonicalText hf, ?_⟩
    rw [hwritten hutc, DateTime.canonicalText, hself, DateTime.canonicalText]

/-- A microsecond past midnight of 1 March, by a clock that is two microseconds behind UTC and still
shows the leap day. -/
def leapNight : DateTime := ⟨⟨63844847999999999, by decide⟩, some ⟨-2, by decide, by decide⟩, none⟩

def dawn : DateTime :=
  ⟨⟨63844867800000001, by decide⟩, some ⟨19800000000, by decide, by decide⟩, none⟩

theorem formatInstant_canonical_leapNight :
    leapNight.HasUtc ∧ dawn.HasUtc ∧ ∃ s u, s = Text.ofString "2024-03-01T00:00:00.000001Z" ∧
      formatInstant (.time leapNight) = .ok s ∧ formatInstant (.time dawn) = .ok s ∧
      parseInstant (.text s) = .ok u ∧ u.offset = some .utc ∧ u.instant? = leapNight.instant? := by
  have hnight : leapNight.HasUtc := DateTime.hasUtc_iff.mpr ⟨_, rfl, by decide⟩
  have hdawn : dawn.HasUtc := DateTime.hasUtc_iff.mpr ⟨_, rfl, by decide⟩
  obtain ⟨⟨s, u, hs, hu, hutc⟩, ⟨s', t, hs', ht, hsame⟩, -⟩ := formatInstant_canonical hnight hdawn
  have htext : formatInstant (.time leapNight) =
      .ok (Text.ofString "2024-03-01T00:00:00.000001Z") := by cbv
  obtain rfl := Except.ok.inj (hs.symm.trans hs')
  obtain rfl := hsame.mpr rfl
  exact ⟨hnight, hdawn, s, u, Except.ok.inj (hs.symm.trans htext), hs, ht, hu, hutc⟩

def morning : DateTime := ⟨⟨63844880400000000, by decide⟩, some .utc, none⟩

theorem hasUtc_morning : morning.HasUtc := DateTime.hasUtc_iff.mpr ⟨_, rfl, by decide⟩

theorem parse_morning : parseInstant (.str "2024-03-01T09:00:00Z") = .ok morning :=
  parseInstant_of_canonical hasUtc_morning rfl (by cbv)

end Wire

end Proceedings
