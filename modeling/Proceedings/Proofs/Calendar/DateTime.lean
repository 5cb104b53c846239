import Proceedings.Calendar.DateTime
import Proceedings.Proofs.Calendar.Date

/-! # The fields of a reading

Date, hour, minute, second and microsecond of a reading are in their ranges and give the reading
back. The UTC reading of an instant denotes that instant.
-/

namespace Proceedings

@[simp] theorem Offset.ofMicros_micros (o : Offset) : Offset.ofMicros? o.micros = some o := by
  rw [Offset.ofMicros?, dif_pos ⟨o.lower, o.upper⟩]

namespace DateTime

variable (d : DateTime)

theorem date_spec : d.date.IsValid ∧ d.date.dayNumber = d.reading.val / 86400000000 := by
  have := d.reading.isLt
  exact Date.ofDayNumber_spec (by omega)

theorem hour_lt : d.hour < 24 := Nat.mod_lt _ (by decide)
theorem minute_lt : d.minute < 60 := Nat.mod_lt _ (by decide)
theorem second_lt : d.second < 60 := Nat.mod_lt _ (by decide)
theorem micro_lt : d.micro < 1000000 := Nat.mod_lt _ (by decide)

theorem ofFields_fields (offset : Option Offset) :
    ofFields? d.date d.hour d.minute d.second d.micro offset = some ⟨d.reading, offset, none⟩ := by
  have hlt := d.reading.isLt
  have hsum : (((d.date.dayNumber * 24 + d.hour) * 60 + d.minute) * 60 + d.second) * 1000000 +
      d.micro = d.reading.val := by
    rw [(date_spec d).2]
    unfold hour minute second micro
    omega
  simp only [ofFields?, hsum, dif_pos hlt]

/-- A reading whose instant is known and has a UTC reading in the years 1 to 9999. -/
def HasUtc : Prop := ∃ n u, d.instant? = some n ∧ ofInstant? n = some u

/-- The UTC reading of the same instant; a reading that has none stands for itself. -/
def utc : DateTime := (d.instant?.bind ofInstant?).getD d

variable {d}

theorem isAware_iff : d.isAware = true ↔ ∃ n, d.instant? = some n := by
  unfold isAware instant?
  cases d.offset <;> simp

theorem ofInstant_eq_some {n : Int} {u : DateTime} (h : ofInstant? n = some u) :
    u.offset = some Offset.utc ∧ u.instant? = some n := by
  unfold ofInstant? at h
  split at h
  · next hn =>
    obtain rfl := Option.some.inj h
    simp [instant?, Offset.utc, Int.toNat_of_nonneg hn.1]
  · cases h

theorem hasUtc_iff :
    d.HasUtc ↔ ∃ n, d.instant? = some n ∧ 0 ≤ n ∧ n < 3652059 * 86400000000 := by
  constructor
  · rintro ⟨n, u, hn, hu⟩
    refine ⟨n, hn, ?_⟩
    unfold ofInstant? at hu
    split at hu
    · assumption
    · cases hu
  · rintro ⟨n, hn, hrange⟩
    exact ⟨n, _, hn, dif_pos hrange⟩

theorem HasUtc.utc_spec (h : d.HasUtc) :
    d.utc.offset = some Offset.utc ∧ d.utc.instant? = d.instant? := by
  obtain ⟨n, u, hn, hu⟩ := h
  have hutc : d.utc = u := by simp [utc, hn, hu]
  rw [hutc, hn]
  exact ofInstant_eq_some hu

theorem HasUtc.isAware (h : d.HasUtc) : d.isAware = true := by
  obtain ⟨n, -, hn, -⟩ := h
  exact isAware_iff.mpr ⟨n, hn⟩

theorem HasUtc.place_utc (h : d.HasUtc) : d.utc.place = none := by
  obtain ⟨n, u, hn, hu⟩ := h
  have hutc : d.utc = u := by simp [utc, hn, hu]
  rw [hutc]
  unfold ofInstant? at hu
  split at hu
  · rw [← Option.some.inj hu]
  · cases hu

/-- Readings have one UTC reading if and only if they denote one instant. -/
theorem HasUtc.utc_eq_iff {e : DateTime} (hd : d.HasUtc) (he : e.HasUtc) :
    d.utc = e.utc ↔ d.instant? = e.instant? := by
  constructor
  · intro h
    rw [← hd.utc_spec.2, ← he.utc_spec.2, h]
  · intro h
    rw [utc, h, utc]
    obtain ⟨n, u, hn, hu⟩ := he
    rw [hn, Option.bind_some, hu, Option.getD_some, Option.getD_some]

end DateTime

end Proceedings
