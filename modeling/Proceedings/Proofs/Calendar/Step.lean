import Proceedings.Proofs.Calendar.DateTime

/-! # Readings in step

Readings are in step if they compare as their instants do. They are unless both were taken in one
zone: then they compare as the clock shows them, and on the night when the clocks of the zone are
set back these show the same hour twice.
-/

namespace Proceedings.DateTime

variable {d e : DateTime}

/-- The order of readings as far as it goes: outside of one zone, a reading with an offset and one
without cannot be compared. -/
def before? (d e : DateTime) : Option Bool :=
  if d.sharesZone e then some (d.reading < e.reading)
  else match d.instant?, e.instant? with
    | some m, some n => some (m < n)
    | none, none => some (d.reading < e.reading)
    | _, _ => none

theorem before?_eq (hd : d.isAware = true) (he : e.isAware = true) :
    d.before? e = some (d.before e) := by
  obtain ⟨m, hm⟩ := isAware_iff.mp hd
  obtain ⟨n, hn⟩ := isAware_iff.mp he
  cases h : d.sharesZone e <;> simp [before?, before, hm, hn, h]

/-- Readings of which one is before the other if and only if its instant is. -/
def InStep (d e : DateTime) : Prop :=
  ∀ m ∈ d.instant?, ∀ n ∈ e.instant?, d.before e = decide (m < n)

theorem inStep_of_not_sharesZone (h : d.sharesZone e = false) : d.InStep e := by
  intro m hm n hn
  rw [Option.mem_def] at hm hn
  simp [before, h, hm, hn]

/-- A reading that was not taken in a zone is in step with all. -/
theorem inStep_of_place_eq_none (h : d.place = none) : d.InStep e :=
  inStep_of_not_sharesZone (by simp [sharesZone, h])

theorem before_self (d : DateTime) : d.before d = false := by
  unfold before
  split
  · simp
  · cases d.instant? <;> simp

theorem before_asymm (h : d.before e = true) : e.before d = false := by
  have hshares : e.sharesZone d = d.sharesZone e := by
    unfold sharesZone
    cases d.place <;> cases e.place <;> simp [BEq.comm]
  unfold before at h ⊢
  rw [hshares]
  cases hs : d.sharesZone e with
  | true =>
    rw [hs] at h
    exact decide_eq_false (lt_asymm (of_decide_eq_true h))
  | false =>
    rw [hs] at h
    cases hm : d.instant? <;> cases hn : e.instant? <;> simp_all <;> omega

theorem inStep_of_place_eq_none_right (h : e.place = none) : d.InStep e :=
  inStep_of_not_sharesZone (by cases hd : d.place <;> simp [sharesZone, h, hd])

structure AreInStep (times : List DateTime) : Prop where
  isAware : ∀ d ∈ times, d.isAware = true
  inStep : ∀ d ∈ times, ∀ e ∈ times, d.InStep e

theorem AreInStep.of_utc {times : List DateTime} (h : ∀ d ∈ times, d.HasUtc ∧ d.utc = d) :
    AreInStep times := by
  refine ⟨fun d hd => (h d hd).1.isAware, fun d hd e _ => inStep_of_place_eq_none ?_⟩
  rw [← (h d hd).2]
  exact (h d hd).1.place_utc

theorem AreInStep.subset {times times' : List DateTime} (h : AreInStep times)
    (hsub : ∀ d ∈ times', d ∈ times) : AreInStep times' :=
  ⟨fun d hd => h.isAware d (hsub d hd), fun d hd e he => h.inStep d (hsub d hd) e (hsub e he)⟩

/-- The zone of Berlin, where the clocks are set back at three on the night of October 27th,
2024. -/
def berlin : Zone := ⟨1, "zoneinfo.ZoneInfo(key='Europe/Berlin')"⟩

/-- Half past two on that night, before the clocks are set back. -/
def halfPastTwo : DateTime :=
  ⟨⟨63865593000000000, by decide⟩, Offset.ofMicros? 7200000000, some ⟨berlin, false, true⟩⟩

def tenPastTwo : DateTime :=
  ⟨⟨63865591800000000, by decide⟩, Offset.ofMicros? 3600000000, some ⟨berlin, true, true⟩⟩

/-- The middle of the time between half past and ten past two, on a clock that shows UTC. -/
def betweenInUtc : DateTime := ⟨⟨63865587000000000, by decide⟩, some .utc, none⟩

end Proceedings.DateTime
