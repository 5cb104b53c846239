import Proceedings.Proofs.Recorder.Presence

/-! # What refused calls leave behind

Most calls check all that they are given before they record anything. A call that hands in initial
participants checks them one by one, and a start is marked before that, so such a call may be
refused half way: the mark and the participants before the one that is refused stay.
-/

namespace Proceedings

theorem Outcome.answer_map_eq_error {σ α β : Type} {o : Outcome σ α} {g : α → β} {f : Failure} :
    (o.map g).answer = .error f ↔ o.answer = .error f := by
  obtain ⟨s, log, answer⟩ := o
  cases answer <;> simp [map, Except.map]

namespace Recorder

variable {r : Recorder} {c : Clock} {call : RecorderCall} {known ps : List Participant} {b : Breach}

/-- Whether a call sets the start: none is set yet, and the time of this one has an offset. -/
def marksStart (r : Recorder) (c : Clock) (call : RecorderCall) : Bool :=
  r.startTime.isNone && call.startGiven?.any fun given => (c.stamp given).1.isAwareTime

def offersNew (r : Recorder) (c : Clock) (call : RecorderCall) : Bool :=
  (leading (r.presented c call)).any fun p => !r.knows p.id

theorem prefix_foldl_meet (ps known : List Participant) : known <+: ps.foldl meet known := by
  induction ps generalizing known with
  | nil => exact List.prefix_rfl
  | cons p ps ih => exact (prefix_meet known p).trans (ih _)

theorem foldl_meet_eq_self_iff :
    ps.foldl meet known = known ↔ ∀ p ∈ ps, (known.any fun q => q.id.equals p.id) = true := by
  induction ps with
  | nil => simp
  | cons p ps ih =>
    rw [List.forall_mem_cons, List.foldl_cons]
    by_cases hp : (known.any fun q => q.id.equals p.id) = true
    · rw [meet, if_pos hp, ih]
      exact (and_iff_right hp).symm
    · refine iff_of_false ?_ fun h => hp h.1
      intro h
      -- a new one stays whatever comes after it, so the list has become longer
      have hlength := (prefix_foldl_meet ps (meet known p)).length_le
      rw [h, meet, if_neg hp, List.length_append] at hlength
      simp at hlength

theorem offersNew_eq_false_iff : r.offersNew c call = false ↔
    (leading (r.presented c call)).foldl meet r.initial = r.initial := by
  simp [offersNew, foldl_meet_eq_self_iff, knows]

theorem marksStart_eq_false_iff : r.marksStart c call = false ↔
    r.startTime.or (call.startGiven?.bind fun given => (c.stamp given).1.awareTime?) =
      r.startTime := by
  rw [marksStart]
  cases r.startTime with
  | some d => simp
  | none => cases call.startGiven? <;> simp [← Value.isSome_awareTime?]

section Refused

theorem hashable_of_offerAll {vs : List Value} {r : Recorder}
    (h : (offerAll vs r).answer = .error (.breach b)) :
    ∀ p ∈ leading vs, p.id.unhashable? = none := by
  induction vs generalizing r with
  | nil => exact List.forall_mem_nil _
  | cons v rest ih =>
    cases v with
    | participant p =>
      cases hp : p.id.unhashable? with
      | none =>
        rw [offerAll, offer_eq hp] at h
        exact List.forall_mem_cons.mpr ⟨hp, ih h⟩
      | some type => simp [offerAll, offer, hp, Outcome.failed] at h
    | _ => exact List.forall_mem_nil _

theorem hashable_of_addInitial {v : Value} (h : (r.addInitial v).answer = .error (.breach b)) :
    ∀ p ∈ leading (items v), p.id.unhashable? = none := by
  unfold addInitial at h
  split at h
  · next vs hvs =>
    rw [items, hvs]
    exact hashable_of_offerAll h
  · next f hf =>
    rw [items, hf]
    exact List.forall_mem_nil _

theorem hashable_of_started {given v : Value}
    (h : (r.perform c (.started given v)).answer = .error (.breach b)) :
    ∀ p ∈ leading (r.presented c (.started given v)), p.id.unhashable? = none := by
  rw [presented, refusesStart_eq]
  rw [perform, Outcome.andThen] at h
  generalize settle r.startTime "started" given c = o at *
  obtain ⟨⟨mark, c'⟩, log, answer⟩ := o
  cases answer with
  | error f => exact List.forall_mem_nil _
  | ok _ =>
    dsimp only [Outcome.within] at h
    split at h
    · cases h
    · exact hashable_of_addInitial (Outcome.answer_map_eq_error.mp h)

/-- A call that breaks the contract offers participants whose ids can be told apart. -/
theorem hashable_of_refused (h : (r.perform c call).answer = .error (.breach b)) :
    ∀ p ∈ leading (r.presented c call), p.id.unhashable? = none := by
  cases call with
  | started given v => exact hashable_of_started h
  | addInitial v => exact hashable_of_addInitial (Outcome.answer_map_eq_error.mp h)
  | setRoomName | ended | addEvent | notify => exact List.forall_mem_nil _

theorem endTime_of_refused {f : Failure} (h : (r.perform c call).answer = .error f) :
    r.endTime.or (call.endGiven?.bind fun given => (c.stamp given).1.awareTime?) = r.endTime := by
  cases call with
  | ended given =>
    have hanswer : (settle r.endTime "ended" given c).answer = .error f :=
      Outcome.answer_map_eq_error.mp h
    have hok := (settle_spec r.endTime "ended" given c).2
    rw [hanswer] at hok
    obtain ⟨hmark, htime⟩ := Bool.or_eq_false_iff.mp hok.symm
    rw [← Value.isSome_awareTime?] at htime
    simp_all
  | _ => exact r.endTime.or_none

theorem roomName_of_refused {f : Failure} (h : (r.perform c call).answer = .error f) :
    call.roomName? = none := by
  cases call with
  | setRoomName name => cases h
  | _ => rfl

theorem state_of_refused (h : (r.perform c call).answer = .error (.breach b)) :
    (r.perform c call).state.1 =
      { r with
        startTime :=
          r.startTime.or (call.startGiven?.bind fun given => (c.stamp given).1.awareTime?)
        initial := (leading (r.presented c call)).foldl meet r.initial } := by
  have hreturned : (r.perform c call).returned = [] := by rw [Outcome.returned, h]
  rw [state_perform, hreturned, roomName_of_refused h, endTime_of_refused h,
    gather_eq_foldl _ (hashable_of_refused h), List.append_nil]
  rfl

/-- A call that breaks the contract leaves no trace, unless it is refused for what it hands in as an
initial participant: then a start has been marked, and those before the one that is refused have
been added. -/
theorem unchanged_of_refused_iff (h : (r.perform c call).answer = .error (.breach b)) :
    let s := (r.perform c call).state.1
    s.roomName = r.roomName ∧ s.events = r.events ∧ s.endTime = r.endTime ∧
      s.startTime =
        r.startTime.or (call.startGiven?.bind fun given => (c.stamp given).1.awareTime?) ∧
      s.initial = (leading (r.presented c call)).foldl meet r.initial ∧
      (s = r ↔ r.marksStart c call = false ∧ r.offersNew c call = false) := by
  intro s
  have hs : s = _ := state_of_refused h
  rw [marksStart_eq_false_iff, offersNew_eq_false_iff, hs]
  refine ⟨rfl, rfl, rfl, rfl, rfl, ?_⟩
  constructor
  · intro heq
    exact ⟨congrArg startTime heq, congrArg initial heq⟩
  · rintro ⟨hstart, hinitial⟩
    rw [hstart, hinitial]

def roster : Value := .list [.participant (attendee (.str "a") "Ann"), .str "Bob"]

/-- Someone who is known already may come before the one that is refused. -/
theorem unchanged_of_refused_iff_known :
    let ann := Value.list [.participant (attendee (.str "a") "Ann")]
    let x := performAll [.addInitial ann] (new .null, .ofList [])
    let o := x.1.perform x.2 (.addInitial roster)
    o.answer = .error (.breach (.initialParticipant (.str "Bob"))) ∧
      x.1.initial = [attendee (.str "a") "Ann"] ∧ o.state.1 = x.1 :=
  ⟨rfl, rfl, (unchanged_of_refused_iff rfl).2.2.2.2.2.mpr ⟨rfl, by cbv⟩⟩

/-- A start that is refused marks the session as started and adds someone. -/
theorem changed_of_refused_roster :
    let nine : DateTime := ⟨⟨63844880400000000, by decide⟩, some .utc, none⟩
    let o := (new .null).perform (.ofList []) (.started (.time nine) roster)
    let o' := (new .null).perform (.ofList []) (.addInitial roster)
    o.answer = .error (.breach (.initialParticipant (.str "Bob"))) ∧
      o.state.1.startTime = some nine ∧ o.state.1.initial = [attendee (.str "a") "Ann"] ∧
      o.state.1 ≠ new .null ∧
      o'.answer = .error (.breach (.initialParticipant (.str "Bob"))) ∧
      o'.state.1.initial = [attendee (.str "a") "Ann"] ∧ o'.state.1 ≠ new .null := by
  refine ⟨rfl, rfl, rfl, ?_, rfl, rfl, ?_⟩
  · intro h
    cases congrArg startTime h
  · intro h
    cases congrArg initial h

end Refused

end Recorder

end Proceedings
