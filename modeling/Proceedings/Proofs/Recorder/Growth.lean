import Proceedings.Proofs.Answer
import Proceedings.Recorder

/-! # How a recorder grows

A call adds the event that it answers with to the events, and may set the time of the start or the
end where there is none yet. Every time that a recorder comes to hold has an offset. What one call
can do, any number of calls can do.
-/

namespace Proceedings

theorem Value.recordedTime_time (d : DateTime) :
    (Value.time d).recordedTime =
      if d.isAware then .ok d else .error (.breach (.recordedTime (.time d))) := rfl

theorem Value.aware_of_recordedTime {v : Value} {d : DateTime} (h : v.recordedTime = .ok d) :
    d.isAware = true := by
  unfold Value.recordedTime at h
  split at h
  · split at h
    · obtain rfl := Except.ok.inj h
      assumption
    · cases h
  · cases h

namespace Outcome

variable {σ τ : Type}

def returned (o : Outcome σ (Option Event)) : List Event :=
  match o.answer with
  | .ok (some e) => [e]
  | _ => []

@[simp] theorem returned_within (f : σ → τ) (o : Outcome σ (Option Event)) :
    (o.within f).returned = o.returned := rfl

@[simp] theorem returned_failed (s : σ) (f : Failure) : (failed s f).returned = [] := rfl

@[simp] theorem returned_done (s : σ) (e : Option Event) : (done s e).returned = e.toList := by
  cases e <;> rfl

@[simp] theorem returned_map_none {α : Type} (o : Outcome σ α) :
    (o.map fun _ => none).returned = [] := by
  obtain ⟨s, log, answer⟩ := o
  cases answer <;> rfl

end Outcome

/-- A mark after it was left alone, or set to a time with an offset where it was not set. -/
def Settles (before after : Option DateTime) : Prop :=
  after = before ∨ before = none ∧ ∃ d, after = some d ∧ d.isAware = true

theorem Settles.refl (mark : Option DateTime) : Settles mark mark := .inl rfl

theorem Settles.trans {a b c : Option DateTime} (h : Settles a b) (h' : Settles b c) :
    Settles a c := by
  rcases h with rfl | ⟨rfl, d, rfl, hd⟩
  · exact h'
  · rcases h' with rfl | ⟨h', -⟩
    · exact .inr ⟨rfl, d, rfl, hd⟩
    · cases h'

theorem settle_settles (mark : Option DateTime) (verb : String) (given : Value) (c : Clock) :
    Settles mark (settle mark verb given c).state.1 := by
  unfold settle
  split
  · exact .refl _
  · dsimp only
    split
    · next d h => exact .inr ⟨rfl, d, rfl, Value.aware_of_recordedTime h⟩
    · exact .refl _

namespace Recorder

/-- A recorder after calls that added some events: these come last and their times have offsets,
and the marks are settled. -/
structure Grows (r s : Recorder) (added : List Event) : Prop where
  events : s.events = r.events ++ added
  aware : ∀ e ∈ added, e.timestamp.isAware = true
  startTime : Settles r.startTime s.startTime
  endTime : Settles r.endTime s.endTime

structure IsAware (r : Recorder) : Prop where
  startTime : ∀ d, r.startTime = some d → d.isAware = true
  endTime : ∀ d, r.endTime = some d → d.isAware = true
  events : ∀ e ∈ r.events, e.timestamp.isAware = true

variable {r s t : Recorder} {added more : List Event}

theorem Grows.refl (r : Recorder) : Grows r r [] :=
  ⟨(List.append_nil _).symm, nofun, .refl _, .refl _⟩

theorem Grows.trans (h : Grows r s added) (h' : Grows s t more) : Grows r t (added ++ more) := by
  refine ⟨?_, ?_, h.startTime.trans h'.startTime, h.endTime.trans h'.endTime⟩
  · rw [h'.events, h.events, List.append_assoc]
  · exact List.forall_mem_append.mpr ⟨h.aware, h'.aware⟩

/-- Room and initial participants may change in any way. -/
theorem Grows.of_frame {room : Value} {initial : List Participant}
    (h : s = { r with roomName := room, initial := initial }) : Grows r s [] := by
  subst h
  exact ⟨(List.append_nil _).symm, nofun, .refl _, .refl _⟩

theorem new_isAware (room : Value) : (new room).IsAware := by
  refine ⟨?_, ?_, ?_⟩ <;> intro _ h <;> cases h

theorem isAware_of_settles {a b : Option DateTime} (h : Settles a b)
    (ha : ∀ d, a = some d → d.isAware = true) : ∀ d, b = some d → d.isAware = true := by
  intro d hd
  rcases h with rfl | ⟨-, e, rfl, he⟩
  · exact ha d hd
  · obtain rfl := Option.some.inj hd
    exact he

theorem IsAware.grows (hr : r.IsAware) (h : Grows r s added) : s.IsAware := by
  refine ⟨isAware_of_settles h.startTime hr.startTime, isAware_of_settles h.endTime hr.endTime, ?_⟩
  rw [h.events]
  exact List.forall_mem_append.mpr ⟨hr.events, h.aware⟩

theorem grows_offer {v : Value} (h : r.offer v = .ok s) : Grows r s [] := by
  unfold offer at h
  split at h
  · split at h
    · cases h
    · obtain rfl := Except.ok.inj h
      split
      · exact .refl r
      · exact .of_frame rfl
  · cases h

theorem grows_offerAll (items : List Value) (r : Recorder) :
    Grows r (offerAll items r).state [] := by
  induction items generalizing r with
  | nil => exact .refl r
  | cons v rest ih =>
    rw [offerAll]
    cases h : r.offer v with
    | error f => exact .refl r
    | ok s => exact (grows_offer h).trans (ih s)

theorem grows_addInitial (r : Recorder) (participants : Value) :
    Grows r (r.addInitial participants).state [] := by
  unfold addInitial
  split
  · exact grows_offerAll _ r
  · exact .refl r

theorem append_eq (r : Recorder) (e : Event) :
    r.append e = if e.timestamp.isAware then .done { r with events := r.events ++ [e] } e
      else .failed r (.breach (.recordedTime (.time e.timestamp))) := by
  cases h : e.timestamp.isAware <;> simp [append, Value.recordedTime_time, h]

theorem grows_append (r : Recorder) (e : Event) :
    Grows r (r.append e).state ((r.append e).map some).returned := by
  rw [append_eq]
  split
  · next h =>
    refine ⟨rfl, ?_, .refl _, .refl _⟩
    intro f hf
    obtain rfl := List.mem_singleton.mp hf
    exact h
  · exact .refl r

theorem grows_addEvent (r : Recorder) (v : Value) :
    Grows r (r.addEvent v).state ((r.addEvent v).map some).returned := by
  unfold addEvent
  split
  · exact grows_append r _
  · exact .refl r

theorem grows_andThen {α : Type} {o : Outcome (Recorder × Clock) α}
    {next : Recorder × Clock → α → Outcome (Recorder × Clock) (Option Event)}
    (h : Grows r o.state.1 [])
    (hnext : ∀ x a, Grows x.1 (next x a).state.1 (next x a).returned) :
    Grows r (o.andThen next).state.1 (o.andThen next).returned := by
  unfold Outcome.andThen
  split
  · exact h
  · exact h.trans (hnext _ _)

theorem grows_started (r : Recorder) (c : Clock) (given initial : Value) :
    Grows r (r.perform c (.started given initial)).state.1
      (r.perform c (.started given initial)).returned := by
  refine grows_andThen ?_ ?_
  · exact ⟨(List.append_nil _).symm, nofun, settle_settles _ _ _ _, .refl _⟩
  · rintro ⟨s, c⟩ -
    dsimp only
    split
    · exact .refl s
    · rw [Outcome.returned_map_none]
      exact grows_addInitial s initial

theorem grows_perform (r : Recorder) (c : Clock) (call : RecorderCall) :
    Grows r (r.perform c call).state.1 (r.perform c call).returned := by
  cases call with
  | setRoomName name => exact .of_frame rfl
  | started given initial => exact grows_started r c given initial
  | ended given =>
    rw [perform, Outcome.returned_map_none]
    exact ⟨(List.append_nil _).symm, nofun, .refl _, settle_settles _ _ _ _⟩
  | addInitial participants =>
    rw [perform, Outcome.returned_map_none]
    exact grows_addInitial r participants
  | addEvent event => exact grows_addEvent r event
  | notify k participant result given =>
    unfold perform
    dsimp only
    split
    · exact grows_append r _
    · exact .refl r

theorem returned_started (r : Recorder) (c : Clock) (given v : Value) :
    (r.perform c (.started given v)).returned = [] := by
  rw [perform, Outcome.andThen]
  split
  · rfl
  · dsimp only
    split
    · rfl
    · exact Outcome.returned_map_none ((addInitial _ v).within _)

theorem performAll_append (first second : List RecorderCall) (x : Recorder × Clock) :
    performAll (first ++ second) x = performAll second (performAll first x) := by
  induction first generalizing x with
  | nil => rfl
  | cons call rest ih => exact ih _

/-- The events that calls answer with, in order. -/
def returned : List RecorderCall → Recorder × Clock → List Event
  | [], _ => []
  | call :: rest, (r, c) => (r.perform c call).returned ++ returned rest (r.perform c call).state

theorem grows_performAll (calls : List RecorderCall) (r : Recorder) (c : Clock) :
    Grows r (performAll calls (r, c)).1 (returned calls (r, c)) := by
  induction calls generalizing r c with
  | nil => exact .refl r
  | cons call rest ih => exact (grows_perform r c call).trans (ih _ _)

/-- Recorders only ever hold times with offsets. -/
theorem performAll_isAware (room : Value) (c : Clock) (calls : List RecorderCall) :
    (performAll calls (new room, c)).1.IsAware :=
  (new_isAware room).grows (grows_performAll calls (new room) c)

def refusals : List RecorderCall → Recorder × Clock → List Failure
  | [], _ => []
  | call :: rest, (r, c) =>
    let o := r.perform c call
    match o.answer with
    | .ok _ => refusals rest o.state
    | .error f => f :: refusals rest o.state

/-- Calls that are all accepted, and what they lead to. -/
inductive Accepts : List RecorderCall → Recorder × Clock → Recorder × Clock → Prop
  | nil (x : Recorder × Clock) : Accepts [] x x
  | cons {call : RecorderCall} {rest : List RecorderCall} {x y : Recorder × Clock}
      {r : Recorder} {c : Clock} {e? : Option Event} (h : r.perform c call = .done x e?)
      (hrest : Accepts rest x y) : Accepts (call :: rest) (r, c) y

namespace Accepts

variable {first second calls : List RecorderCall} {x y z : Recorder × Clock}

theorem append (h : Accepts first x y) (hmore : Accepts second y z) :
    Accepts (first ++ second) x z := by
  induction h with
  | nil => exact hmore
  | cons h _ ih => exact .cons h (ih hmore)

theorem performAll_eq (h : Accepts calls x y) : performAll calls x = y := by
  induction h with
  | nil => rfl
  | cons h _ ih =>
    rw [performAll, h]
    exact ih

theorem refusals_eq_nil (h : Accepts calls x y) : refusals calls x = [] := by
  induction h with
  | nil => rfl
  | cons h _ ih =>
    rw [refusals, h]
    exact ih

end Accepts

theorem perform_addEvent {e : Event} (he : e.timestamp.isAware = true) :
    r.perform c (.addEvent (.event e)) =
      .done ({ r with events := r.events ++ [e] }, c) (some e) := by
  simp only [perform, addEvent, append_eq, he, if_true]
  rfl

theorem accepts_addEvents {events : List Event} (h : ∀ e ∈ events, e.timestamp.isAware = true)
    (r : Recorder) (c : Clock) :
    Accepts (events.map fun e => .addEvent (.event e)) (r, c)
      ({ r with events := r.events ++ events }, c) := by
  induction events generalizing r with
  | nil =>
    rw [List.append_nil]
    exact .nil _
  | cons e rest ih =>
    obtain ⟨he, hrest⟩ := List.forall_mem_cons.mp h
    have hmore := ih hrest { r with events := r.events ++ [e] }
    rw [List.append_assoc] at hmore
    exact .cons (perform_addEvent he) hmore

end Recorder

end Proceedings
