import Proceedings.CommandLine.Publication
import Proceedings.Proofs.Calendar.Step
import Proceedings.Proofs.Wire.Decoded
import Proceedings.Proofs.Wire.Expressible
import Proceedings.Proofs.Wire.Malformed

/-! # Loading logs

What keeps a log from being loaded is told in a message, unless a number or a time in it is out of
range. What is loaded holds JSON values, and times in UTC.
-/

namespace Proceedings

open CommandLine Wire

variable {f : Failure} {path : Path} {t : Text} {files : FileStore} {values : List Value}

theorem Failure.IsBreach.isReported (h : f.IsBreach) : isReported f = true := by
  obtain ⟨b, rfl⟩ := h
  rfl

theorem escapes_of_not_isReported {α : Type} {x : Except Failure α} (h : x = .error f)
    (hf : isReported f = false) : Escapes x f := by
  refine ⟨h, ?_⟩
  intro hbreach
  rw [hbreach.isReported] at hf
  cases hf

namespace Replay

def contents (path : Path) (files : FileStore) : Except Failure (List Value) :=
  readText path files >>= readValues path

theorem contents_of_file {place : FilePlace} {bytes : List UInt8}
    (hplace : files.locate path = .ok place) (hfile : files.at? place = some (.file bytes))
    (hdecode : Utf8.decode bytes = .ok t) :
    contents path files = readValues path t.unifyNewlines := by
  simp only [contents, readText, FileStore.read, FileStore.find, hplace, hfile, hdecode,
    Except.mapError, ok_bind, pure_eq_ok]

theorem loadEvents_eq (path : Path) (files : FileStore) :
    loadEvents path files = contents path files >>= fun values => values.mapM parseEvent :=
  (bind_assoc ..).symm

theorem loadParticipants_eq (path : Path) (files : FileStore) :
    loadParticipants path files =
      contents path files >>= fun values => values.mapM parseParticipant :=
  (bind_assoc ..).symm

section Failures

theorem isReported_readText (h : readText path files = .error f) : isReported f = true := by
  rcases bind_eq_error.mp h with h | ⟨bytes, -, h⟩
  · obtain ⟨e, -, rfl⟩ := mapError_eq_error.mp h
    rfl
  rcases bind_eq_error.mp h with h | ⟨t, -, h⟩
  · obtain ⟨e, -, rfl⟩ := mapError_eq_error.mp h
    rfl
  · cases h

theorem isReported_readLines {lines : List Text} {n : Nat}
    (h : readLines path n lines = .error f) : isReported f = true := by
  induction lines generalizing n with
  | nil => cases h
  | cons line lines ih =>
    rw [readLines] at h
    split at h
    · exact ih h
    · rcases bind_eq_error.mp h with h | ⟨v, -, h⟩
      · obtain ⟨e, -, rfl⟩ := mapError_eq_error.mp h
        cases e <;> rfl
      · rcases bind_eq_error.mp h with h | ⟨vs, -, h⟩
        · exact ih h
        · cases h

/-- What starts with a bracket is an array, so it can be taken apart. -/
theorem isReported_readValues (h : readValues path t = .error f) : isReported f = true := by
  unfold readValues at h
  split at h
  · next hhead =>
    rcases bind_eq_error.mp h with h | ⟨v, hv, h⟩
    · obtain ⟨e, -, rfl⟩ := mapError_eq_error.mp h
      rfl
    · obtain ⟨vs, rfl⟩ := Json.exists_list_of_read (mapError_eq_ok.mp hv) hhead
      cases h
  · exact isReported_readLines h

theorem isReported_contents (h : contents path files = .error f) : isReported f = true := by
  rcases bind_eq_error.mp h with h | ⟨t, -, h⟩
  · exact isReported_readText h
  · exact isReported_readValues h

/-- A log with an event out of range and nothing malformed before it. -/
def LogOutOfRange (path : Path) (files : FileStore) (f : Failure) : Prop :=
  ∃ values before e after, contents path files = .ok values ∧ values = before ++ e :: after ∧
    (∀ other ∈ before, ∃ d, parseEvent other = .ok d) ∧ EventOutOfRange e f

theorem not_isReported_of_outOfRange {e : Value} (h : EventOutOfRange e f) :
    isReported f = false := by
  obtain ⟨_, _, _, _, -, -, -, -, ⟨rfl, -⟩ | ⟨rfl, -⟩⟩ := h <;> rfl

theorem loadEvents_not_isReported :
    loadEvents path files = .error f ∧ isReported f = false ↔ LogOutOfRange path files f := by
  rw [loadEvents_eq]
  constructor
  · rintro ⟨h, hf⟩
    rcases bind_eq_error.mp h with h | ⟨values, hvalues, h⟩
    · rw [isReported_contents h] at hf
      cases hf
    · obtain ⟨before, e, after, hsplit, hbefore, he⟩ :=
        escapes_mapM.mp (escapes_of_not_isReported h hf)
      exact ⟨values, before, e, after, hvalues, hsplit, hbefore, escapes_parseEvent.mp he⟩
  · rintro ⟨values, before, e, after, hvalues, hsplit, hbefore, he⟩
    have hmap := escapes_mapM.mpr ⟨before, e, after, hsplit, hbefore, escapes_parseEvent.mpr he⟩
    refine ⟨?_, not_isReported_of_outOfRange he⟩
    rw [hvalues, ok_bind]
    exact hmap.1

theorem isReported_loadParticipants (h : loadParticipants path files = .error f) :
    isReported f = true := by
  rw [loadParticipants_eq] at h
  rcases bind_eq_error.mp h with h | ⟨values, -, h⟩
  · exact isReported_contents h
  · by_contra hf
    obtain ⟨_, v, _, -, -, hv⟩ :=
      escapes_mapM.mp (escapes_of_not_isReported h (Bool.eq_false_iff.mpr hf))
    exact not_escapes_parseParticipant hv

end Failures

section Loaded

theorem isJson_readLines {lines : List Text} {n : Nat} (h : readLines path n lines = .ok values) :
    ∀ v ∈ values, v.IsJson := by
  induction lines generalizing values n with
  | nil =>
    obtain rfl := Except.ok.inj h
    nofun
  | cons line lines ih =>
    rw [readLines] at h
    split at h
    · exact ih h
    · obtain ⟨v, hv, h⟩ := bind_eq_ok.mp h
      obtain ⟨vs, hvs, h⟩ := bind_eq_ok.mp h
      obtain rfl := Except.ok.inj h
      exact List.forall_mem_cons.mpr ⟨Json.isJson_of_read (mapError_eq_ok.mp hv), ih hvs⟩

theorem isJson_contents (h : contents path files = .ok values) : ∀ v ∈ values, v.IsJson := by
  obtain ⟨t, -, h⟩ := bind_eq_ok.mp h
  unfold readValues at h
  split at h
  · next hhead =>
    obtain ⟨v, hv, h⟩ := bind_eq_ok.mp h
    have hread := mapError_eq_ok.mp hv
    obtain ⟨vs, rfl⟩ := Json.exists_list_of_read hread hhead
    obtain rfl := Except.ok.inj h
    cases Json.isJson_of_read hread with
    | list hvs => exact hvs
  · exact isJson_readLines h

theorem of_loadEvents {events : List Event} (h : loadEvents path files = .ok events) :
    ∀ e ∈ events, e.HoldsJson ∧ e.timestamp.HasUtc := by
  rw [loadEvents_eq] at h
  obtain ⟨values, hvalues, h⟩ := bind_eq_ok.mp h
  intro e he
  obtain ⟨v, hv, hparse⟩ := exists_of_mem_mapM h he
  exact ⟨holdsJson_parseEvent (isJson_contents hvalues v hv) hparse, (parseEvent_time hparse).1⟩

/-- Times that are read are outside of any zone, so they are in step. -/
theorem areInStep_of_parse {values : List Value} {events : List Event}
    (h : values.mapM parseEvent = .ok events) :
    DateTime.AreInStep (events.map (·.timestamp)) := by
  refine .of_utc (List.forall_mem_map.mpr fun e he => ?_)
  obtain ⟨v, -, hv⟩ := exists_of_mem_mapM h he
  exact parseEvent_time hv

theorem areInStep_of_loadEvents {events : List Event} (h : loadEvents path files = .ok events) :
    DateTime.AreInStep (events.map (·.timestamp)) := by
  rw [loadEvents_eq] at h
  obtain ⟨values, -, h⟩ := bind_eq_ok.mp h
  exact areInStep_of_parse h

theorem of_loadParticipants {initial : List Participant}
    (h : loadParticipants path files = .ok initial) :
    ∀ p ∈ initial, p.HoldsJson ∧ p.id.unhashable? = none := by
  rw [loadParticipants_eq] at h
  obtain ⟨values, hvalues, h⟩ := bind_eq_ok.mp h
  intro p hp
  obtain ⟨v, hv, hparse⟩ := exists_of_mem_mapM h hp
  exact ⟨holdsJson_parseParticipant (isJson_contents hvalues v hv) hparse,
    hashable_of_parse h p hp⟩

end Loaded

end Replay

end Proceedings
