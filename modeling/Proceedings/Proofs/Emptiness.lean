import Proceedings.Proofs.Demand
import Proceedings.Proofs.Recorder.Chronology
import Proceedings.Proofs.Recorder.Marks
import Proceedings.Proofs.Sink.Webhook
import Proceedings.Proofs.Wire.Proper
import Proceedings.Sink.Basic

/-! # Empty artifacts

A transcript counts as empty if and only if its payload has no fields. So a guard that publishes
what a recorder holds warns of an empty artifact exactly if it delivers one, which is if nothing was
recorded.
-/

namespace Proceedings

open Wire

namespace Value

theorem IsOptionalText.isTruthy_eq {v : Value} (h : v.IsOptionalText) :
    v.isTruthy = !isAbsent v := by
  rcases h with rfl | ⟨t, rfl⟩ <;> rfl

theorem IsOptionalText.isAbsent_iff {v : Value} (h : v.IsOptionalText) :
    isAbsent v = true ↔ v = .null ∨ v = .text [] := by
  rcases h with rfl | ⟨t, rfl⟩ <;> simp [isAbsent]

theorem isNull_iff {v : Value} : v.isNull = true ↔ v = .null :=
  ⟨eq_null_of_isNull, fun h => h ▸ rfl⟩

end Value

namespace Wire

theorem present_eq_nil_iff {name : String} {v : Value} :
    present name v = [] ↔ isAbsent v = true := by
  unfold present
  split <;> simp [*]

theorem timeField_eq_nil_iff {name : String} {v : Value} (h : v.IsOptionalTime) :
    timeField name v = [] ↔ v = .null := by
  rcases h with rfl | ⟨d, rfl⟩ <;> simp [timeField]

end Wire

namespace Transcript

variable {t : Transcript}

theorem fields_eq_nil_iff (ht : t.IsAssembled) :
    t.fields = [] ↔ isAbsent t.roomName = true ∧ t.startTime = .null ∧ t.endTime = .null ∧
      t.initialParticipants = [] ∧ t.events = [] := by
  simp [fields, present_eq_nil_iff, timeField_eq_nil_iff ht.startTime,
    timeField_eq_nil_iff ht.endTime, isAbsent]

theorem isEmpty_iff (hroom : t.roomName.IsOptionalText) :
    t.isEmpty = true ↔ isAbsent t.roomName = true ∧ t.startTime = .null ∧ t.endTime = .null ∧
      t.initialParticipants = [] ∧ t.events = [] := by
  simp [isEmpty, hroom.isTruthy_eq, Value.isNull_iff, and_assoc]

theorem isEmpty_iff_payload {payload : Value} (hroom : t.roomName.IsOptionalText)
    (h : encodeTranscript (.transcript t) = .ok payload) :
    t.isEmpty = true ↔ payload = .object [] := by
  obtain ⟨ht, -, rfl⟩ := encodeTranscript_spec h
  rw [isEmpty_iff hroom, Value.object.injEq, fields_eq_nil_iff ht]

end Transcript

/-- A recorder that holds nothing of a session, and no name of a room. -/
structure Recorder.IsBlank (r : Recorder) : Prop where
  roomName : r.roomName = .null ∨ r.roomName = .text []
  startTime : r.startTime = none
  endTime : r.endTime = none
  initial : r.initial = []
  events : r.events = []

theorem Recorder.isEmpty_freeze_iff {r : Recorder} (hroom : r.roomName.IsOptionalText) :
    r.freeze.isEmpty = true ↔ r.IsBlank := by
  have htime (mark : Option DateTime) :
      Value.ofOption (mark.map Value.time) = .null ↔ mark = none := by
    cases mark <;> simp [Value.ofOption]
  have hsorted : chronological r.events = [] ↔ r.events = [] := by
    rw [← List.length_eq_zero_iff, (chronological_perm r.events).length_eq,
      List.length_eq_zero_iff]
  rw [Transcript.isEmpty_iff (t := r.freeze) hroom]
  simp only [freeze, hroom.isAbsent_iff, htime, List.map_eq_nil_iff, hsorted]
  constructor
  · rintro ⟨hname, hstart, hend, hinitial, hevents⟩
    exact ⟨hname, hstart, hend, hinitial, hevents⟩
  · intro h
    exact ⟨h.roomName, h.startTime, h.endTime, h.initial, h.events⟩

namespace Guard

variable {σ : Type} {g : Guard} {persist : Text → Value → σ → Outcome σ Unit}
  {subject : Submission} {t : Transcript} {s : σ}

def emptyWarning (g : Guard) : LogLine :=
  ⟨.warning, .ofString "Transcript " ++ g.artifactId ++
    .ofString " has no recorded data; publishing an empty artifact"⟩

/-- A way of delivery that logs no warnings of its own. -/
def NeverWarns (persist : Text → Value → σ → Outcome σ Unit) : Prop :=
  ∀ id payload s, ∀ line ∈ (persist id payload s).log, line.level ≠ .warning

theorem NeverWarns.count_eq_zero (h : NeverWarns persist) (payload : Value) (s : σ) :
    (persist g.artifactId payload s).log.count g.emptyWarning = 0 :=
  List.count_eq_zero.mpr fun hmem => h _ _ _ _ hmem rfl

theorem count_announcement : (g.announcement t).count g.emptyWarning = t.isEmpty.toNat := by
  cases h : t.isEmpty <;> simp [announcement, emptyWarning, h]

/-- The call that takes a guard adds the warning to what the delivery logs, if the transcript is
empty. -/
theorem count_finalize (persist : Text → Value → σ → Outcome σ Unit) (s : σ)
    (h : subject.transcript = .ok t) (hg : g.state = .pending) :
    (g.finalize persist subject s).log.count g.emptyWarning =
      (g.deliver persist t s).log.count g.emptyWarning + t.isEmpty.toNat := by
  have hconclusion (answer : Except Failure Unit) :
      [g.conclusion t answer].count g.emptyWarning = 0 := by
    cases answer <;> simp [emptyWarning, conclusion]
  simp only [finalize, h, hg, List.count_append, count_announcement, hconclusion]
  omega

theorem exists_payload_of_finalize (h : subject.transcript = .ok t) (hg : g.state = .pending)
    (hanswer : (g.finalize persist subject s).answer = .ok true) :
    ∃ payload, g.formatter.payload t = .ok payload := by
  cases hp : g.formatter.payload t with
  | ok payload => exact ⟨payload, rfl⟩
  | error f =>
    rw [(finalize_of_pending persist s h hg).2, deliver_of_error hp] at hanswer
    cases hanswer

end Guard

section Destinations

theorem Directory.level_of_mem_persist {directory : Path} {id : Text} {payload : Value}
    {files : FileStore} {line : LogLine} (h : line ∈ (persist directory id payload files).log) :
    line.level = .info := by
  unfold persist at h
  split at h
  · cases h
  · split at h
    · cases h
    · split at h
      · cases h
      · unfold deliver at h
        split at h
        · rw [List.mem_singleton.mp h]
        · cases h
        · cases h

theorem Sink.neverWarns_persistAt (number : Nat) : Guard.NeverWarns (persistAt number) := by
  intro id payload s line hline
  unfold persistAt at hline
  split at hline
  · next sink _ =>
    cases sink with
    | memory d => cases hline
    | directory path => simp [Directory.level_of_mem_persist hline]
    | failing reasons calls =>
      simp only [persist, Outcome.within] at hline
      split at hline <;> cases hline
  · cases hline

theorem Webhook.neverWarns_persist (w : Webhook) : Guard.NeverWarns w.persist := by
  intro id payload n line hline
  simp [w.level_of_mem_persist hline]

end Destinations

/-- A transcript counts as empty if and only if its payload has no fields. So a guard that publishes
what a recorder holds, in the JSON format, adds the warning to what the sink logs exactly if the
payload that it delivers has no fields, which is if the recorder holds nothing. No sink logs a
warning of its own. -/
theorem Guard.warns_iff_blank :
    (∀ (t : Transcript) (payload : Value), t.roomName.IsOptionalText →
      encodeTranscript (.transcript t) = .ok payload →
      (t.isEmpty = true ↔ payload = .object [])) ∧
    (∀ {σ : Type} (g : Guard) (persist : Text → Value → σ → Outcome σ Unit) (r : Recorder)
        (s : σ) (suffix : String),
      r.roomName.IsOptionalText → g.state = .pending → g.formatter = .json suffix →
      (g.finalize persist (.recorder r) s).answer = .ok true →
      ∃ payload,
        g.demands persist (.recorder r) s =
          [.payload r.freeze, .delivery g.artifactId payload] ∧
        (g.finalize persist (.recorder r) s).log.count g.emptyWarning =
          (persist g.artifactId payload s).log.count g.emptyWarning + r.freeze.isEmpty.toNat ∧
        (NeverWarns persist →
          (g.emptyWarning ∈ (g.finalize persist (.recorder r) s).log ↔ payload = .object [])) ∧
        (r.freeze.isEmpty = true ↔ payload = .object []) ∧
        (payload = .object [] ↔ r.IsBlank)) ∧
    (∀ number, NeverWarns (Sink.persistAt number)) ∧ ∀ w : Webhook, NeverWarns w.persist := by
  refine ⟨fun t payload hroom h => Transcript.isEmpty_iff_payload hroom h, ?_,
    Sink.neverWarns_persistAt, Webhook.neverWarns_persist⟩
  intro σ g persist r s suffix hroom hg hformatter hanswer
  have htranscript : (Submission.recorder r).transcript = .ok r.freeze := rfl
  have hcount := count_finalize persist s htranscript hg
  obtain ⟨payload, hp⟩ := exists_payload_of_finalize htranscript hg hanswer
  rw [deliver_of_ok hp] at hcount
  have hencode : encodeTranscript (.transcript r.freeze) = .ok payload := by
    rw [hformatter] at hp
    exact (formatTranscript_eq_ok.mp hp).1
  have hempty := Transcript.isEmpty_iff_payload hroom hencode
  refine ⟨payload, ?_, hcount, ?_, hempty, ?_⟩
  · rw [demands_of_pending htranscript hg, demandsFor, hp]
  · intro hquiet
    rw [← List.count_pos_iff, hcount, hquiet.count_eq_zero, ← hempty]
    cases r.freeze.isEmpty <;> simp
  · rw [← hempty, Recorder.isEmpty_freeze_iff hroom]

/-- An empty name of a room is none, and a name is enough for an artifact not to be empty. -/
theorem Guard.warns_iff_blank_roomNames :
    let g := Guard.new (.ofString "minutes.json") (.json ".json")
    let s : List Sink × FileStore := ([.memory []], .empty)
    let finalize (r : Recorder) := g.finalize (Sink.persistAt 0) (.recorder r) s
    g.emptyWarning ∈ (finalize (.new (.text []))).log ∧
      g.emptyWarning ∉ (finalize (.new (.str "standup"))).log := by
  intro g s finalize
  obtain ⟨-, hwarns, hquiet, -⟩ := warns_iff_blank
  have hempty : (finalize (.new (.text []))).answer = .ok true := by cbv
  have hnamed : (finalize (.new (.str "standup"))).answer = .ok true := by cbv
  obtain ⟨payload, -, -, hmem, -, hblank⟩ :=
    hwarns g (Sink.persistAt 0) _ s ".json" (.inr ⟨_, rfl⟩) rfl rfl hempty
  obtain ⟨payload', -, -, hmem', -, hblank'⟩ :=
    hwarns g (Sink.persistAt 0) _ s ".json" (.inr ⟨_, rfl⟩) rfl rfl hnamed
  constructor
  · exact (hmem (hquiet 0)).mpr (hblank.mpr ⟨.inr rfl, rfl, rfl, rfl, rfl⟩)
  · intro h
    rcases (hblank'.mp ((hmem' (hquiet 0)).mp h)).roomName with h | h <;> cases h

end Proceedings
