import Proceedings.Proofs.CommandLine.Arguments
import Proceedings.Proofs.Demand
import Proceedings.Proofs.Files.Content
import Proceedings.Proofs.Replay.Artifact
import Proceedings.Proofs.Sink.Directory
import Proceedings.Proofs.Text.Utf8

/-! # How a run ends

A run that publishes to a directory ends cleanly, with the artifact or with a message, but for three
cases: it dies of an event that is out of range, it leaves an empty file if the text of the artifact
has no bytes, and it leaves a part of the bytes if their writing breaks off.
-/

namespace Proceedings.CommandLine

open FileStore Replay

section Ends

/-- A run that published an artifact: its name is all that was printed, its file all that is new. -/
structure Run.Publishes (directory : Path) (id : Text) (bytes : List UInt8) (files : FileStore)
    (r : Run) : Prop where
  exit : r.exit = .ok 0
  printed : r.printed = [id]
  files : GainsFile directory id bytes files r.surroundings.files

structure Run.Reports (f : Failure) (r : Run) : Prop where
  exit : r.exit = .ok 1
  printed : r.printed = []
  told : ∃ before, r.told = before ++ [.ofString "Error: " ++ f.report]

structure Run.Dies (f : Failure) (s : Surroundings) (r : Run) : Prop where
  exit : r.exit = .error f
  printed : r.printed = []
  surroundings : r.surroundings = s

def Invocation.artifactText (i : Invocation) (files : FileStore) : Except Failure Text := do
  let events ← loadEvents (.ofText i.eventsFile) files
  let initial ← initialParticipants i files
  let payload ← Wire.formatTranscript (.transcript (record i.room events initial).freeze)
  serialize payload

/-- A run that ended in one of two ways: with the file of the artifact, or with a message and
without a new file. -/
def Run.IsClean (i : Invocation) (directory : Path) (id : Text) (files : FileStore) (r : Run) :
    Prop :=
  (∃ text bytes, i.artifactText files = .ok text ∧ Utf8.encode text = .ok bytes ∧
    r.Publishes directory id bytes files) ∨
  ∃ f, r.Reports f ∧ GainsNoFile files r.surroundings.files

theorem Run.Dies.not_isClean {i : Invocation} {directory : Path} {id : Text} {files : FileStore}
    {f : Failure} {s : Surroundings} {r : Run} (h : r.Dies f s) :
    ¬ r.IsClean i directory id files := by
  have hexit := h.exit
  rintro (⟨_, _, -, -, hpublishes⟩ | ⟨g, hreports, -⟩)
  · rw [hpublishes.exit] at hexit
    cases hexit
  · rw [hreports.exit] at hexit
    cases hexit

theorem Run.Reports.not_isClean {i : Invocation} {directory : Path} {id : Text}
    {files : FileStore} {bytes : List UInt8} {f : Failure} {r : Run} (h : r.Reports f)
    (hgains : GainsFile directory id bytes files r.surroundings.files) :
    ¬ r.IsClean i directory id files := by
  rintro (⟨_, _, -, -, hpublishes⟩ | ⟨g, -, hnone⟩)
  · have hexit := h.exit
    rw [hpublishes.exit] at hexit
    cases hexit
  · exact hgains.not_gainsNoFile hnone

/-- An artifact with a text that has no bytes, since half of a surrogate pair stands in it, and a
file that can be made nonetheless. -/
def Invocation.LeavesEmpty (i : Invocation) (directory : Path) (id : Text) (files : FileStore) :
    Prop :=
  ∃ text, i.artifactText files = .ok text ∧ (∃ p ∈ text, p.isSurrogate = true) ∧
    Directory.CanStore directory id files

/-- An artifact with a text of such bytes, whose writing to a new file breaks off. -/
def Invocation.BreaksOff (i : Invocation) (directory : Path) (id : Text) (files : FileStore)
    (bytes : List UInt8) (b : WriteBreak) : Prop :=
  ∃ text, i.artifactText files = .ok text ∧ Utf8.encode text = .ok bytes ∧
    Directory.CanStore directory id files ∧ Directory.break? directory id files = some b

end Ends

variable {rule : DashRule} {formats : List String} {i : Invocation} {directory : Path}
  {s : Surroundings} {f : Failure}

section Artifact

variable {files : FileStore}

theorem of_initialParticipants {initial : List Participant}
    (h : initialParticipants i files = .ok initial) :
    ∀ p ∈ initial, p.HoldsJson ∧ p.id.unhashable? = none := by
  unfold initialParticipants at h
  split at h
  · obtain ⟨path, -, h⟩ := bind_eq_ok.mp h
    exact of_loadParticipants h
  · obtain rfl := Except.ok.inj h
    nofun

theorem isReported_initialParticipants (hwords : i.HoldsWords rule formats)
    (h : initialParticipants i files = .error f) : isReported f = true := by
  unfold initialParticipants at h
  split at h
  · next htrue =>
    obtain ⟨t, ht⟩ := hwords.participants.exists_text htrue
    simp only [ht, pathOf, ok_bind] at h
    exact isReported_loadParticipants h
  · cases h

/-- There is no artifact for a reason that is not told exactly if an event is out of range. -/
theorem artifactText_not_isReported (hwords : i.HoldsWords rule formats) :
    i.artifactText files = .error f ∧ isReported f = false ↔
      LogOutOfRange (.ofText i.eventsFile) files f := by
  rw [← loadEvents_not_isReported]
  constructor
  · rintro ⟨h, hf⟩
    have hnot : isReported f ≠ true := Bool.eq_false_iff.mp hf
    rcases bind_eq_error.mp h with h | ⟨events, hevents, h⟩
    · exact ⟨h, hf⟩
    rcases bind_eq_error.mp h with h | ⟨initial, hinitial, h⟩
    · exact absurd (isReported_initialParticipants hwords h) hnot
    have hroom := hwords.room.isJson
    have hloaded := of_loadEvents hevents
    have hpresent := of_initialParticipants hinitial
    rcases bind_eq_error.mp h with h | ⟨payload, hpayload, h⟩
    · exact absurd (isReported_formatTranscript hroom hloaded hpresent h) hnot
    · obtain ⟨text, htext⟩ := exists_serialize_formatTranscript hroom hloaded hpresent hpayload
      rw [htext] at h
      cases h
  · rintro ⟨h, hf⟩
    exact ⟨by rw [Invocation.artifactText, h, error_bind], hf⟩

end Artifact

section Publish

variable (told : List Text) (s : Surroundings)

theorem Run.failed_reports (hf : isReported f = true) : (failed s told f).Reports f := by
  rw [failed, if_pos hf]
  exact ⟨rfl, rfl, told, rfl⟩

theorem Run.failed_dies (hf : isReported f = false) : (failed s told f).Dies f s := by
  rw [failed, if_neg (by simp [hf])]
  exact ⟨rfl, rfl, rfl⟩

theorem Run.failed_surroundings (f : Failure) : (failed s told f).surroundings = s := by
  unfold failed
  split <;> rfl

theorem publish_spec {g : Guard} (hg : g.state = .pending) (o : Outlet) (r : Recorder) :
    let delivery := g.deliver o.persist r.freeze s
    let run := publish g o r told s
    run.surroundings = delivery.state ∧
      (delivery.answer = .ok () → run.exit = .ok 0 ∧ run.printed = [g.artifactId]) ∧
      ∀ f, delivery.answer = .error f → isReported f = true → run.Reports f := by
  intro delivery run
  have hsubject : (Submission.recorder r).transcript = .ok r.freeze := rfl
  obtain ⟨hstate, hanswer⟩ := Guard.finalize_of_pending o.persist s hsubject hg
  refine ⟨?_, ?_, ?_⟩
  · simp only [run, publish, hstate]
    split
    · rfl
    · exact Run.failed_surroundings _ _ _
  · intro hok
    have hok : (g.deliver o.persist r.freeze s).answer = .ok () := hok
    simp only [run, publish, hanswer, hok, Except.map]
    exact ⟨trivial, trivial⟩
  · intro f herror hf
    have herror : (g.deliver o.persist r.freeze s).answer = .error f := herror
    simp only [run, publish, hanswer, herror, Except.map]
    exact { Run.failed_reports _ _ hf with }

end Publish

section Replay

theorem prepare_directory (hwebhook : i.webhook = false) (hformat : i.format = .str "json")
    (hdirectory : pathOf i.outputDirectory = .ok directory) (env : Environment)
    (suffix stem : String) :
    prepare env suffix stem i =
      .ok (.new (.ofString (stem ++ suffix)) (.json suffix), .directory directory) := by
  have hequals : (Value.str "json").equals (.str "json") = true := by cbv
  simp only [prepare, outlet, hwebhook, Bool.false_eq_true, if_false, hdirectory, map_ok, ok_bind,
    formatter, Formatter.all, hformat, List.find?_cons, hequals]
  rfl

theorem replay_dies (env : Environment) (suffix stem : String)
    (h : LogOutOfRange (.ofText i.eventsFile) s.files f) :
    (replay env suffix stem i s).Dies f s := by
  obtain ⟨hload, hf⟩ := loadEvents_not_isReported.mpr h
  unfold replay
  simp only [hload]
  exact Run.failed_dies _ _ hf

variable {env : Environment} {suffix stem : String} {id : Text}
  (hprepare : prepare env suffix stem i = .ok (.new id (.json suffix), .directory directory))

include hprepare

theorem replay_of_text {text : Text} (h : i.artifactText s.files = .ok text) :
    ∃ payload, serialize payload = .ok text ∧
      let delivery := Directory.persist directory id payload s.files
      let run := replay env suffix stem i s
      run.surroundings.files = delivery.state ∧
        (delivery.answer = .ok () → run.exit = .ok 0 ∧ run.printed = [id]) ∧
        ∀ f, delivery.answer = .error f → isReported f = true → run.Reports f := by
  obtain ⟨events, hevents, h⟩ := bind_eq_ok.mp h
  obtain ⟨initial, hinitial, h⟩ := bind_eq_ok.mp h
  obtain ⟨payload, hpayload, htext⟩ := bind_eq_ok.mp h
  let g := Guard.new id (.json suffix)
  have hdeliver : g.deliver (Outlet.directory directory).persist
      (record i.room events initial).freeze s =
        (Directory.persist directory id payload s.files).within
          fun files => { s with files := files } :=
    Guard.deliver_of_ok hpayload
  refine ⟨payload, htext, ?_⟩
  unfold replay
  simp only [hevents, hinitial, hprepare]
  obtain ⟨hsurroundings, hok, herror⟩ := publish_spec _ s
    (show g.state = .pending from rfl) (.directory directory) (record i.room events initial)
  rw [hdeliver] at hsurroundings hok herror
  exact ⟨congrArg Surroundings.files hsurroundings, hok, herror⟩

theorem replay_of_error (hwords : i.HoldsWords rule formats)
    (h : i.artifactText s.files = .error f) (hf : isReported f = true) :
    (replay env suffix stem i s).Reports f ∧ (replay env suffix stem i s).surroundings = s := by
  unfold replay
  rcases bind_eq_error.mp h with h | ⟨events, hevents, h⟩
  · simp only [h]
    exact ⟨Run.failed_reports _ _ hf, Run.failed_surroundings _ _ _⟩
  rcases bind_eq_error.mp h with h | ⟨initial, hinitial, h⟩
  · simp only [hevents, h]
    exact ⟨Run.failed_reports _ _ hf, Run.failed_surroundings _ _ _⟩
  simp only [hevents, hinitial, hprepare]
  rcases bind_eq_error.mp h with h | ⟨payload, hpayload, h⟩
  · let g := Guard.new id (.json suffix)
    have hdeliver : g.deliver (Outlet.directory directory).persist
        (record i.room events initial).freeze s = .failed s f :=
      Guard.deliver_of_error h
    obtain ⟨hsurroundings, -, herror⟩ := publish_spec _ s
      (show g.state = .pending from rfl) (.directory directory) (record i.room events initial)
    rw [hdeliver] at hsurroundings herror
    exact ⟨herror f rfl hf, hsurroundings⟩
  · obtain ⟨text, htext⟩ := exists_serialize_formatTranscript hwords.room.isJson
      (of_loadEvents hevents) (of_initialParticipants hinitial) hpayload
    rw [htext] at h
    cases h

theorem replay_publishes {text : Text} {bytes : List UInt8}
    (htext : i.artifactText s.files = .ok text) (hbytes : Utf8.encode text = .ok bytes)
    (hstore : Directory.CanStore directory id s.files)
    (hwhole : Directory.break? directory id s.files = none) :
    (replay env suffix stem i s).Publishes directory id bytes s.files := by
  obtain ⟨payload, hserialize, hfiles, hok, -⟩ := replay_of_text hprepare htext
  obtain ⟨hanswer, hgains⟩ := Directory.persist_of_canStore hserialize hstore hwhole hbytes
  obtain ⟨hexit, hprinted⟩ := hok hanswer
  rw [← hfiles] at hgains
  exact ⟨hexit, hprinted, hgains⟩

theorem replay_leavesEmpty (h : i.LeavesEmpty directory id s.files) :
    (∃ e, (replay env suffix stem i s).Reports (.unencodable e)) ∧
      GainsFile directory id [] s.files (replay env suffix stem i s).surroundings.files := by
  obtain ⟨text, htext, hsurrogate, hstore⟩ := h
  obtain ⟨e, he⟩ := Utf8.exists_encode_error_iff.mpr hsurrogate
  obtain ⟨payload, hserialize, hfiles, -, herror⟩ := replay_of_text hprepare htext
  obtain ⟨hanswer, hgains⟩ := Directory.persist_of_unencodable hserialize hstore he
  rw [← hfiles] at hgains
  exact ⟨⟨e, herror _ hanswer rfl⟩, hgains⟩

theorem replay_breaksOff {bytes : List UInt8} {b : WriteBreak}
    (h : i.BreaksOff directory id s.files bytes b) :
    (replay env suffix stem i s).Reports (Directory.brokenOff directory id b) ∧
      GainsFile directory id (bytes.take b.written) s.files
        (replay env suffix stem i s).surroundings.files := by
  obtain ⟨text, htext, hbytes, hstore, hbreak⟩ := h
  obtain ⟨payload, hserialize, hfiles, -, herror⟩ := replay_of_text hprepare htext
  obtain ⟨hanswer, hgains⟩ := Directory.persist_of_break hserialize hstore hbreak hbytes
  rw [← hfiles] at hgains
  exact ⟨herror _ hanswer rfl, hgains⟩

theorem replay_isClean (hwords : i.HoldsWords rule formats)
    (hrange : ∀ f, ¬ LogOutOfRange (.ofText i.eventsFile) s.files f)
    (hempty : ¬ i.LeavesEmpty directory id s.files)
    (hwhole : ∀ bytes b, ¬ i.BreaksOff directory id s.files bytes b) :
    (replay env suffix stem i s).IsClean i directory id s.files := by
  cases htext : i.artifactText s.files with
  | error f =>
    have hf : isReported f = true := by
      by_contra hf
      exact hrange f
        ((artifactText_not_isReported hwords).mp ⟨htext, Bool.eq_false_iff.mpr hf⟩)
    obtain ⟨hreports, hsurroundings⟩ := replay_of_error hprepare hwords htext hf
    refine .inr ⟨f, hreports, ?_⟩
    rw [hsurroundings]
    exact .refl s.files
  | ok text =>
    by_cases hstore : Directory.CanStore directory id s.files
    · cases hbytes : Utf8.encode text with
      | error e =>
        have hsurrogate := Utf8.exists_encode_error_iff.mp ⟨e, hbytes⟩
        exact absurd ⟨text, htext, hsurrogate, hstore⟩ hempty
      | ok bytes =>
        cases hbreak : Directory.break? directory id s.files with
        | some b => exact absurd ⟨text, htext, hbytes, hstore, hbreak⟩ (hwhole bytes b)
        | none =>
          exact .inl ⟨text, bytes, htext, hbytes,
            replay_publishes hprepare htext hbytes hstore hbreak⟩
    · obtain ⟨payload, hserialize, hfiles, -, herror⟩ := replay_of_text hprepare htext
      obtain ⟨f, hf, hanswer, hgains⟩ := Directory.persist_of_not_canStore hserialize hstore
      have hreported : isReported f = true := by
        rcases hf with ⟨reason, cause, rfl⟩ | ⟨e, rfl⟩ <;> rfl
      rw [← hfiles] at hgains
      exact .inr ⟨f, herror f hanswer hreported, hgains⟩

end Replay

section Runs

variable (env : Environment) {settings : Settings} (stem : String) {argv : List Text}
  (hparse : parse rule settings.outputDirectory ["json"] argv = .ok (some i))
  (hfile : s.files.isFile (.ofText i.eventsFile) = .ok true)

include hparse hfile

theorem run_eq_replay :
    run rule env settings stem argv s = replay env settings.fileSuffix stem i s := by
  have hformats : (Formatter.all settings.fileSuffix).map (·.1) = ["json"] := rfl
  unfold run
  simp only [hformats, hparse]
  unfold invoke
  simp only [hfile]

/-- A run that publishes to a directory ends with the file of the artifact and its name as all that
is printed, or with a message and no new file, but for three cases. If an event is out of range, the
run dies of that. If half of a surrogate pair stands in the text of the artifact, or the writing of
its bytes breaks off, the run ends with a message but leaves a file, which is empty or holds what
was written. -/
theorem run_isClean_iff (hwebhook : i.webhook = false) (hformat : i.format = .str "json")
    (hdirectory : pathOf i.outputDirectory = .ok directory) :
    let id := .ofString (stem ++ settings.fileSuffix)
    let r := run rule env settings stem argv s
    (r.IsClean i directory id s.files ↔
      (∀ f, ¬ LogOutOfRange (.ofText i.eventsFile) s.files f) ∧
        ¬ i.LeavesEmpty directory id s.files ∧
        ∀ bytes b, ¬ i.BreaksOff directory id s.files bytes b) ∧
    (∀ f, LogOutOfRange (.ofText i.eventsFile) s.files f → r.Dies f s) ∧
    (i.LeavesEmpty directory id s.files →
      (∃ e, r.Reports (.unencodable e)) ∧
        GainsFile directory id [] s.files r.surroundings.files) ∧
    (∀ bytes b, i.BreaksOff directory id s.files bytes b →
      r.Reports (Directory.brokenOff directory id b) ∧
        GainsFile directory id (bytes.take b.written) s.files r.surroundings.files) ∧
    ∀ text, i.artifactText s.files = .ok text → (∀ p ∈ text, p.isSurrogate = false) →
      Directory.CanStore directory id s.files → Directory.break? directory id s.files = none →
        ∃ bytes, Utf8.encode text = .ok bytes ∧ r.Publishes directory id bytes s.files := by
  intro id r
  have hrun : r = replay env settings.fileSuffix stem i s := run_eq_replay env stem hparse hfile
  rw [hrun]
  have hprepare := prepare_directory hwebhook hformat hdirectory env settings.fileSuffix stem
  have hdies (f) (h : LogOutOfRange (.ofText i.eventsFile) s.files f) :=
    replay_dies env settings.fileSuffix stem h
  refine ⟨⟨?_, ?_⟩, hdies, replay_leavesEmpty hprepare, fun _ _ => replay_breaksOff hprepare, ?_⟩
  · intro hclean
    refine ⟨fun f h => (hdies f h).not_isClean hclean, fun h => ?_, fun bytes b h => ?_⟩
    · obtain ⟨⟨e, hreports⟩, hgains⟩ := replay_leavesEmpty hprepare h
      exact hreports.not_isClean hgains hclean
    · obtain ⟨hreports, hgains⟩ := replay_breaksOff hprepare h
      exact hreports.not_isClean hgains hclean
  · rintro ⟨hrange, hempty, hwhole⟩
    exact replay_isClean hprepare (parse_holdsWords hparse) hrange hempty hwhole
  · intro text htext hplain hstore hwhole
    obtain ⟨bytes, hbytes⟩ := Utf8.exists_encode_iff.mpr hplain
    exact ⟨bytes, hbytes, replay_publishes hprepare htext hbytes hstore hwhole⟩

end Runs

section Examples

def meetingHome (breaks : FilePlace → Option WriteBreak) (log guests : Text) : Surroundings :=
  let bytes (t : Text) : List UInt8 := t.map fun p => p.toNat.toUInt8
  ⟨⟨[([.ofString "log"], .file (bytes log)), ([.ofString "guests"], .file (bytes guests))], [],
    breaks⟩, .down ""⟩

/-- A call to publish them there, for a room whose name is two dashes. -/
def meetingArguments : List Text :=
  ["log", "--participants", "guests", "--output-dir", ".", "--room=--"].map Text.ofString

def meeting : Invocation :=
  ⟨.ofString "log", .str "--", .str "guests", .str ".", false, .str "json"⟩

def plainSettings : Settings := ⟨"transcripts", ".json", "", .zero, "INFO"⟩

def meetingRun (home : Surroundings) : Run :=
  run .kept [] plainSettings "minutes" meetingArguments home

variable {breaks : FilePlace → Option WriteBreak} {log guests : Text}

theorem parse_meeting :
    parse .kept plainSettings.outputDirectory ["json"] meetingArguments = .ok (some meeting) := by
  cbv

theorem locate_log : (meetingHome breaks log guests).files.locate (.ofText meeting.eventsFile) =
    .ok [.ofString "log"] :=
  (locate_eq_walk (by cbv) (by decide)).trans rfl

theorem locate_guests : (meetingHome breaks log guests).files.locate (.ofString "guests") =
    .ok [.ofString "guests"] :=
  (locate_eq_walk (by cbv) (by decide)).trans rfl

theorem isFile_log :
    (meetingHome breaks log guests).files.isFile (.ofText meeting.eventsFile) = .ok true := by
  simp only [isFile, FileStore.find, locate_log]
  rfl

theorem contents_log (hascii : ∀ p ∈ log, p.toNat < 0x80) :
    contents (.ofText meeting.eventsFile) (meetingHome breaks log guests).files =
      readValues (.ofText meeting.eventsFile) log.unifyNewlines :=
  contents_of_file locate_log rfl (Utf8.decode_ascii hascii)

theorem contents_guests (hascii : ∀ p ∈ guests, p.toNat < 0x80) :
    contents (.ofString "guests") (meetingHome breaks log guests).files =
      readValues (.ofString "guests") guests.unifyNewlines :=
  contents_of_file locate_guests rfl (Utf8.decode_ascii hascii)

theorem locate_home :
    (meetingHome breaks log guests).files.locate (.ofString ".") = .ok [] :=
  (locate_eq_walk (by cbv) (by decide)).trans rfl

theorem makeDirectories_meeting :
    (meetingHome breaks log guests).files.makeDirectories (.ofString ".") =
      ((meetingHome breaks log guests).files, .ok ()) :=
  makeDirectories_of_directory locate_home rfl

theorem locate_minutes : (meetingHome breaks log guests).files.locate
    ((Path.ofString ".").child (.ofString "minutes.json")) = .ok [.ofString "minutes.json"] :=
  (locate_eq_walk (by cbv) (by decide)).trans rfl

theorem canStore_meeting : Directory.CanStore (.ofString ".") (.ofString "minutes.json")
    (meetingHome breaks log guests).files :=
  ⟨by cbv, _, makeDirectories_meeting, _, locate_minutes, rfl⟩

theorem break?_meeting : Directory.break? (.ofString ".") (.ofString "minutes.json")
    (meetingHome breaks log guests).files = breaks [.ofString "minutes.json"] :=
  Directory.break?_eq makeDirectories_meeting locate_minutes

def guest (id : Text) : Participant := ⟨.str "", .text id, .null, .null⟩

def guestPayload (id : Text) : Value :=
  .object [(Wire.key "room_name", .str "--"), (Wire.key "initial_participants",
    .list [.object [(Wire.key "name", .str ""), (Wire.key "id", .text id)]])]

def guestText (id : String) : Text :=
  Text.ofString "[\x7b\"id\":\"" ++ Text.ofString id ++ Text.ofString "\"\x7d]"

def minutesText (id : Text) : Text :=
  Text.ofString
      "\x7b\n  \"room_name\": \"--\",\n  \"initial_participants\": [\n    \x7b\n      \"name\": \"\",\n      \"id\": \"" ++
    id ++ Text.ofString "\"\n    \x7d\n  ]\n\x7d"

theorem artifactText_guest (id : Text) {text : Text} (hascii : ∀ p ∈ guests, p.toNat < 0x80)
    (hread : readValues (.ofString "guests") guests.unifyNewlines =
      .ok [.object [(Wire.key "id", .text id)]])
    (hformat : Wire.formatTranscript (.transcript (record meeting.room [] [guest id]).freeze) =
      .ok (guestPayload id))
    (htext : serialize (guestPayload id) = .ok text) :
    meeting.artifactText (meetingHome breaks [] guests).files = .ok text := by
  let files := (meetingHome breaks [] guests).files
  have hevents : loadEvents (.ofText meeting.eventsFile) files = .ok [] := by
    rw [loadEvents_eq, contents_log (by simp)]
    rfl
  have hguest : Wire.parseParticipant (.object [(Wire.key "id", .text id)]) = .ok (guest id) := by
    simp [Wire.parseParticipant, Wire.field, Wire.optional, Fields.get?_cons]
    rfl
  have hinitial : initialParticipants meeting files = .ok [guest id] := by
    have hpath : pathOf meeting.participants = .ok (.ofString "guests") := by cbv
    rw [initialParticipants, if_pos (show meeting.participants.isTruthy = true from rfl), hpath,
      ok_bind, loadParticipants_eq, contents_guests hascii, hread]
    simp [hguest]
  have hartifact := calc
    meeting.artifactText files
    _ = (loadEvents (.ofText meeting.eventsFile) files >>= fun events =>
        initialParticipants meeting files >>= fun initial =>
          Wire.formatTranscript (.transcript (record meeting.room events initial).freeze) >>=
            serialize) := rfl
    _ = .ok text := by
      rw [hevents, ok_bind, hinitial, ok_bind, hformat, ok_bind, htext]
  exact hartifact

theorem artifactText_p1 : meeting.artifactText (meetingHome breaks [] (guestText "p1")).files =
    .ok (minutesText (.ofString "p1")) :=
  artifactText_guest (.ofString "p1") (by decide) (by cbv) (by cbv) (by cbv)

/-- The minutes are published under the name of the room, two dashes. -/
theorem run_isClean_meeting :
    let home := meetingHome (fun _ => none) [] (guestText "p1")
    Text.ofString "--room=--" ∈ meetingArguments ∧
      ∃ bytes, Utf8.encode (minutesText (.ofString "p1")) = .ok bytes ∧
        (meetingRun home).Publishes (.ofString ".") (.ofString "minutes.json") bytes
          home.files := by
  have hdirectory : pathOf meeting.outputDirectory = .ok (.ofString ".") := by cbv
  obtain ⟨-, -, -, -, hpublishes⟩ :=
    run_isClean_iff [] "minutes" parse_meeting isFile_log rfl rfl hdirectory
  exact ⟨by decide, hpublishes _ artifactText_p1 (by decide) canStore_meeting break?_meeting⟩

/-- A log of someone who joins before the calendar begins in UTC. -/
def earlyText : Text := Text.ofString
  "\x7b\"event\":\"JOIN\",\"timestamp\":\"0001-01-01T00:00:00+01:00\",\"participant\":\x7b\"id\":\"p1\",\"name\":\"A\"\x7d\x7d"

def fullDisk (_ : FilePlace) : Option WriteBreak := some ⟨1, .noSpace⟩

/-- One run dies. Another, of a guest whose id is half of a surrogate pair, leaves an empty file. A
third leaves a file of one byte. -/
theorem not_isClean_meeting :
    let early := meetingHome (fun _ => none) earlyText []
    let broken := meetingHome (fun _ => none) [] (guestText "\\ud800")
    let full := meetingHome fullDisk [] (guestText "p1")
    ∀ home ∈ [early, broken, full],
      ¬ (meetingRun home).IsClean meeting (.ofString ".") (.ofString "minutes.json")
        home.files := by
  intro early broken full
  have hdirectory : pathOf meeting.outputDirectory = .ok (.ofString ".") := by cbv
  have hprepare := prepare_directory rfl rfl hdirectory [] plainSettings.fileSuffix "minutes"
  have hrun (log guests : Text) (breaks : FilePlace → Option WriteBreak) :
      meetingRun (meetingHome breaks log guests) =
        replay [] plainSettings.fileSuffix "minutes" meeting (meetingHome breaks log guests) :=
    run_eq_replay [] "minutes" parse_meeting isFile_log
  simp only [List.forall_mem_cons, early, broken, full, hrun]
  refine ⟨?_, ?_, ?_, List.forall_mem_nil _⟩
  · have hall : earlyText.all (fun p => p.toNat < 0x80) = true := by cbv
    have hascii : ∀ p ∈ earlyText, p.toNat < 0x80 := by simpa using hall
    have hcontents : contents (.ofText meeting.eventsFile) early.files = .ok [Wire.earlyJoin] := by
      rw [contents_log hascii]
      cbv
    have hearly : Wire.EventOutOfRange Wire.earlyJoin .dateRange :=
      ⟨Wire.earlyJoin, _, .join, _, rfl, rfl, rfl, rfl, .inl ⟨rfl, Wire.isOutsideCalendar_early⟩⟩
    have hrange : LogOutOfRange (.ofText meeting.eventsFile) early.files .dateRange :=
      ⟨_, [], Wire.earlyJoin, [], hcontents, rfl, List.forall_mem_nil _, hearly⟩
    exact (replay_dies [] plainSettings.fileSuffix "minutes" hrange).not_isClean
  · have htext : meeting.artifactText broken.files = .ok (minutesText [.surrogate 0]) :=
      artifactText_guest [.surrogate 0] (by decide) (by cbv) (by cbv) (by cbv)
    have hempty : meeting.LeavesEmpty (.ofString ".") (.ofString "minutes.json") broken.files :=
      ⟨_, htext, ⟨.surrogate 0, by simp [minutesText], rfl⟩, canStore_meeting⟩
    obtain ⟨⟨e, hreports⟩, hgains⟩ := replay_leavesEmpty hprepare hempty
    exact hreports.not_isClean hgains
  · obtain ⟨bytes, hbytes⟩ := Utf8.exists_encode_iff.mpr
      (show ∀ p ∈ minutesText (.ofString "p1"), p.isSurrogate = false by decide)
    have hbreaks : meeting.BreaksOff (.ofString ".") (.ofString "minutes.json") full.files bytes
        ⟨1, .noSpace⟩ :=
      ⟨_, artifactText_p1, hbytes, canStore_meeting, break?_meeting⟩
    obtain ⟨hreports, hgains⟩ := replay_breaksOff hprepare hbreaks
    exact hreports.not_isClean hgains

end Examples

end Proceedings.CommandLine
