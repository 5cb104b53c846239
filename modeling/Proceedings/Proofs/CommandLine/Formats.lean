import Proceedings.Proofs.Files.Rewriting
import Proceedings.Proofs.Replay.Formats
import Proceedings.Proofs.Replay.Loading

/-! # Runs on the two formats of a log

A run reads its logs as values and nothing else depends on what files hold. So whether a log is an
array or stands on lines makes no difference to a run, as long as both are read as the same values.
-/

namespace Proceedings

section Guard

variable {σ : Type} {φ : σ → σ} {persist : Text → Value → σ → Outcome σ Unit} {s : σ}

theorem Guard.finalize_within (h : ∀ id payload, persist id payload (φ s) =
    (persist id payload s).within φ) (g : Guard) (subject : Submission) :
    g.finalize persist subject (φ s) = (g.finalize persist subject s).within (Prod.map id φ) := by
  unfold Guard.finalize Guard.deliver
  cases subject.transcript with
  | error f => rfl
  | ok t =>
    dsimp only
    cases g.state with
    | published => rfl
    | pending =>
      dsimp only
      cases g.formatter.payload t with
      | error f => rfl
      | ok payload =>
        dsimp only
        rw [h]
        rfl

end Guard

namespace CommandLine

def Surroundings.rewrite (place : FilePlace) (content : List UInt8) (s : Surroundings) :
    Surroundings :=
  { s with files := s.files.rewrite place content }

def Run.rewrite (place : FilePlace) (content : List UInt8) (r : Run) : Run :=
  { r with surroundings := r.surroundings.rewrite place content }

variable {place : FilePlace} {content : List UInt8} {s : Surroundings}

theorem Run.failed_rewrite (place : FilePlace) (content : List UInt8) (s : Surroundings)
    (told : List Text) (f : Failure) :
    Run.failed (s.rewrite place content) told f = (Run.failed s told f).rewrite place content := by
  unfold Run.failed
  split <;> rfl

theorem Outlet.persist_rewrite (h : s.files.HasFile place) (o : Outlet) (id : Text)
    (payload : Value) :
    o.persist id payload (s.rewrite place content) =
      (o.persist id payload s).within (Surroundings.rewrite place content) := by
  cases o with
  | directory path =>
    have hpersist := Directory.persist_rewrite h content path id payload
    simp only [Outlet.persist, Surroundings.rewrite, hpersist]
    rfl
  | webhook w => rfl

theorem publish_rewrite (h : s.files.HasFile place) (g : Guard) (o : Outlet) (r : Recorder)
    (told : List Text) :
    publish g o r told (s.rewrite place content) =
      (publish g o r told s).rewrite place content := by
  unfold publish
  rw [Guard.finalize_within fun id payload => Outlet.persist_rewrite h o id payload]
  dsimp only [Outcome.within]
  cases (g.finalize o.persist (.recorder r) s).answer with
  | ok => rfl
  | error f =>
    have hfailed := Run.failed_rewrite place content
      (g.finalize o.persist (.recorder r) s).state.2
      (told ++ [.ofString "Publishing transcript " ++ g.artifactId ++ .ofString "..."]) f
    exact congrArg (fun run : Run =>
      { run with log := (g.finalize o.persist (.recorder r) s).log }) hfailed

/-- Two stores with the same logs: from each path the same values are read. -/
def SameLogs (files files' : FileStore) : Prop :=
  ∀ path, Replay.contents path files = Replay.contents path files'

section

variable {files files' : FileStore} (h : SameLogs files files')

include h

theorem SameLogs.loadEvents (path : Path) :
    Replay.loadEvents path files = Replay.loadEvents path files' := by
  rw [Replay.loadEvents_eq, Replay.loadEvents_eq, h path]

theorem SameLogs.initialParticipants (i : Invocation) :
    initialParticipants i files = initialParticipants i files' := by
  simp only [CommandLine.initialParticipants, Replay.loadParticipants_eq, h _]

end

theorem replay_rewrite (h : s.files.HasFile place)
    (hlogs : SameLogs (s.files.rewrite place content) s.files) (env : Environment)
    (suffix stem : String) (i : Invocation) :
    replay env suffix stem i (s.rewrite place content) =
      (replay env suffix stem i s).rewrite place content := by
  unfold replay
  dsimp only [Surroundings.rewrite]
  rw [hlogs.loadEvents, hlogs.initialParticipants]
  cases Replay.loadEvents (.ofText i.eventsFile) s.files with
  | error f => exact Run.failed_rewrite place content s _ f
  | ok events =>
    dsimp only
    cases initialParticipants i s.files with
    | error f => exact Run.failed_rewrite place content s _ f
    | ok initial =>
      dsimp only
      cases prepare env suffix stem i with
      | error f => exact Run.failed_rewrite place content s _ f
      | ok target => exact publish_rewrite h target.1 target.2 _ _

/-- A run on a store in which a file has new content, but from which the same logs are read. -/
theorem run_rewrite (h : s.files.HasFile place)
    (hlogs : SameLogs (s.files.rewrite place content) s.files) (rule : DashRule)
    (env : Environment) (settings : Settings) (stem : String) (argv : List Text) :
    run rule env settings stem argv (s.rewrite place content) =
      (run rule env settings stem argv s).rewrite place content := by
  unfold run
  dsimp only
  split
  · rfl
  · rfl
  · next i _ =>
    unfold invoke
    dsimp only
    rw [show (s.rewrite place content).files.isFile (.ofText i.eventsFile) =
      s.files.isFile (.ofText i.eventsFile) from FileStore.isFile_rewrite s.files _]
    split
    · rfl
    · rfl
    · exact replay_rewrite h hlogs env settings.fileSuffix stem i

end CommandLine

namespace Replay

open Json CommandLine

variable {values : List Value} {texts : List Text} {array lines : Text}
  {arrayBytes lineBytes : List UInt8} {place : FilePlace}

theorem readText_rewrite {files : FileStore} {content : List UInt8} {t : Text}
    (h : files.HasFile place) (hdecode : Utf8.decode content = .ok t) (path : Path) :
    readText path (files.rewrite place content) =
      if files.locate path = .ok place then .ok t.unifyNewlines else readText path files := by
  rw [readText, FileStore.read_rewrite h]
  split
  · simp only [Except.mapError, ok_bind, hdecode, pure_eq_ok]
  · rfl

theorem sameLogs_formats {files : FileStore} (h : files.HasFile place)
    (harrayBytes : Utf8.decode arrayBytes = .ok array)
    (hlineBytes : Utf8.decode lineBytes = .ok lines)
    (harray : ∀ path, readValues path array.unifyNewlines = .ok values)
    (hlines : ∀ path, readValues path lines.unifyNewlines = .ok values) :
    SameLogs (files.rewrite place lineBytes) (files.rewrite place arrayBytes) := by
  intro path
  rw [contents, contents, readText_rewrite h harrayBytes, readText_rewrite h hlineBytes]
  split
  · exact (hlines path).trans (harray path).symm
  · rfl

/-- Objects may be logged as a JSON array or on lines of their own. The array is always read as
those objects, the lines exactly if no object holds a line end beyond ASCII as it stands; and then
a run is the same whichever of the two a file holds. -/
theorem formats_agree (hobjects : AreObjects values)
    (harray : IsTextOf words (.list values) array)
    (htexts : List.Forall₂ (fun w v => IsTextOf words v w) texts values)
    (hlines : OnLines texts lines) :
    (∀ path, readValues path array.unifyNewlines = .ok values) ∧
    (∀ path, readValues path lines.unifyNewlines = .ok values ↔ ∀ w ∈ texts, IsUncut w) ∧
    ((∀ w ∈ texts, IsUncut w) → ∀ arrayBytes lineBytes, Utf8.decode arrayBytes = .ok array →
      Utf8.decode lineBytes = .ok lines → ∀ (s : Surroundings) place, s.files.HasFile place →
      ∀ rule env settings stem argv,
        run rule env settings stem argv (s.rewrite place lineBytes) =
          (run rule env settings stem argv (s.rewrite place arrayBytes)).rewrite place
            lineBytes) := by
  have hreadArray := readValues_array harray.unifyNewlines
  have hreadLines (path : Path) :
      readValues path lines.unifyNewlines = .ok values ↔ ∀ w ∈ texts, IsUncut w := by
    rw [hlines.unifyNewlines]
    exact readValues_lines hlines htexts hobjects path
  refine ⟨hreadArray, hreadLines, ?_⟩
  intro huncut arrayBytes lineBytes harrayBytes hlineBytes s place h rule env settings stem argv
  have hlogs := sameLogs_formats h harrayBytes hlineBytes hreadArray
    fun path => (hreadLines path).mpr huncut
  have htwice :
      (s.rewrite place arrayBytes).rewrite place lineBytes = s.rewrite place lineBytes := by
    simp only [Surroundings.rewrite, FileStore.rewrite_rewrite]
  rw [← htwice]
  refine run_rewrite h.rewrite ?_ rule env settings stem argv
  simpa only [Surroundings.rewrite, FileStore.rewrite_rewrite] using hlogs

section Examples

def inArray (t : Text) : Text := .scalar '[' :: t ++ [.scalar ']']

def onLine (t : Text) : Text := t ++ [.scalar '\n']

def accented : Value := .object [(Text.ofString "n", .str "é")]

def accentedText : Text := Text.ofString "\x7b\"n\":\"é\"\x7d"

def accentedBytes : List UInt8 := [0x7B, 0x22, 0x6E, 0x22, 0x3A, 0x22, 0xC3, 0xA9, 0x22, 0x7D]

def loggedHome : Surroundings := ⟨.sound [([.ofString "log"], .file [])] [], .down ""⟩

theorem formats_agree_accented :
    (∀ path, readValues path (inArray accentedText).unifyNewlines = .ok [accented]) ∧
    (∀ path, readValues path (onLine accentedText).unifyNewlines = .ok [accented]) ∧
    ∀ rule env settings stem argv,
      run rule env settings stem argv
          (loggedHome.rewrite [.ofString "log"] (accentedBytes ++ [0x0A])) =
        (run rule env settings stem argv (loggedHome.rewrite [.ofString "log"]
          (0x5B :: accentedBytes ++ [0x5D]))).rewrite [.ofString "log"]
            (accentedBytes ++ [0x0A]) := by
  have hobjects : AreObjects [accented] := by
    intro v hv
    exact ⟨_, List.mem_singleton.mp hv⟩
  have harray : IsTextOf words (.list [accented]) (inArray accentedText) :=
    read_eq_ok_iff.mp (by cbv)
  have htext : IsTextOf words accented accentedText := read_eq_ok_iff.mp (by cbv)
  have hlines : OnLines [accentedText] (onLine accentedText) :=
    .text (by unfold IsOnLine; decide) .nil
  have huncut : ∀ w ∈ [accentedText], IsUncut w := by
    simp only [List.forall_mem_singleton]
    unfold IsUncut CodePoint.IsSeparator
    decide
  have hfile : loggedHome.files.HasFile [.ofString "log"] := ⟨[], rfl⟩
  have harrayBytes :
      Utf8.decode (0x5B :: accentedBytes ++ [0x5D]) = .ok (inArray accentedText) := by
    cbv
  have hlineBytes : Utf8.decode (accentedBytes ++ [0x0A]) = .ok (onLine accentedText) := by cbv
  obtain ⟨hreadArray, hreadLines, hrun⟩ :=
    formats_agree hobjects harray (.cons htext .nil) hlines
  refine ⟨hreadArray, fun path => (hreadLines path).mpr huncut, ?_⟩
  exact hrun huncut _ _ harrayBytes hlineBytes loggedHome [.ofString "log"] hfile

/-- An object with a text of two lines, as other scripts part them. -/
def separated : Value := .object [(Text.ofString "n", .str "a\u2028b")]

def separatedText : Text := Text.ofString "\x7b\"n\":\"a\u2028b\"\x7d"

theorem separated_unreadable :
    AreObjects [separated] ∧ IsTextOf words separated separatedText ∧
      OnLines [separatedText] (onLine separatedText) ∧
      (∀ path, readValues path (inArray separatedText) = .ok [separated]) ∧
      ∀ path, readValues path (onLine separatedText) ≠ .ok [separated] := by
  have hobjects : AreObjects [separated] := by
    intro v hv
    exact ⟨_, List.mem_singleton.mp hv⟩
  have htext : IsTextOf words separated separatedText := read_eq_ok_iff.mp (by cbv)
  have harray : IsTextOf words (.list [separated]) (inArray separatedText) :=
    read_eq_ok_iff.mp (by cbv)
  have hlines : OnLines [separatedText] (onLine separatedText) :=
    .text (by unfold IsOnLine; decide) .nil
  refine ⟨hobjects, htext, hlines, readValues_array harray, ?_⟩
  intro path hread
  have huncut := (readValues_lines hlines (.cons htext .nil) hobjects path).mp hread
  refine huncut separatedText List.mem_cons_self (.scalar '\u2028') (by decide) ?_
  unfold CodePoint.IsSeparator
  decide

end Examples

end Replay

end Proceedings
