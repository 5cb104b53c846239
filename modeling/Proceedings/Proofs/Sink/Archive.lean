import Proceedings.Proofs.Files.Content
import Proceedings.Proofs.Sink.Directory

/-! # What is archived stays

A directory holds what was delivered to it for good. Over any deliveries, to any directories, a file
that is there keeps its content, and each delivery adds the file that it is about or none. So of the
deliveries under one name in one directory only the first can succeed.
-/

namespace Proceedings

namespace FileStore

variable {s s' s'' : FileStore} {added : List (FilePlace × Node)}

/-- A store that has every file of another as it was there, and finds it under the same paths. -/
structure KeepsFiles (s s' : FileStore) : Prop where
  contentAt : ∀ q bytes, s.contentAt q = some bytes → s'.contentAt q = some bytes
  locate : ∀ p q, s.locate p = .ok q → s'.locate p = .ok q

theorem KeepsFiles.refl (s : FileStore) : KeepsFiles s s := ⟨fun _ _ h => h, fun _ _ h => h⟩

theorem KeepsFiles.trans (h : KeepsFiles s s') (h' : KeepsFiles s' s'') : KeepsFiles s s'' :=
  ⟨fun q bytes hq => h'.contentAt q bytes (h.contentAt q bytes hq),
    fun p q hp => h'.locate p q (h.locate p q hp)⟩

theorem KeepsFiles.read (h : KeepsFiles s s') {p : Path} {bytes : List UInt8}
    (hp : s.read p = .ok bytes) : s'.read p = .ok bytes := by
  obtain ⟨q, hlocate, hcontent⟩ := read_eq_ok.mp hp
  exact read_eq_ok.mpr ⟨q, h.locate p q hlocate, h.contentAt q bytes hcontent⟩

theorem Grows.keepsFiles (h : Grows s s' added) : KeepsFiles s s' :=
  ⟨fun _ _ => h.contentAt_eq, fun _ _ => h.locate_eq⟩

theorem GainsNoFile.keepsFiles (h : GainsNoFile s s') : KeepsFiles s s' := by
  obtain ⟨made, -, hgrows⟩ := h
  exact hgrows.keepsFiles

theorem GainsFile.keepsFiles {directory : Path} {name : Text} {bytes : List UInt8}
    (h : GainsFile directory name bytes s s') : KeepsFiles s s' := by
  obtain ⟨place, made, -, -, -, hgrows⟩ := h
  exact hgrows.keepsFiles

def SameFiles (s s' : FileStore) : Prop := ∀ q, s'.contentAt q = s.contentAt q

theorem GainsNoFile.sameFiles (h : GainsNoFile s s') : SameFiles s s' := by
  obtain ⟨made, hmade, hgrows⟩ := h
  exact hgrows.contentAt_of_areDirectories hmade

/-- A store with the files of another and one more, under a name in a directory where nothing had
that name. -/
def AddsFile (directory : Path) (name : Text) (bytes : List UInt8) (s s' : FileStore) : Prop :=
  s'.read (directory.child name) = .ok bytes ∧
    ∃ place, let new := place ++ [FileName.ofText name]
      s'.locate directory = .ok place ∧ s.at? new = none ∧
        ∀ q, s'.contentAt q = if q = new then some bytes else s.contentAt q

end FileStore

open FileStore

theorem Directory.CreatesFile.addsFile {directory : Path} {id : Text} {bytes : List UInt8}
    {files files' : FileStore} (h : CreatesFile directory id bytes files files') :
    AddsFile directory id bytes files files' := by
  obtain ⟨place, -, hplace, hfree, -⟩ := h.gainsFile
  obtain ⟨hname, made, hmade, hcreate⟩ := h
  have hsame := (gainsNoFile_makeDirectories hmade).sameFiles
  obtain ⟨q, hq, hnone, rfl⟩ := create_eq_ok hcreate
  have hgrows := grows_add made q (.file bytes)
  obtain rfl := locate_child (ne_dots_of_isPlainName hname) hplace (hgrows.locate_eq hq)
  have hcontent (r : FilePlace) :
      (made.add (place ++ [FileName.ofText id]) (.file bytes)).contentAt r =
        if r = place ++ [FileName.ofText id] then some bytes else files.contentAt r := by
    rw [contentAt_add hnone, hsame]
  refine ⟨?_, place, hplace, hfree, hcontent⟩
  exact read_eq_ok.mpr ⟨_, hgrows.locate_eq hq, (hcontent _).trans (if_pos rfl)⟩

structure Delivery where
  directory : Path
  id : Text
  payload : Value

namespace Delivery

variable {d : Delivery} {s s' : FileStore} {bytes : List UInt8}

def path (d : Delivery) : Path := d.directory.child d.id

def HasBytes (d : Delivery) (bytes : List UInt8) : Prop :=
  ∃ content, serialize d.payload = .ok content ∧ Utf8.encode content = .ok bytes

def perform (d : Delivery) (s : FileStore) : Outcome FileStore Unit :=
  Directory.persist d.directory d.id d.payload s

def performAll : List Delivery → FileStore → FileStore
  | [], s => s
  | d :: rest, s => performAll rest (d.perform s).state

theorem performAll_append (first second : List Delivery) (s : FileStore) :
    performAll (first ++ second) s = performAll second (performAll first s) := by
  induction first generalizing s with
  | nil => rfl
  | cons d first ih => exact ih (d.perform s).state

/-- A delivery stopped by an error that carries its name. -/
def IsRefused (d : Delivery) (o : Outcome FileStore Unit) : Prop :=
  ∃ reason cause, o.answer = .error (.undelivered d.id reason cause)

section One

/-- A delivery whose file can be made, but not written further than to a part of its bytes. -/
def BreaksOff (d : Delivery) (s : FileStore) (part : List UInt8) : Prop :=
  Directory.CanStore d.directory d.id s ∧ ∃ b bytes, Directory.break? d.directory d.id s = some b ∧
    d.HasBytes bytes ∧ part = bytes.take b.written

theorem perform_of_canStore (h : Directory.CanStore d.directory d.id s)
    (hwhole : Directory.break? d.directory d.id s = none) (hbytes : d.HasBytes bytes) :
    (d.perform s).answer = .ok () ∧ AddsFile d.directory d.id bytes s (d.perform s).state := by
  obtain ⟨content, hserialize, hencode⟩ := hbytes
  obtain ⟨hanswer, hcreates⟩ := Directory.persist_creates hserialize h hwhole hencode
  exact ⟨hanswer, hcreates.addsFile⟩

theorem BreaksOff.perform {part : List UInt8} (h : d.BreaksOff s part) :
    d.IsRefused (d.perform s) ∧ AddsFile d.directory d.id part s (d.perform s).state := by
  obtain ⟨hstore, b, bytes, hbreak, ⟨content, hserialize, hencode⟩, rfl⟩ := h
  obtain ⟨hanswer, hcreates⟩ := Directory.persist_breaks hserialize hstore hbreak hencode
  exact ⟨⟨_, _, hanswer⟩, hcreates.addsFile⟩

theorem perform_of_not_canStore (h : ¬ Directory.CanStore d.directory d.id s)
    (hbytes : d.HasBytes bytes) :
    (∃ f, (d.perform s).answer = .error f) ∧ SameFiles s (d.perform s).state := by
  obtain ⟨content, hserialize, -⟩ := hbytes
  obtain ⟨f, -, hanswer, hgains⟩ := Directory.persist_of_not_canStore hserialize h
  exact ⟨⟨f, hanswer⟩, hgains.sameFiles⟩

/-- A delivery succeeds if its file can be made and written, and then adds it; otherwise it adds no
file, or breaks off. -/
theorem perform_cases (s : FileStore) (hbytes : d.HasBytes bytes) :
    ((d.perform s).answer = .ok () ↔ Directory.CanStore d.directory d.id s ∧
        Directory.break? d.directory d.id s = none) ∧
      ((d.perform s).answer = .ok () → AddsFile d.directory d.id bytes s (d.perform s).state) ∧
      ∀ f, (d.perform s).answer = .error f →
        SameFiles s (d.perform s).state ∨ ∃ part, d.BreaksOff s part := by
  by_cases h : Directory.CanStore d.directory d.id s
  · cases hbreak : Directory.break? d.directory d.id s with
    | none =>
      obtain ⟨hanswer, hadds⟩ := perform_of_canStore h hbreak hbytes
      exact ⟨iff_of_true hanswer ⟨h, rfl⟩, fun _ => hadds, fun f hf => by simp [hanswer] at hf⟩
    | some b =>
      have hbreaks : d.BreaksOff s (bytes.take b.written) := ⟨h, b, bytes, hbreak, hbytes, rfl⟩
      obtain ⟨reason, cause, hanswer⟩ := hbreaks.perform.1
      exact ⟨by simp [hanswer], by simp [hanswer], fun _ _ => .inr ⟨_, hbreaks⟩⟩
  · obtain ⟨⟨f, hanswer⟩, hsame⟩ := perform_of_not_canStore h hbytes
    have hno : (d.perform s).answer ≠ .ok () := by simp [hanswer]
    exact ⟨iff_of_false hno fun hcan => h hcan.1, fun hok => absurd hok hno,
      fun _ _ => .inl hsame⟩

theorem keepsFiles_perform (s : FileStore) (hbytes : d.HasBytes bytes) :
    KeepsFiles s (d.perform s).state := by
  obtain ⟨content, hserialize, hencode⟩ := hbytes
  by_cases h : Directory.CanStore d.directory d.id s
  · cases hbreak : Directory.break? d.directory d.id s with
    | none => exact (Directory.persist_of_canStore hserialize h hbreak hencode).2.keepsFiles
    | some b => exact (Directory.persist_of_break hserialize h hbreak hencode).2.keepsFiles
  · obtain ⟨f, -, -, hgains⟩ := Directory.persist_of_not_canStore hserialize h
    exact hgains.keepsFiles

theorem perform_of_not_plain (h : Directory.isPlainName d.id = false) (s : FileStore) :
    d.IsRefused (d.perform s) ∧ (d.perform s).state = s := by
  simp only [perform, Directory.persist, Directory.pathFor, h, Bool.false_eq_true, if_false]
  exact ⟨⟨_, _, rfl⟩, rfl⟩

theorem perform_of_taken {old : List UInt8} (h : s.read d.path = .ok old)
    (hbytes : d.HasBytes bytes) : d.IsRefused (d.perform s) ∧ (d.perform s).state = s := by
  cases hname : Directory.isPlainName d.id with
  | false => exact perform_of_not_plain hname s
  | true =>
    obtain ⟨content, hserialize, hencode⟩ := hbytes
    obtain ⟨q, hlocate, hcontent⟩ := read_eq_ok.mp h
    obtain ⟨place, hplace, hdirectory⟩ := exists_locate_of_child hlocate
    have hmade := makeDirectories_of_directory hplace hdirectory
    have hcreate : s.create (d.directory.child d.id) (.file bytes) =
        .error ⟨.exists, d.directory.child d.id⟩ := by
      rw [path] at hlocate
      simp only [create, hlocate, contentAt_eq_some.mp hcontent]
    rw [perform, Directory.persist_eq_deliver hserialize hname hmade]
    simp only [Directory.deliver, Directory.writeNew, hencode, writeNew_of_create_error hcreate]
    exact ⟨⟨_, _, rfl⟩, rfl⟩

end One

section Run

def AllHaveBytes (deliveries : List Delivery) : Prop := ∀ d ∈ deliveries, ∃ bytes, d.HasBytes bytes

variable {deliveries : List Delivery}

theorem AllHaveBytes.of_cons {d : Delivery} {rest : List Delivery} (h : AllHaveBytes (d :: rest)) :
    AllHaveBytes rest :=
  (List.forall_mem_cons.mp h).2

theorem AllHaveBytes.append_left {before after : List Delivery}
    (h : AllHaveBytes (before ++ after)) : AllHaveBytes before :=
  (List.forall_mem_append.mp h).1

theorem AllHaveBytes.append_right {before after : List Delivery}
    (h : AllHaveBytes (before ++ after)) : AllHaveBytes after :=
  (List.forall_mem_append.mp h).2

theorem keepsFiles_performAll (h : AllHaveBytes deliveries) (s : FileStore) :
    KeepsFiles s (performAll deliveries s) := by
  induction deliveries generalizing s with
  | nil => exact .refl s
  | cons d rest ih =>
    obtain ⟨bytes, hbytes⟩ := h d List.mem_cons_self
    exact (keepsFiles_perform s hbytes).trans (ih h.of_cons _)

/-- After a delivery that succeeds, one of that name to that place does not: its file would have to
be new. -/
theorem not_both_delivered {first second : Delivery} {between after : List Delivery}
    (h : AllHaveBytes (first :: between ++ second :: after)) (hid : first.id = second.id)
    (s : FileStore)
    (hplace : (performAll (first :: between ++ second :: after) s).locate first.directory =
      (performAll (first :: between ++ second :: after) s).locate second.directory)
    (hfirst : (first.perform s).answer = .ok ()) :
    (second.perform (performAll (first :: between) s)).answer ≠ .ok () := by
  intro hsecond
  obtain ⟨b, hb⟩ := h first (by simp)
  obtain ⟨b', hb'⟩ := h second (by simp)
  have hbetween : AllHaveBytes between := h.of_cons.append_left
  have hafter : AllHaveBytes after := h.of_cons.append_right.of_cons
  obtain ⟨-, q, hq, -, hcontent⟩ := (perform_cases s hb).2.1 hfirst
  obtain ⟨-, q', hq', hfree, -⟩ := (perform_cases _ hb').2.1 hsecond
  have hkept := keepsFiles_performAll hbetween (first.perform s).state
  have hlater := keepsFiles_perform (performAll (first :: between) s) hb'
  have hlast := keepsFiles_performAll hafter
    (second.perform (performAll (first :: between) s)).state
  -- both places are seen in the last store, and there they are one
  rw [performAll_append, performAll] at hplace
  rw [hlast.locate _ _ hq',
    hlast.locate _ _ (hlater.locate _ _ (hkept.locate _ _ hq))] at hplace
  obtain rfl := Except.ok.inj hplace
  have hthere :
      (performAll (first :: between) s).contentAt (q ++ [FileName.ofText first.id]) = some b :=
    hkept.contentAt _ b ((hcontent _).trans (if_pos rfl))
  rw [hid, contentAt_of_at?_none hfree] at hthere
  cases hthere

/-- Over any deliveries of payloads that have bytes, no file that is there is ever changed or lost.
A delivery succeeds if its file can be made and written. It then adds that one file, under its name
in its directory and with the bytes of its payload, which it keeps; one that fails adds none, unless
its writing breaks off: that adds the file with a part of its bytes, and is refused. A delivery
under a name that a file has, or that is not plain, is refused and changes nothing. So of two
deliveries under one name to one place at most one succeeds. -/
theorem archive_kept (h : AllHaveBytes deliveries) (s : FileStore) :
    (∀ before more after, deliveries = before ++ more ++ after →
      KeepsFiles (performAll before s) (performAll (before ++ more) s)) ∧
    (∀ before d after, deliveries = before ++ d :: after →
      let now := performAll before s
      let call := d.perform now
      (call.answer = .ok () ↔ Directory.CanStore d.directory d.id now ∧
        Directory.break? d.directory d.id now = none) ∧
      (call.answer = .ok () → ∃ bytes, d.HasBytes bytes ∧
        AddsFile d.directory d.id bytes now call.state ∧
        ∀ more rest, after = more ++ rest → (performAll more call.state).read d.path = .ok bytes) ∧
      (∀ f, call.answer = .error f → SameFiles now call.state ∨ ∃ part, d.BreaksOff now part) ∧
      (∀ part, d.BreaksOff now part →
        d.IsRefused call ∧ AddsFile d.directory d.id part now call.state) ∧
      (Directory.isPlainName d.id = false → d.IsRefused call ∧ call.state = now) ∧
      ∀ old, now.read d.path = .ok old → d.IsRefused call ∧ call.state = now) ∧
    ∀ before first between second after,
      deliveries = before ++ (first :: between ++ second :: after) → first.id = second.id →
      (performAll deliveries s).locate first.directory =
        (performAll deliveries s).locate second.directory →
      (first.perform (performAll before s)).answer = .ok () →
      (second.perform (performAll (before ++ first :: between) s)).answer ≠ .ok () := by
  refine ⟨?_, ?_, ?_⟩
  · rintro before more after rfl
    rw [performAll_append]
    exact keepsFiles_performAll h.append_left.append_right _
  · rintro before d after rfl now call
    obtain ⟨bytes, hbytes⟩ := h d (by simp)
    obtain ⟨hmade, hadds, hsame⟩ := perform_cases now hbytes
    refine ⟨hmade, fun hok => ⟨bytes, hbytes, hadds hok, ?_⟩, hsame, fun part => BreaksOff.perform,
      fun hname => ?_, fun old hold => ?_⟩
    · rintro more rest rfl
      have hmore : AllHaveBytes more := h.append_right.of_cons.append_left
      exact (keepsFiles_performAll hmore _).read (hadds hok).1
    · exact perform_of_not_plain hname now
    · exact perform_of_taken hold hbytes
  · rintro before first between second after rfl hid hplace hfirst
    rw [performAll_append] at hplace ⊢
    exact not_both_delivered h.append_right hid _ hplace hfirst

/-- A directory that holds one file, and three deliveries to it: one, another under its name by a
longer path, and one under the name of the file. -/
def shelfWith (breaks : FilePlace → Option WriteBreak) : FileStore :=
  let name := FileName.ofString
  ⟨[([name "out"], .directory), ([name "out", name "old.json"], .file [0x31])], [], breaks⟩

def shelf : FileStore := shelfWith fun _ => none

def minutes : Delivery := ⟨.ofString "/out", .ofString "new.json", .object []⟩

def rival : Delivery := ⟨.ofString "/out/../out", .ofString "new.json", .null⟩

def intruder : Delivery := ⟨.ofString "/out", .ofString "old.json", .null⟩

theorem allHaveBytes_shelf : AllHaveBytes [minutes, rival, intruder] := by
  have hnull (d : Delivery) (h : d.payload = .null) : ∃ bytes, d.HasBytes bytes :=
    ⟨_, Text.ofString "null", by rw [h]; rfl, rfl⟩
  rintro d hd
  simp only [List.mem_cons, List.not_mem_nil, or_false] at hd
  obtain rfl | rfl | rfl := hd
  · exact ⟨_, _, rfl, rfl⟩
  · exact hnull _ rfl
  · exact hnull _ rfl

theorem locate_shelf (breaks : FilePlace → Option WriteBreak) :
    (shelfWith breaks).locate (.ofString "/out") = .ok [.ofString "out"] :=
  (locate_eq_walk (by cbv) (by decide)).trans (by cbv)

theorem locate_new (breaks : FilePlace → Option WriteBreak) :
    (shelfWith breaks).locate minutes.path = .ok [.ofString "out", .ofString "new.json"] :=
  (locate_eq_walk (by cbv) (by decide)).trans (by cbv)

theorem makeDirectories_shelf (breaks : FilePlace → Option WriteBreak) :
    (shelfWith breaks).makeDirectories (.ofString "/out") = (shelfWith breaks, .ok ()) :=
  makeDirectories_of_directory (locate_shelf breaks) (by cbv)

theorem break?_minutes (breaks : FilePlace → Option WriteBreak) :
    Directory.break? minutes.directory minutes.id (shelfWith breaks) =
      breaks [.ofString "out", .ofString "new.json"] :=
  Directory.break?_eq (makeDirectories_shelf breaks) (locate_new breaks)

theorem canStore_minutes (breaks : FilePlace → Option WriteBreak) :
    Directory.CanStore minutes.directory minutes.id (shelfWith breaks) :=
  ⟨by cbv, shelfWith breaks, makeDirectories_shelf breaks, _, locate_new breaks, by cbv⟩

theorem archive_kept_shelf :
    AllHaveBytes [minutes, rival, intruder] ∧
      (minutes.perform shelf).answer = .ok () ∧
      (rival.perform (performAll [minutes] shelf)).answer ≠ .ok () ∧
      intruder.IsRefused (intruder.perform (performAll [minutes, rival] shelf)) := by
  obtain ⟨hkept, hcalls, hboth⟩ := archive_kept allHaveBytes_shelf shelf
  have hfirst := (hcalls [] minutes _ rfl).1.mpr ⟨canStore_minutes _, break?_minutes _⟩
  have hlast : KeepsFiles shelf (performAll [minutes, rival, intruder] shelf) :=
    hkept [] [minutes, rival, intruder] [] rfl
  have hplace (p : Path) (h : shelf.locate p = .ok [.ofString "out"]) :
      (performAll [minutes, rival, intruder] shelf).locate p = .ok [.ofString "out"] :=
    hlast.locate p _ h
  have hintruder : shelf.locate intruder.path = .ok [.ofString "out", .ofString "old.json"] :=
    (locate_eq_walk (by cbv) (by decide)).trans (by cbv)
  have hthere : shelf.read intruder.path = .ok [0x31] := read_eq_ok.mpr ⟨_, hintruder, by cbv⟩
  have hold : (performAll [minutes, rival] shelf).read intruder.path = .ok [0x31] :=
    (hkept [] [minutes, rival] [intruder] rfl).read hthere
  refine ⟨allHaveBytes_shelf, hfirst, ?_, ?_⟩
  · refine hboth [] minutes [] rival [intruder] rfl rfl ?_ hfirst
    have hlonger : shelf.locate rival.directory = .ok [.ofString "out"] :=
      (locate_eq_walk (by cbv) (by decide)).trans (by cbv)
    exact (hplace minutes.directory (locate_shelf _)).trans (hplace rival.directory hlonger).symm
  · exact ((hcalls [minutes, rival] intruder [] rfl).2.2.2.2.2 _ hold).1

end Run

end Delivery

end Proceedings
