import Proceedings.Proofs.Files.Refusal
import Proceedings.Proofs.Sink.Archive
import Proceedings.Proofs.Sink.Name

/-! # Deliveries that fail

A delivery that fails should say so under the name of its artifact, and add no file. It does, but
for two kinds of failure. What is no error of the file system is let through as it is: a payload
that has no text, a path that cannot be asked for, and a text that has no bytes. And a file that is
there already stays: an empty one if the text has no bytes, and a part of one if the writing breaks
off.
-/

namespace Proceedings

open FileStore

theorem FileStore.AddsFile.not_sameFiles {directory : Path} {name : Text} {bytes : List UInt8}
    {s s' : FileStore} (h : AddsFile directory name bytes s s') : ¬ SameFiles s s' := by
  intro hsame
  obtain ⟨-, place, -, hfree, hcontent⟩ := h
  have hthere : s'.contentAt (place ++ [FileName.ofText name]) = some bytes :=
    (hcontent _).trans (if_pos rfl)
  rw [hsame, contentAt_of_at?_none hfree] at hthere
  cases hthere

namespace Directory

variable {payload : Value} {f : Failure} {e : FileError}

theorem exists_unwritable_of_serialize (h : serialize payload = .error f) :
    ∃ e, f = .unwritable e := by
  obtain ⟨e, -, rfl⟩ := mapError_eq_error.mp h
  exact ⟨e, rfl⟩

theorem undelivered_eq (id reason : Text) (h : ¬ e.fault.IsUnasked) :
    undelivered id reason e = .undelivered id reason (some (.file e)) := by
  unfold undelivered
  split
  · next hnul => exact absurd (.inl hnul) h
  · next hpoint => exact absurd (.inr ⟨_, hpoint⟩) h
  · rfl

theorem undelivered_of_isUnasked (id reason : Text) (h : e.fault.IsUnasked) :
    undelivered id reason e = .file e := by
  unfold undelivered
  rcases h with hnul | ⟨point, hpoint⟩
  · rw [hnul]
  · rw [hpoint]

end Directory

namespace Delivery

open Directory

variable {d : Delivery} {s made : FileStore} {content : Text} {f : Failure} {part : List UInt8}

/-- A delivery that is stopped by an error that carries its name, and adds no file. -/
structure FailsCleanly (d : Delivery) (s : FileStore) : Prop where
  isRefused : d.IsRefused (d.perform s)
  sameFiles : SameFiles s (d.perform s).state

/-- The failures that a delivery lets through as they are. -/
inductive LetsThrough (d : Delivery) (s : FileStore) : Failure → Prop
  /-- The payload has no text. -/
  | payload {f : Failure} : IsFileName d.id → serialize d.payload = .error f → LetsThrough d s f
  /-- The directory cannot be asked for. -/
  | directory {content : Text} {f : FileFault} : IsFileName d.id →
      serialize d.payload = .ok content → unaskable? d.directory = some f →
      LetsThrough d s (.file ⟨f, d.directory⟩)
  /-- The directory can be made, but the file cannot be asked for. -/
  | name {content : Text} {made : FileStore} {f : FileFault} : IsFileName d.id →
      serialize d.payload = .ok content → s.makeDirectories d.directory = (made, .ok ()) →
      unaskable? d.path = some f → LetsThrough d s (.file ⟨f, d.path⟩)
  /-- The file can be made, but the text has no bytes. -/
  | text {content : Text} {e : Utf8.EncodeError} : CanStore d.directory d.id s →
      serialize d.payload = .ok content → Utf8.encode content = .error e →
      LetsThrough d s (.unencodable e)

namespace LetsThrough

/-- But for a text that has no bytes, what is let through comes before there is a file. -/
theorem exists_perform_eq (h : d.LetsThrough s f) (hf : ∀ e, f ≠ .unencodable e) :
    ∃ made, GainsNoFile s made ∧ d.perform s = .failed made f := by
  rw [perform]
  cases h with
  | payload hname hserialize =>
    exact ⟨s, .refl s, persist_of_unwritable (isPlainName_iff.mpr hname) hserialize⟩
  | directory hname hserialize hask =>
    have hmade := makeDirectories_of_unaskable? (s := s) hask
    have hpersist := persist_of_not_made hserialize (isPlainName_iff.mpr hname) hmade
    rw [undelivered_of_isUnasked _ _ (isUnasked_of_unaskable? hask)] at hpersist
    exact ⟨s, .refl s, hpersist⟩
  | @name _ made _ hname hserialize hmade hask =>
    have hcreate := create_of_unaskable? (s := made) hask .directory
    have hpersist := persist_of_not_created hserialize (isPlainName_iff.mpr hname) hmade hcreate
    rw [undelivered_of_isUnasked _ _ (isUnasked_of_unaskable? hask)] at hpersist
    exact ⟨made, gainsNoFile_makeDirectories hmade, hpersist⟩
  | text => exact absurd rfl (hf _)

theorem perform_unencodable {e : Utf8.EncodeError} (h : d.LetsThrough s (.unencodable e)) :
    (d.perform s).answer = .error (.unencodable e) ∧
      AddsFile d.directory d.id [] s (d.perform s).state := by
  cases h with
  | payload _ hserialize => exact absurd (exists_unwritable_of_serialize hserialize) (by simp)
  | text hstore hserialize hencode =>
    obtain ⟨hanswer, hcreates⟩ := persist_creates_empty hserialize hstore hencode
    exact ⟨hanswer, hcreates.addsFile⟩

theorem answer (h : d.LetsThrough s f) : (d.perform s).answer = .error f := by
  by_cases hf : ∃ e, f = .unencodable e
  · obtain ⟨e, rfl⟩ := hf
    exact h.perform_unencodable.1
  · obtain ⟨made, -, hperform⟩ := h.exists_perform_eq (not_exists.mp hf)
    rw [hperform, Outcome.failed]

theorem sameFiles (h : d.LetsThrough s f) (hf : ∀ e, f ≠ .unencodable e) :
    SameFiles s (d.perform s).state := by
  obtain ⟨made, hgains, hperform⟩ := h.exists_perform_eq hf
  rw [hperform]
  exact hgains.sameFiles

theorem ne_undelivered (h : d.LetsThrough s f) (id reason : Text) (cause : Option Failure) :
    f ≠ .undelivered id reason cause := by
  rintro rfl
  cases h with
  | payload _ hserialize => exact absurd (exists_unwritable_of_serialize hserialize) (by simp)

theorem not_isRefused (h : d.LetsThrough s f) : ¬ d.IsRefused (d.perform s) := by
  rintro ⟨reason, cause, hrefused⟩
  exact h.ne_undelivered _ _ _ (Except.error.inj (h.answer.symm.trans hrefused))

end LetsThrough

theorem failsCleanly_of_undelivered {reason : Text} {e : FileError}
    (hfault : ¬ e.fault.IsUnasked) (hgains : GainsNoFile s made)
    (h : d.perform s = .failed made (undelivered d.id reason e)) : d.FailsCleanly s := by
  constructor
  · refine ⟨reason, some (.file e), ?_⟩
    rw [h, undelivered_eq d.id reason hfault]
    rfl
  · rw [h]
    exact hgains.sameFiles

theorem fails_of_not_canStore (hname : IsFileName d.id)
    (hserialize : serialize d.payload = .ok content) (h : ¬ CanStore d.directory d.id s) :
    d.FailsCleanly s ∨ ∃ f, d.LetsThrough s f := by
  have hplain : isPlainName d.id = true := isPlainName_iff.mpr hname
  cases hmade : s.makeDirectories d.directory with
  | mk made answer =>
    have hgains := gainsNoFile_makeDirectories hmade
    cases answer with
    | error e =>
      by_cases hfault : e.fault.IsUnasked
      · have hask := (unaskable?_of_makeDirectoriesUpTo hmade hfault).1
        exact .inr ⟨_, .directory hname hserialize hask⟩
      · exact .inl (failsCleanly_of_undelivered hfault hgains
          (persist_of_not_made hserialize hplain hmade))
    | ok =>
      cases hcreate : made.create d.path .directory with
      | ok stored =>
        obtain ⟨q, hq, hfree, -⟩ := create_eq_ok hcreate
        exact absurd ⟨hplain, made, hmade, q, hq, hfree⟩ h
      | error e =>
        by_cases hfault : e.fault.IsUnasked
        · have hask := (unaskable?_of_create hcreate hfault).1
          exact .inr ⟨_, .name hname hserialize hmade hask⟩
        · exact .inl (failsCleanly_of_undelivered hfault hgains
            (persist_of_not_created hserialize hplain hmade hcreate))

theorem BreaksOff.not_failsCleanly (h : d.BreaksOff s part) : ¬ d.FailsCleanly s :=
  fun hclean => h.perform.2.not_sameFiles hclean.sameFiles

/-- A delivery succeeds, fails cleanly, lets a failure through or breaks off. -/
theorem perform_end (d : Delivery) (s : FileStore) :
    (CanStore d.directory d.id s ∧ break? d.directory d.id s = none ∧ ∃ bytes, d.HasBytes bytes) ∨
      d.FailsCleanly s ∨ (∃ f, d.LetsThrough s f) ∨ ∃ part, d.BreaksOff s part := by
  by_cases hname : IsFileName d.id
  · cases hserialize : serialize d.payload with
    | error f => exact .inr (.inr (.inl ⟨f, .payload hname hserialize⟩))
    | ok content =>
      by_cases hstore : CanStore d.directory d.id s
      · cases hencode : Utf8.encode content with
        | error e => exact .inr (.inr (.inl ⟨_, .text hstore hserialize hencode⟩))
        | ok bytes =>
          have hbytes : d.HasBytes bytes := ⟨content, hserialize, hencode⟩
          cases hbreak : break? d.directory d.id s with
          | none => exact .inl ⟨hstore, rfl, bytes, hbytes⟩
          | some b => exact .inr (.inr (.inr ⟨_, hstore, b, bytes, hbreak, hbytes, rfl⟩))
      · rcases fails_of_not_canStore hname hserialize hstore with hclean | hlets
        · exact .inr (.inl hclean)
        · exact .inr (.inr (.inl hlets))
  · rw [← isPlainName_iff, Bool.not_eq_true] at hname
    obtain ⟨hrefused, hstate⟩ := perform_of_not_plain hname s
    exact .inr (.inl ⟨hrefused, fun q => by rw [hstate]⟩)

/-- A delivery succeeds if its payload has bytes and its file can be made and written. One that
fails does so cleanly if and only if its failure is none that it lets through as it is, and its
writing does not break off: it then carries the name of the artifact, and every file is as it was.
What it can let through it does let through, and adds no file but for a text that has no bytes,
where it leaves an empty file under the name. If its writing breaks off, the failure carries the
name of the artifact, but the file stays, with a part of its bytes. -/
theorem failsCleanly_iff (d : Delivery) (s : FileStore) :
    ((d.perform s).answer = .ok () ↔ CanStore d.directory d.id s ∧
        break? d.directory d.id s = none ∧ ∃ bytes, d.HasBytes bytes) ∧
      (∀ f, (d.perform s).answer = .error f →
        (d.FailsCleanly s ↔ ¬ d.LetsThrough s f ∧ ∀ part, ¬ d.BreaksOff s part)) ∧
      (∀ f, d.LetsThrough s f → (d.perform s).answer = .error f ∧
        ((∀ e, f ≠ .unencodable e) → SameFiles s (d.perform s).state) ∧
        ∀ e, f = .unencodable e → AddsFile d.directory d.id [] s (d.perform s).state) ∧
      ∀ part, d.BreaksOff s part → d.IsRefused (d.perform s) ∧
        AddsFile d.directory d.id part s (d.perform s).state := by
  have hok : CanStore d.directory d.id s ∧ break? d.directory d.id s = none ∧
      (∃ bytes, d.HasBytes bytes) → (d.perform s).answer = .ok () := by
    rintro ⟨hstore, hwhole, bytes, hbytes⟩
    exact (perform_of_canStore hstore hwhole hbytes).1
  refine ⟨⟨fun hanswer => ?_, hok⟩, fun f hanswer => ?_, fun f hf => ?_,
    fun part => BreaksOff.perform⟩
  · obtain hstored | hclean | ⟨f, hf⟩ | ⟨part, hpart⟩ := perform_end d s
    · exact hstored
    · obtain ⟨reason, cause, hrefused⟩ := hclean.isRefused
      simp [hrefused] at hanswer
    · simp [hf.answer] at hanswer
    · obtain ⟨reason, cause, hrefused⟩ := hpart.perform.1
      simp [hrefused] at hanswer
  · constructor
    · intro hclean
      exact ⟨fun hf => hf.not_isRefused hclean.isRefused, fun part h => h.not_failsCleanly hclean⟩
    · rintro ⟨hlets, hbreaks⟩
      obtain hstored | hclean | ⟨g, hg⟩ | ⟨part, hpart⟩ := perform_end d s
      · simp [hok hstored] at hanswer
      · exact hclean
      · obtain rfl := Except.error.inj (hg.answer.symm.trans hanswer)
        exact absurd hg hlets
      · exact absurd hpart (hbreaks part)
  · refine ⟨hf.answer, hf.sameFiles, ?_⟩
    rintro e rfl
    exact hf.perform_unencodable.2

def garbled : Delivery :=
  { minutes with
    payload := .object [(Text.ofString "room_name", .text [.surrogate ⟨0, by decide⟩])] }

def unnamable : Delivery := ⟨.ofString "/out", [.surrogate 0], .null⟩

def fullShelf : FileStore := shelfWith fun _ => some ⟨1, .noSpace⟩

theorem letsThrough_garbled : ∃ e, garbled.LetsThrough shelf (.unencodable e) :=
  ⟨_, .text (canStore_minutes _) rfl rfl⟩

theorem letsThrough_unnamable : ∃ f, unnamable.LetsThrough shelf (.file ⟨f, unnamable.path⟩) := by
  have hname : IsFileName unnamable.id := ⟨by decide, by decide, by decide, by decide⟩
  exact ⟨_, .name hname rfl (makeDirectories_shelf _) rfl⟩

/-- Minutes that have no bytes are not delivered under an error that says so, and leave a file. -/
theorem garbled_not_refused :
    (∃ f, (garbled.perform shelf).answer = .error f) ∧
      ¬ garbled.IsRefused (garbled.perform shelf) ∧
      ¬ SameFiles shelf (garbled.perform shelf).state := by
  obtain ⟨e, he⟩ := letsThrough_garbled
  exact ⟨⟨_, he.answer⟩, he.not_isRefused, he.perform_unencodable.2.not_sameFiles⟩

theorem breaksOff_minutes : minutes.BreaksOff fullShelf [0x7B] :=
  ⟨canStore_minutes _, _, [0x7B, 0x7D], break?_minutes _, ⟨_, rfl, rfl⟩, rfl⟩

theorem failsCleanly_iff_shelf :
    intruder.FailsCleanly shelf ∧
      (¬ unnamable.FailsCleanly shelf ∧ SameFiles shelf (unnamable.perform shelf).state) ∧
      (¬ garbled.FailsCleanly shelf ∧
        AddsFile garbled.directory garbled.id [] shelf (garbled.perform shelf).state) ∧
      AddsFile minutes.directory minutes.id [0x7B] fullShelf
        (minutes.perform fullShelf).state := by
  have hintruder : shelf.locate intruder.path = .ok [.ofString "out", .ofString "old.json"] :=
    (locate_eq_walk (by cbv) (by decide)).trans (by cbv)
  have hthere : shelf.read intruder.path = .ok [0x31] := read_eq_ok.mpr ⟨_, hintruder, by cbv⟩
  obtain ⟨bytes, hbytes⟩ := allHaveBytes_shelf intruder (by simp)
  obtain ⟨⟨reason, cause, hrefused⟩, hstate⟩ := perform_of_taken hthere hbytes
  obtain ⟨-, hclean, -, -⟩ := failsCleanly_iff intruder shelf
  obtain ⟨-, hunnamable, hlets, -⟩ := failsCleanly_iff unnamable shelf
  obtain ⟨-, hgarbled, hleaves, -⟩ := failsCleanly_iff garbled shelf
  obtain ⟨-, -, -, hbreaks⟩ := failsCleanly_iff minutes fullShelf
  obtain ⟨f, hf⟩ := letsThrough_unnamable
  obtain ⟨hasked, hsame, -⟩ := hlets _ hf
  obtain ⟨e, he⟩ := letsThrough_garbled
  obtain ⟨herror, -, hadds⟩ := hleaves _ he
  refine ⟨?_, ⟨?_, hsame (by simp)⟩, ⟨?_, hadds e rfl⟩, (hbreaks _ breaksOff_minutes).2⟩
  · refine (hclean _ hrefused).mpr ⟨fun h => h.ne_undelivered _ _ _ rfl, fun part hpart => ?_⟩
    exact hpart.perform.2.not_sameFiles fun q => by rw [hstate]
  · exact fun hfails => ((hunnamable _ hasked).mp hfails).1 hf
  · exact fun hfails => ((hgarbled _ herror).mp hfails).1 he

end Delivery

end Proceedings
