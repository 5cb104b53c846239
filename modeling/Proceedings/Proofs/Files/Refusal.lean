import Proceedings.Proofs.Files.Path
import Proceedings.Proofs.Files.Store

/-! # Paths that cannot be asked for

A path with a NUL, or with a surrogate that stands for no byte, is refused before anything is looked
up. No other path is refused for these reasons.
-/

namespace Proceedings

/-- A fault of the path itself: the system was not asked. -/
def FileFault.IsUnasked (f : FileFault) : Prop := f = .embeddedNul ∨ ∃ e, f = .unencodable e

namespace FileStore

variable {s s' : FileStore} {p : Path} {node : Node} {e : FileError} {f : FileFault}

theorem isUnasked_of_unaskable? (h : unaskable? p = some f) : f.IsUnasked := by
  unfold unaskable? at h
  split at h
  · exact .inr ⟨_, (Option.some.inj h).symm⟩
  · split at h
    · exact .inl (Option.some.inj h).symm
    · cases h

theorem not_isUnasked_walk {place : FilePlace} {names : List FileName}
    (h : s.walk place names = .error f) : ¬ f.IsUnasked := by
  induction names generalizing place with
  | nil => cases h
  | cons name names ih =>
    rw [walk] at h
    split at h
    · obtain rfl := Except.error.inj h
      simp [FileFault.IsUnasked]
    · obtain rfl := Except.error.inj h
      simp [FileFault.IsUnasked]
    · split at h
      · obtain rfl := Except.error.inj h
        simp [FileFault.IsUnasked]
      · split at h
        · exact ih h
        · exact ih h

theorem locate_of_unaskable? (h : unaskable? p = some f) : s.locate p = .error f := by
  rw [locate, h]

theorem unaskable?_of_locate (h : s.locate p = .error f) (hf : f.IsUnasked) :
    unaskable? p = some f := by
  unfold locate at h
  split at h
  · next g hg => rw [hg, Except.error.inj h]
  · split at h
    · obtain rfl := Except.error.inj h
      simp [FileFault.IsUnasked] at hf
    · exact absurd hf (not_isUnasked_walk h)

theorem create_of_unaskable? (h : unaskable? p = some f) (node : Node) :
    s.create p node = .error ⟨f, p⟩ := by
  simp only [create, locate_of_unaskable? h]

theorem unaskable?_of_missing {p' : Path} (h : s.create p node = .error ⟨.missing, p'⟩) :
    unaskable? p = none := by
  cases hask : unaskable? p with
  | none => rfl
  | some f =>
    have herror := Except.error.inj ((create_of_unaskable? hask node).symm.trans h)
    obtain rfl : f = .missing := congrArg FileError.fault herror
    simpa [FileFault.IsUnasked] using isUnasked_of_unaskable? hask

theorem unaskable?_of_create (hcreate : s.create p node = .error e) (he : e.fault.IsUnasked) :
    unaskable? p = some e.fault ∧ e.path = p := by
  unfold create at hcreate
  split at hcreate
  · next f hlocate =>
    obtain rfl := Except.error.inj hcreate
    exact ⟨unaskable?_of_locate hlocate he, rfl⟩
  · split at hcreate
    · obtain rfl := Except.error.inj hcreate
      simp [FileFault.IsUnasked] at he
    · cases hcreate

theorem unaskable?_of_settle (hsettle : settleDirectory p s = (s', .error e))
    (he : e.fault.IsUnasked) : unaskable? p = some e.fault ∧ e.path = p := by
  unfold settleDirectory at hsettle
  split at hsettle
  · cases hsettle
  · next e' hcreate =>
    obtain ⟨-, herror⟩ := Prod.mk.inj hsettle
    split at herror
    · cases herror
    · obtain rfl := Except.error.inj herror
      exact unaskable?_of_create hcreate he

theorem makeDirectories_of_unaskable? (h : unaskable? p = some f) :
    s.makeDirectories p = (s, .error ⟨f, p⟩) := by
  have hcreate := create_of_unaskable? (s := s) h .directory
  have hmissing : ∀ p', s.create p .directory ≠ .error ⟨.missing, p'⟩ := by
    intro p' hp'
    rw [unaskable?_of_missing hp'] at h
    cases h
  have hdirectory : s.isDirectory p = false := by
    simp only [isDirectory, find, locate_of_unaskable? h]
  rw [makeDirectories, makeDirectoriesUpTo_of_not_missing (.inr hmissing), settleDirectory, hcreate,
    hdirectory]
  rfl

/-- A directory that cannot be made because the system was not asked has itself a path that it
cannot be asked for. -/
theorem unaskable?_of_makeDirectoriesUpTo {levels : Nat}
    (hmade : makeDirectoriesUpTo levels p s = (s', .error e)) (he : e.fault.IsUnasked) :
    unaskable? p = some e.fault ∧ e.path = p := by
  induction levels generalizing p s' with
  | zero =>
    rw [makeDirectoriesUpTo_of_not_missing (.inl rfl)] at hmade
    exact unaskable?_of_settle hmade he
  | succ levels ih =>
    by_cases hmissing : ∃ p', s.create p .directory = .error ⟨.missing, p'⟩
    · obtain ⟨p', hmissing⟩ := hmissing
      rw [makeDirectoriesUpTo_of_missing hmissing] at hmade
      split at hmade
      · exact unaskable?_of_settle hmade he
      · next hparent =>
        obtain ⟨-, herror⟩ := Prod.mk.inj hmade
        obtain rfl := Except.error.inj herror
        have hask := unaskable?_parent (unaskable?_of_missing hmissing)
        rw [(ih hparent).1] at hask
        cases hask
    · rw [makeDirectoriesUpTo_of_not_missing (.inr fun p' hp' => hmissing ⟨p', hp'⟩)] at hmade
      exact unaskable?_of_settle hmade he

end FileStore

end Proceedings
