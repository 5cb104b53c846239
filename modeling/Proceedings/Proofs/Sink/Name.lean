import Proceedings.Artifact
import Proceedings.Proofs.Sink.Directory

/-! # Names in a directory

A name stands for a file in a directory if it is not empty, has no slash and is none of the dots.
The check of a sink says so: it compares the name with the last part of the path that the name
spells. What it lets through leads to a place of that name in the directory itself, and every name
that is made for an artifact passes it.
-/

namespace Proceedings

section Parts

variable {α : Type} {isMark : α → Bool} {l part : List α}

theorem partsBetween_of_no_mark (h : ∀ c ∈ l, isMark c = false) : partsBetween isMark l = [l] := by
  induction l with
  | nil => rfl
  | cons c l ih =>
    obtain ⟨hc, hl⟩ := List.forall_mem_cons.mp h
    rw [partsBetween, hc, ih hl]
    rfl

theorem no_mark_of_mem_partsBetween (h : part ∈ partsBetween isMark l) :
    ∀ c ∈ part, isMark c = false := by
  induction l generalizing part with
  | nil =>
    obtain rfl := List.mem_singleton.mp h
    exact List.forall_mem_nil _
  | cons c l ih =>
    rw [partsBetween] at h
    split at h
    · rcases List.mem_cons.mp h with rfl | h
      · exact List.forall_mem_nil _
      · exact ih h
    · next hc =>
      rw [Bool.not_eq_true] at hc
      split at h
      · obtain rfl := List.mem_singleton.mp h
        simpa using hc
      · next first parts hparts =>
        rw [hparts] at ih
        rcases List.mem_cons.mp h with rfl | h
        · exact List.forall_mem_cons.mpr ⟨hc, ih List.mem_cons_self⟩
        · exact ih (List.mem_cons_of_mem _ h)

end Parts

namespace Path

theorem rootOf_of_no_slash {t : Text} (h : slash ∉ t) : rootOf t = [] := by
  unfold rootOf
  split <;> simp_all [slash]

theorem ofText_of_no_slash {t : Text} (hslash : slash ∉ t) (hne : t ≠ [])
    (hdot : t ≠ .ofString ".") : ofText t = ⟨[], [t]⟩ := by
  have hparts : partsBetween (· == slash) t = [t] := by
    refine partsBetween_of_no_mark fun c hc => ?_
    rw [beq_eq_false_iff_ne]
    rintro rfl
    exact hslash hc
  have hnamed : isNamed t = true := by
    have hdot' : t ≠ [.scalar '.'] := hdot
    simp [isNamed, hne, hdot']
  simp [ofText, rootOf_of_no_slash hslash, hparts, hnamed]

theorem no_slash_name_ofText (t : Text) : slash ∉ (ofText t).name := by
  rw [name]
  cases hlast : (ofText t).parts.getLast? with
  | none => simp
  | some last =>
    have hpart := List.mem_of_getLast? hlast
    intro hslash
    have hno := no_mark_of_mem_partsBetween (List.mem_filter.mp hpart).1 _ hslash
    simp at hno

/-- The path that another one leads to from a path: from the top, if it starts there. -/
def join (p q : Path) : Path :=
  if q.root.isEmpty then ⟨p.root, p.parts ++ q.parts⟩ else q

@[simp] theorem name_child (p : Path) (name : Text) : (p.child name).name = name := by
  simp [Path.name, child]

@[simp] theorem parent_child (p : Path) (name : Text) : (p.child name).parent = p := by
  simp [parent, child]

end Path

structure IsFileName (id : Text) : Prop where
  ne_empty : id ≠ []
  no_slash : Path.slash ∉ id
  ne_dot : id ≠ .ofString "."
  ne_dots : id ≠ .ofString ".."

namespace IsFileName

variable {id : Text}

theorem join_ofText (h : IsFileName id) (directory : Path) :
    directory.join (Path.ofText id) = directory.child id := by
  rw [Path.ofText_of_no_slash h.no_slash h.ne_empty h.ne_dot]
  rfl

end IsFileName

namespace Directory

variable {directory p : Path} {id : Text}

theorem isPlainName_iff : isPlainName id = true ↔ IsFileName id := by
  simp only [isPlainName, Bool.and_eq_true, Bool.not_eq_true', beq_iff_eq, bne_iff_ne]
  constructor
  · rintro ⟨⟨⟨hne, hname⟩, hdot⟩, hdots⟩
    have hslash := Path.no_slash_name_ofText id
    rw [hname] at hslash
    exact ⟨by simpa using hne, hslash, hdot, hdots⟩
  · intro h
    have hpath := Path.ofText_of_no_slash h.no_slash h.ne_empty h.ne_dot
    exact ⟨⟨⟨by simpa using h.ne_empty, by rw [hpath]; rfl⟩, h.ne_dot⟩, h.ne_dots⟩

theorem pathFor_of_isFileName (h : IsFileName id) (directory : Path) :
    pathFor directory id = .ok (directory.child id) := by
  rw [pathFor, if_pos (isPlainName_iff.mpr h)]

theorem pathFor_of_not_isFileName (h : ¬ IsFileName id) (directory : Path) :
    pathFor directory id =
      .error (.undelivered id (.ofString "artifact id is not a plain file name") none) := by
  rw [pathFor, if_neg (mt isPlainName_iff.mp h)]

theorem pathFor_ok_iff : pathFor directory id = .ok p ↔ IsFileName id ∧ p = directory.child id := by
  by_cases h : IsFileName id
  · simp [pathFor_of_isFileName h, h, eq_comm]
  · simp [pathFor_of_not_isFileName h, h]

end Directory

section Made

theorem no_slash_fixedDigits (width n : Nat) : '/' ∉ fixedDigits width n := by
  have hdigit : ∀ k < 10, '/' ≠ Char.ofNat (0x30 + k) := by decide
  induction width generalizing n with
  | zero => exact List.not_mem_nil
  | succ width ih => simp [fixedDigits, ih, hdigit _ (Nat.mod_lt n (by decide))]

theorem no_slash_hexDigits (width n : Nat) : '/' ∉ hexDigits width n := by
  have hdigit : ∀ k < 16, '/' ≠ hexDigit k := by decide
  induction width generalizing n with
  | zero => exact List.not_mem_nil
  | succ width ih => simp [hexDigits, ih, hdigit _ (Nat.mod_lt n (by decide))]

theorem no_slash_toDigits (n : Nat) : '/' ∉ Nat.toDigits 10 n := by
  intro h
  have hdigit := Nat.isDigit_of_mem_toDigits (by decide) (by decide) h
  revert hdigit
  decide

theorem Uuid.no_slash_name (u : Uuid) : '/' ∉ u.name.toList := by
  have hno := no_slash_hexDigits 32 u.number.val
  have htake (n : Nat) {l : List Char} (h : '/' ∉ l) : '/' ∉ l.take n :=
    fun hmem => h (List.mem_of_mem_take hmem)
  have hdrop (n : Nat) : '/' ∉ (hexDigits 32 u.number.val).drop n :=
    fun hmem => hno (List.mem_of_mem_drop hmem)
  simp [name, htake _ hno, htake _ (hdrop _), hdrop]

theorem Artifact.isFileName_name (d : DateTime) (u : Uuid) {suffix : String}
    (h : '/' ∉ suffix.toList) : IsFileName (.ofString (name d u suffix)) := by
  have hlow : '_' ∈ (name d u suffix).toList := by simp [name, stem]
  have hslash : '/' ∉ (name d u suffix).toList := by
    simp [name, stem, timeChars, no_slash_fixedDigits, no_slash_toDigits, u.no_slash_name, h]
  have hmark : CodePoint.scalar '_' ∈ Text.ofString (name d u suffix) :=
    List.mem_map_of_mem hlow
  refine ⟨List.ne_nil_of_mem hmark, ?_, ?_, ?_⟩
  · intro hmem
    obtain ⟨c, hc, hslash'⟩ := List.mem_map.mp hmem
    obtain rfl : c = '/' := CodePoint.scalar.inj hslash'
    exact hslash hc
  all_goals
    intro heq
    rw [heq] at hmark
    revert hmark
    decide

end Made

namespace Directory

/-- A name has a path in a directory if and only if it can stand for a file there. The path is the
one that the name leads to from the directory, whose direct child it is under that very name; no
other name has it, and what it leads to stands in the directory. Any other name is refused, and no
name made for an artifact is, unless its suffix has a slash. -/
theorem pathFor_inside (directory : Path) (id : Text) :
    ((∃ p, pathFor directory id = .ok p) ↔ IsFileName id) ∧
      (∀ p, pathFor directory id = .ok p →
        p = directory.join (Path.ofText id) ∧ p.parent = directory ∧ p.name = id ∧
          (∀ other, pathFor directory other = .ok p → other = id) ∧
          ∀ (files : FileStore) place q, files.locate directory = .ok place →
            files.locate p = .ok q → q = place ++ [FileName.ofText id]) ∧
      (¬ IsFileName id → ∃ reason, pathFor directory id = .error (.undelivered id reason none)) ∧
      ∀ d u suffix, '/' ∉ suffix.toList →
        ∃ p, pathFor directory (.ofString (Artifact.name d u suffix)) = .ok p := by
  refine ⟨?_, ?_, ?_, ?_⟩
  · simp only [pathFor_ok_iff, exists_and_left, exists_eq, and_true]
  · intro p hp
    obtain ⟨hname, rfl⟩ := pathFor_ok_iff.mp hp
    refine ⟨(hname.join_ofText directory).symm, Path.parent_child _ _, Path.name_child _ _, ?_, ?_⟩
    · intro other hother
      have hchild := congrArg Path.name (pathFor_ok_iff.mp hother).2
      rw [Path.name_child, Path.name_child] at hchild
      exact hchild.symm
    · intro files place q hplace hq
      exact FileStore.locate_child hname.ne_dots hplace hq
  · intro hname
    exact ⟨_, pathFor_of_not_isFileName hname directory⟩
  · intro d u suffix hsuffix
    exact ⟨_, pathFor_of_isFileName (Artifact.isFileName_name d u hsuffix) directory⟩

/-- Three dots are a name like any other, and so is half of a surrogate pair. A name that spells the
same path as another, with a slash behind it, is refused. -/
theorem pathFor_inside_drawer :
    let drawer := Path.ofString "/drawer"
    Path.ofString "notes.json/" = Path.ofString "notes.json" ∧
      (∀ id ∈ [Text.ofString "...", [.surrogate 0]],
        ∃ p, pathFor drawer id = .ok p ∧ p.parent = drawer ∧ p.name = id) ∧
      (∃ reason, pathFor drawer (.ofString "notes.json/") =
        .error (.undelivered (.ofString "notes.json/") reason none)) ∧
      ∃ p, pathFor drawer (.ofString (Artifact.name ⟨0, none, none⟩ ⟨0⟩ ".json")) = .ok p := by
  intro drawer
  obtain ⟨-, -, hrefused, hmade⟩ := pathFor_inside drawer (.ofString "notes.json/")
  refine ⟨by decide, ?_, ?_, ?_⟩
  · intro id hid
    obtain ⟨hiff, hpath, -, -⟩ := pathFor_inside drawer id
    have hname : IsFileName id := by
      simp only [List.mem_cons, List.not_mem_nil, or_false] at hid
      rcases hid with rfl | rfl <;> exact ⟨by decide, by decide, by decide, by decide⟩
    obtain ⟨p, hp⟩ := hiff.mpr hname
    exact ⟨p, hp, (hpath p hp).2.1, (hpath p hp).2.2.1⟩
  · exact hrefused fun h => h.no_slash (by decide)
  · exact hmade _ _ _ (by decide)

end Directory

end Proceedings
