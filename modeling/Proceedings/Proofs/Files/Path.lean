import Mathlib
import Proceedings.Files.Store

/-! # Texts of paths

The text of a path goes on in the texts of the paths behind it. So the system can be asked for every
path that leads to one that it can be asked for.
-/

namespace Proceedings

namespace FileName

variable {t u : Text}

@[simp] theorem ofText_append (t u : Text) : ofText (t ++ u) = ofText t ++ ofText u :=
  List.flatMap_append

theorem fault?_eq_none_iff : fault? t = none ↔ ∀ p ∈ t, hasBytes p = true := by
  have hsplit : t.takeWhile hasBytes ++ t.dropWhile hasBytes = t := List.takeWhile_append_dropWhile
  have hrest : t.drop (t.takeWhile hasBytes).length = t.dropWhile hasBytes :=
    (congrArg (List.drop _) hsplit.symm).trans List.drop_left
  unfold fault?
  dsimp only
  rw [hrest, ← List.dropWhile_eq_nil_iff]
  split <;> simp_all

theorem fault?_append_eq_none_iff :
    fault? (t ++ u) = none ↔ fault? t = none ∧ fault? u = none := by
  simp only [fault?_eq_none_iff, List.forall_mem_append]

theorem utf8EncodeChar_ascii {c : Char} {b : UInt8} {rest : List UInt8} (hb : b.toNat < 0x80)
    (h : String.utf8EncodeChar c = b :: rest) : c.toNat = b.toNat ∧ rest = [] := by
  have hvalue : c.toNat = c.val.toNat := rfl
  unfold String.utf8EncodeChar at h
  dsimp only at h
  split at h
  · obtain ⟨rfl, rfl⟩ := List.cons.inj h
    refine ⟨?_, rfl⟩
    rw [UInt8.toNat_ofNat']
    omega
  -- the other first bytes are no ASCII
  · next h' =>
    repeat' split at h
    all_goals
      obtain ⟨rfl, -⟩ := List.cons.inj h
      rw [UInt8.toNat_ofNat'] at hb
      omega

theorem exists_bytes?_of_hasBytes {p : CodePoint} (h : hasBytes p = true) :
    ∃ b rest, bytes? p = some (b :: rest) ∧
      (b.toNat < 0x80 → p = .scalar (Char.ofNat b.toNat) ∧ rest = []) := by
  cases p with
  | scalar c =>
    obtain ⟨b, rest, hbytes⟩ := List.exists_cons_of_ne_nil (String.utf8EncodeChar_ne_nil (c := c))
    refine ⟨b, rest, congrArg some hbytes, fun hb => ?_⟩
    obtain ⟨hc, hrest⟩ := utf8EncodeChar_ascii hb hbytes
    rw [← hc, Char.ofNat_toNat]
    exact ⟨rfl, hrest⟩
  | surrogate u =>
    obtain ⟨bytes, hbytes⟩ := Option.isSome_iff_exists.mp h
    obtain ⟨b, hb, rfl⟩ := Option.map_eq_some_iff.mp hbytes
    refine ⟨b, [], hbytes, fun hlow => ?_⟩
    unfold escapedByte? at hb
    split at hb
    · obtain rfl := Option.some.inj hb
      simp at hlow
      omega
    · cases hb

theorem eq_of_ofText_ascii {l : FileName} (h : fault? t = none) (hl : ∀ b ∈ l, b.toNat < 0x80)
    (heq : ofText t = l) : t = l.map fun b => .scalar (Char.ofNat b.toNat) := by
  rw [fault?_eq_none_iff] at h
  induction t generalizing l with
  | nil =>
    subst heq
    rfl
  | cons p t ih =>
    obtain ⟨hp, ht⟩ := List.forall_mem_cons.mp h
    obtain ⟨b, rest, hbytes, hascii⟩ := exists_bytes?_of_hasBytes hp
    rw [ofText, List.flatMap_cons, hbytes, Option.getD_some, List.cons_append] at heq
    subst heq
    obtain ⟨hb, hl⟩ := List.forall_mem_cons.mp hl
    obtain ⟨rfl, rfl⟩ := hascii hb
    rw [List.nil_append] at hl ⊢
    exact congrArg _ (ih ht hl rfl)

theorem eq_dots (h : fault? t = none) (ht : ofText t = dots) : t = Text.ofString ".." :=
  (eq_of_ofText_ascii h (by simp [dots]) ht).trans (by simp [dots, Text.ofString])

end FileName

namespace Path

theorem intercalate_concat {α : Type} (separator : List α) {parts : List (List α)}
    (h : parts ≠ []) (part : List α) :
    List.intercalate separator (parts ++ [part]) =
      List.intercalate separator parts ++ separator ++ part := by
  induction parts with
  | nil => exact absurd rfl h
  | cons first parts ih =>
    cases parts with
    | nil => simp
    | cons second parts => simpa using ih (by simp)

theorem text_child (p : Path) (name : Text) :
    (p.child name).text = p.root ++ List.intercalate [slash] (p.parts ++ [name]) := by
  simp [text, child]

/-- The text of a path goes on in the text of a name in it, unless the path leads nowhere. -/
theorem exists_text_child (p : Path) (name : Text) :
    p.text = [.scalar '.'] ∨ ∃ tail, (p.child name).text = p.text ++ tail := by
  by_cases hparts : p.parts = []
  · by_cases hroot : p.root = []
    · exact .inl (by simp [text, hparts, hroot])
    · refine .inr ⟨name, ?_⟩
      rw [text_child]
      simp [text, hparts, hroot]
  · refine .inr ⟨slash :: name, ?_⟩
    rw [text_child, intercalate_concat _ hparts]
    simp [text, hparts]

theorem exists_text_child_append (p : Path) (name : Text) :
    ∃ front, (p.child name).text = front ++ name := by
  by_cases hparts : p.parts = []
  · refine ⟨p.root, ?_⟩
    rw [text_child]
    simp [hparts]
  · refine ⟨p.root ++ (List.intercalate [slash] p.parts ++ [slash]), ?_⟩
    rw [text_child, intercalate_concat _ hparts]
    simp

theorem child_parent {p : Path} (h : p.parts ≠ []) : ∃ name, p = p.parent.child name :=
  ⟨p.parts.getLast h, by simp [parent, child, List.dropLast_append_getLast]⟩

end Path

namespace FileStore

variable {p : Path}

theorem unaskable?_eq_none_iff :
    unaskable? p = none ↔ FileName.fault? p.text = none ∧ 0 ∉ FileName.ofText p.text := by
  unfold unaskable?
  cases FileName.fault? p.text <;> simp

theorem unaskable?_of_child {name : Text} (h : unaskable? (p.child name) = none) :
    unaskable? p = none := by
  rcases p.exists_text_child name with hdot | ⟨tail, htext⟩
  · rw [unaskable?_eq_none_iff, hdot]
    exact ⟨rfl, by decide⟩
  · rw [unaskable?_eq_none_iff, htext, FileName.fault?_append_eq_none_iff, FileName.ofText_append,
      List.mem_append, not_or] at h
    exact unaskable?_eq_none_iff.mpr ⟨h.1.1, h.2.1⟩

/-- A name in a path that the system can be asked for is that of the directory above only if it is
spelled so. -/
theorem ne_dots_of_unaskable? {name : Text} (h : unaskable? (p.child name) = none)
    (hname : name ≠ Text.ofString "..") : FileName.ofText name ≠ .dots := by
  obtain ⟨front, htext⟩ := p.exists_text_child_append name
  rw [unaskable?_eq_none_iff, htext, FileName.fault?_append_eq_none_iff] at h
  exact mt (FileName.eq_dots h.1.2) hname

theorem unaskable?_parent (h : unaskable? p = none) : unaskable? p.parent = none := by
  by_cases hparts : p.parts = []
  · rwa [Path.parent, hparts, List.dropLast_nil, ← hparts]
  · obtain ⟨name, hname⟩ := Path.child_parent hparts
    rw [hname] at h
    exact unaskable?_of_child h

theorem length_text_le_of_child {name : Text}
    (h : (FileName.ofText (p.child name).text).length ≤ maxPathLength) :
    (FileName.ofText p.text).length ≤ maxPathLength := by
  rcases p.exists_text_child name with hdot | ⟨tail, htext⟩
  · rw [hdot]
    decide
  · rw [htext, FileName.ofText_append, List.length_append] at h
    exact le_trans (Nat.le_add_right _ _) h

end FileStore

end Proceedings
