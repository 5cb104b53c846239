import Proceedings.Proofs.Json.Printer
import Proceedings.Proofs.Json.Proper

/-! # What the printer writes is JSON

Whatever values are written, their texts have the shape of JSON, each string in its escapes. They
are JSON proper unless a binary number among them is not finite, since only those are written by
name.
-/

namespace Proceedings

namespace Value

variable {number : Binary64 → Prop} {x : Binary64} {items : List Value} {fields : Fields}

theorem isWritable_float : (Value.float x).IsWritable number ↔ number x := by
  refine ⟨fun h => ?_, .float⟩
  cases h
  assumption

theorem isWritable_list :
    (Value.list items).IsWritable number ↔ ∀ v ∈ items, v.IsWritable number := by
  refine ⟨fun h => ?_, .list⟩
  cases h
  assumption

theorem isWritable_tuple :
    (Value.tuple items).IsWritable number ↔ ∀ v ∈ items, v.IsWritable number := by
  refine ⟨fun h => ?_, .tuple⟩
  cases h
  assumption

theorem isWritable_object :
    (Value.object fields).IsWritable number ↔ ∀ f ∈ fields, f.2.IsWritable number := by
  refine ⟨fun h => ?_, .object⟩
  cases h
  assumption

end Value

namespace Json

variable {number : Binary64 → Prop} {names : List String} {layout : Layout} {depth : Nat}
  {v : Value} {w sp sp' : Text} {ts : List Text}

section Shapes

theorem isQuotable_flatMap (t : Text) : IsQuotable (t.flatMap escaped) :=
  (spellsText_flatMap t).isQuotable

theorem isNumeral_ofInt (n : Int) : IsNumeral (Text.ofInt n) := by
  have hnumeral (negative : Bool) (n : Nat) : IsNumeral (signText negative ++ Text.ofNat n) := by
    have h : IsNumeral (signText negative ++ Text.ofNat n ++ [] ++ []) :=
      .intro (isWhole_ofNat n) .absent .absent
    rwa [List.append_nil, List.append_nil] at h
  cases n with
  | ofNat n => exact hnumeral false n
  | negSucc n => exact hnumeral true (n + 1)

theorem hasShape_chars (x : Binary64) :
    HasShape allNames .value (Text.ofChars (x.chars specialNames)) ∧
      (IsQuiet (Text.ofChars (x.chars specialNames)) ↔ x.isFinite = true) := by
  cases x with
  | finite negative rank =>
    have hnumeral := (spellsNumber_finite negative rank).isNumeral
    exact ⟨.number hnumeral, iff_of_true (isQuiet_of_isMark hnumeral.isMark) rfl⟩
  | nan => exact ⟨.name (show "NaN" ∈ allNames by decide), by decide⟩
  | infinite negative =>
    cases negative with
    | false => exact ⟨.name (show "Infinity" ∈ allNames by decide), by decide⟩
    | true => exact ⟨.name (show "-Infinity" ∈ allNames by decide), by decide⟩

/-- Texts with commas between them and a bracket at the end, the items of an array or the fields of
an object. -/
theorem hasShape_intercalate {inner outer : Shape} {closing : CodePoint}
    (hlast : ∀ {w sp}, HasShape names inner w → Spaces sp →
      HasShape names outer (w ++ sp ++ [closing]))
    (hjoint : ∀ {w sp sp' rest}, HasShape names inner w → Spaces sp → Spaces sp' →
      HasShape names outer rest → HasShape names outer (w ++ sp ++ .scalar ',' :: sp' ++ rest))
    (hsp : Spaces sp) (hsp' : Spaces sp') (h : ∀ t ∈ ts, HasShape names inner t) (hne : ts ≠ []) :
    HasShape names outer (List.intercalate (.scalar ',' :: sp) ts ++ sp' ++ [closing]) := by
  induction ts with
  | nil => exact absurd rfl hne
  | cons t ts ih =>
    obtain ⟨ht, hts⟩ := List.forall_mem_cons.mp h
    cases ts with
    | nil =>
      rw [List.intercalate_singleton]
      exact hlast ht hsp'
    | cons t' ts =>
      have htext := hjoint ht spaces_nil hsp (ih hts (by simp))
      simpa [List.intercalate_cons_cons] using htext

theorem hasShape_array (layout : Layout) (depth : Nat) (h : ∀ t ∈ ts, HasShape names .value t) :
    HasShape names .value (layout.enclose depth '[' ']' ts) := by
  have hstart := spaces_lineStart layout
  cases ts with
  | nil => exact .noItems spaces_nil
  | cons t ts =>
    have harray := HasShape.array (hstart (depth + 1))
      (hasShape_intercalate .lastItem .item (hstart (depth + 1)) (hstart depth) h (by simp))
    simpa [Layout.enclose] using harray

theorem hasShape_object (layout : Layout) (depth : Nat) (h : ∀ t ∈ ts, HasShape names .entry t) :
    HasShape names .value (layout.enclose depth '\x7b' '\x7d' ts) := by
  have hstart := spaces_lineStart layout
  cases ts with
  | nil => exact .noFields spaces_nil
  | cons t ts =>
    have hobject := HasShape.object (hstart (depth + 1))
      (hasShape_intercalate .lastField .field (hstart (depth + 1)) (hstart depth) h (by simp))
    simpa [Layout.enclose] using hobject

theorem hasShape_entry (layout : Layout) (k : Text) (h : HasShape names .value w) :
    HasShape names .entry (quoted k ++ layout.colon ++ w) := by
  obtain ⟨sp, hsp, hcolon⟩ := exists_colon layout
  have hentry := HasShape.entry (isQuotable_flatMap k) spaces_nil hsp h
  simpa [inQuotes, quoted, hcolon] using hentry

theorem hasShape_write (h : v.IsWritable number) (hw : write layout depth v = .ok w) :
    HasShape allNames .value w := by
  induction h generalizing depth w with
  | null =>
    obtain rfl := Except.ok.inj hw
    exact .name (by decide)
  | bool b =>
    obtain rfl := Except.ok.inj hw
    cases b <;> exact .name (by decide)
  | @int n =>
    obtain ⟨-, rfl⟩ := write_int_eq_ok hw
    exact .number (isNumeral_ofInt n)
  | @float x =>
    rw [write] at hw
    split at hw
    · obtain rfl := Except.ok.inj hw
      exact (hasShape_chars x).1
    · cases hw
  | text | kind =>
    obtain rfl := Except.ok.inj hw
    exact .text (isQuotable_flatMap _)
  | list _ ih | tuple _ ih =>
    obtain ⟨ts, hts, rfl⟩ := map_eq_ok.mp hw
    refine hasShape_array layout depth fun t ht => ?_
    obtain ⟨v, hv, hvt⟩ := exists_of_mem_forall₂ (writeItems_eq_ok.mp hts) ht
    exact ih v hv hvt
  | object _ ih =>
    obtain ⟨ts, hts, rfl⟩ := map_eq_ok.mp hw
    refine hasShape_object layout depth fun t ht => ?_
    obtain ⟨f, hf, w, hw, rfl⟩ := exists_of_mem_forall₂ (writeFields_eq_ok.mp hts) ht
    exact hasShape_entry layout f.1 (ih f hf hw)

end Shapes

section Quiet

theorem isQuiet_intercalate {sep : Text} (hsep : ∀ p ∈ sep, IsMark p)
    (h : ∀ t ∈ ts, IsBalanced t) (hw : IsQuiet w) :
    IsQuiet (List.intercalate sep ts ++ w) ↔ ∀ t ∈ ts, IsQuiet t := by
  induction ts with
  | nil => simpa using hw
  | cons t ts ih =>
    obtain ⟨ht, hts⟩ := List.forall_mem_cons.mp h
    cases ts with
    | nil => simp [isQuiet_append ht, hw]
    | cons t' ts =>
      rw [List.intercalate_cons_cons, List.append_assoc, List.append_assoc, isQuiet_append ht,
        isQuiet_marks_append hsep, ih hts, List.forall_mem_cons (a := t)]

theorem isQuiet_enclose {opening closing : Char} (hopening : IsMark (.scalar opening))
    (hclosing : IsMark (.scalar closing)) (h : ∀ t ∈ ts, IsBalanced t) :
    IsQuiet (layout.enclose depth opening closing ts) ↔ ∀ t ∈ ts, IsQuiet t := by
  have hstart := spaces_lineStart layout
  have hend := isQuiet_of_isMark (isMark_closing (hstart depth) hclosing)
  unfold Layout.enclose
  split
  · next hempty =>
    obtain rfl := List.isEmpty_iff.mp hempty
    have hbrackets := isQuiet_of_isMark (isMark_brackets hopening spaces_nil hclosing)
    exact iff_of_true hbrackets nofun
  · rw [List.append_assoc, List.append_assoc, isQuiet_opening hopening (hstart (depth + 1)),
      isQuiet_intercalate (isMark_opening (by decide) (hstart (depth + 1))) h hend]

theorem isQuiet_entry (k : Text) (layout : Layout) :
    IsQuiet (quoted k ++ layout.colon ++ w) ↔ IsQuiet w := by
  obtain ⟨sp, hsp, hcolon⟩ := exists_colon layout
  have hk := isQuotable_flatMap k
  have hentry : IsQuiet (inQuotes (k.flatMap escaped) ++ [] ++ .scalar ':' :: sp ++ w) ↔
      IsQuiet w := by
    rw [isQuiet_joint hk.isBalanced_inQuotes spaces_nil (by decide) hsp,
      and_iff_right hk.isQuiet_inQuotes]
  simpa [inQuotes, quoted, hcolon] using hentry

theorem isQuiet_array {items : List Value} {p : Value → Prop}
    (h : ∀ v ∈ items, v.IsWritable number)
    (hitems : ∀ v ∈ items, ∀ t, write layout (depth + 1) v = .ok t → (IsQuiet t ↔ p v))
    (hts : writeItems layout (depth + 1) items = .ok ts) :
    IsQuiet (layout.enclose depth '[' ']' ts) ↔ ∀ v ∈ items, p v := by
  have hrelated := writeItems_eq_ok.mp hts
  rw [← forall_iff_of_forall₂ hitems hrelated]
  refine isQuiet_enclose (by decide) (by decide) fun t ht => ?_
  obtain ⟨v, hv, hvt⟩ := exists_of_mem_forall₂ hrelated ht
  exact (hasShape_write (h v hv) hvt).isBalanced

theorem isQuiet_object {fields : Fields} {p : Value → Prop}
    (h : ∀ f ∈ fields, f.2.IsWritable number)
    (hfields : ∀ f ∈ fields, ∀ t, write layout (depth + 1) f.2 = .ok t → (IsQuiet t ↔ p f.2))
    (hts : writeFields layout (depth + 1) fields = .ok ts) :
    IsQuiet (layout.enclose depth '\x7b' '\x7d' ts) ↔ ∀ f ∈ fields, p f.2 := by
  have hrelated := writeFields_eq_ok.mp hts
  have hentry (f : Text × Value) (hf : f ∈ fields) (t : Text)
      (ht : ∃ w, write layout (depth + 1) f.2 = .ok w ∧ t = quoted f.1 ++ layout.colon ++ w) :
      IsQuiet t ↔ p f.2 := by
    obtain ⟨w, hw, rfl⟩ := ht
    rw [isQuiet_entry, hfields f hf w hw]
  rw [← forall_iff_of_forall₂ hentry hrelated]
  refine isQuiet_enclose (by decide) (by decide) fun t ht => ?_
  obtain ⟨f, hf, w, hw, rfl⟩ := exists_of_mem_forall₂ hrelated ht
  exact (hasShape_entry layout f.1 (hasShape_write (h f hf) hw)).isBalanced

/-- The text of a value names a special number exactly if a binary number of it is one. -/
theorem isQuiet_write_iff (h : v.IsWritable number) (hw : write layout depth v = .ok w) :
    IsQuiet w ↔ v.IsWritable (·.isFinite = true) := by
  induction h generalizing depth w with
  | null =>
    obtain rfl := Except.ok.inj hw
    exact iff_of_true (by decide) .null
  | bool b =>
    obtain rfl := Except.ok.inj hw
    exact iff_of_true (by cases b <;> decide) (.bool b)
  | @int n hdigits =>
    obtain ⟨-, rfl⟩ := write_int_eq_ok hw
    exact iff_of_true (isQuiet_of_isMark (isNumeral_ofInt n).isMark) (.int hdigits)
  | @float x =>
    rw [write] at hw
    split at hw
    · obtain rfl := Except.ok.inj hw
      rw [Value.isWritable_float]
      exact (hasShape_chars x).2
    · cases hw
  | text t =>
    obtain rfl := Except.ok.inj hw
    exact iff_of_true (isQuotable_flatMap _).isQuiet_inQuotes (.text t)
  | kind k =>
    obtain rfl := Except.ok.inj hw
    exact iff_of_true (isQuotable_flatMap _).isQuiet_inQuotes (.kind k)
  | list h ih =>
    obtain ⟨ts, hts, rfl⟩ := map_eq_ok.mp hw
    rw [Value.isWritable_list]
    exact isQuiet_array h (fun v hv t ht => ih v hv ht) hts
  | tuple h ih =>
    obtain ⟨ts, hts, rfl⟩ := map_eq_ok.mp hw
    rw [Value.isWritable_tuple]
    exact isQuiet_array h (fun v hv t ht => ih v hv ht) hts
  | object h ih =>
    obtain ⟨ts, hts, rfl⟩ := map_eq_ok.mp hw
    rw [Value.isWritable_object]
    exact isQuiet_object h (fun f hf t ht => ih f hf ht) hts

end Quiet

/-- What is written is JSON but for the names of special numbers, and JSON proper exactly if each
binary number is finite. -/
theorem isProper_write_iff (h : v.IsWritable number) (hw : write layout depth v = .ok w) :
    IsTextWith allNames w ∧ (IsProper w ↔ v.IsWritable (·.isFinite = true)) := by
  have htext : IsTextWith allNames w :=
    ⟨[], w, [], spaces_nil, hasShape_write h hw, spaces_nil, by simp⟩
  exact ⟨htext, htext.isProper_iff.trans (isQuiet_write_iff h hw)⟩

end Json

end Proceedings
