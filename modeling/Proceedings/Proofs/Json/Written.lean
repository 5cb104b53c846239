import Proceedings.Proofs.Json.Content

/-! # What the printer writes

The text of a value spells that value, so it is read back as the same, with its keys in the same
order. Integers must not have too many digits, and keys must be distinct. The values that are read
back from their texts are the payloads, and no two payloads have one text.
-/

namespace Proceedings

open Json

/-- A value that is written so that it is read back, with these names for what has no digits. -/
inductive Value.IsSpellable (names : List (String × Value)) : Value → Prop
  | null : IsSpellable names .null
  | bool (b : Bool) : IsSpellable names (.bool b)
  | int {n : Int} (h : Binary64.digitCount n.natAbs ≤ Numeral.maxDigits) :
      IsSpellable names (.int n)
  | finite (negative : Bool) (rank : Fin 9218868437227405312) :
      IsSpellable names (.float (.finite negative rank))
  | named {x : Binary64} (h : (String.ofList (x.chars specialNames), .float x) ∈ names) :
      IsSpellable names (.float x)
  | text (t : Text) : IsSpellable names (.text t)
  | list {items : List Value} (h : ∀ v ∈ items, IsSpellable names v) :
      IsSpellable names (.list items)
  | object {fields : Fields} (hkeys : (fields.map (·.1)).Nodup)
      (h : ∀ f ∈ fields, IsSpellable names f.2) : IsSpellable names (.object fields)

theorem Value.IsSpellable.isWritable {names : List (String × Value)} {v : Value}
    (h : v.IsSpellable names) : v.IsWritable fun _ => True := by
  induction h with
  | null => exact .null
  | bool b => exact .bool b
  | int h => exact .int h
  | finite | named => exact .float trivial
  | text t => exact .text t
  | list _ ih => exact .list ih
  | object _ _ ih => exact .object ih

namespace Json

def properWords : List (String × Value) :=
  [("null", .null), ("true", .bool true), ("false", .bool false)]

section Quoted

variable {p : CodePoint} {t w : Text}

theorem spellsHex_hexDigits {n : Nat} (h : n < 0x20) :
    SpellsHex n ((hexDigits 4 n).map CodePoint.scalar) := by
  unfold SpellsHex
  revert n
  decide

theorem spellsText_escaped (h : SpellsText t w) : SpellsText (p :: t) (escaped p ++ w) := by
  unfold escaped
  split
  iterate 7 exact .simple rfl h
  · next hquote hbackslash _ _ _ _ _ =>
    split
    · next hcontrol =>
      have hhigh : ¬ IsHigh p.toNat := fun hhigh => by
        unfold IsHigh at hhigh
        omega
      have hpoint : CodePoint.ofNat p.toNat = p := by
        cases p with
        | surrogate u =>
          simp only [CodePoint.toNat] at hcontrol
          omega
        | scalar c =>
          simp only [CodePoint.toNat] at hcontrol
          rw [CodePoint.ofNat, dif_neg (by simp only [CodePoint.toNat]; omega),
            if_pos (by simp only [CodePoint.toNat]; omega)]
          exact congrArg CodePoint.scalar (Char.ofNat_toNat c)
      have hspells := SpellsText.point (spellsHex_hexDigits hcontrol) (absurd · hhigh) h
      rwa [hpoint] at hspells
    · next hplain => exact .plain hquote hbackslash (Nat.le_of_not_lt hplain) h

theorem spellsText_flatMap (t : Text) : SpellsText t (t.flatMap escaped) := by
  induction t with
  | nil => exact .nil
  | cons p t ih => exact spellsText_escaped ih

end Quoted

section Layouts

variable {names : List (String × Value)} {layout : Layout} {depth : Nat} {before fields : Fields}
  {vs : List Value} {ts : List Text} {k w : Text} {v : Value}

theorem spaces_nil : Spaces [] := nofun

theorem spaces_lineStart (layout : Layout) (depth : Nat) : Spaces (layout.lineStart depth) := by
  unfold Layout.lineStart
  split
  · refine List.forall_mem_cons.mpr ⟨rfl, fun p hp => ?_⟩
    rw [List.eq_of_mem_replicate hp]
    rfl
  · exact spaces_nil

theorem exists_colon (layout : Layout) : ∃ sp, Spaces sp ∧ layout.colon = .scalar ':' :: sp := by
  unfold Layout.colon
  split
  · exact ⟨[.scalar ' '], List.forall_mem_singleton.mpr rfl, rfl⟩
  · exact ⟨[], spaces_nil, rfl⟩

theorem writeItems_eq_ok :
    writeItems layout depth vs = .ok ts ↔
      List.Forall₂ (fun v t => write layout depth v = .ok t) vs ts := by
  induction vs generalizing ts with
  | nil => simp [writeItems, eq_comm]
  | cons v vs ih =>
    rw [writeItems, bind_eq_ok, List.forall₂_cons_left_iff]
    constructor
    · rintro ⟨t, ht, h⟩
      obtain ⟨others, hothers, h⟩ := bind_eq_ok.mp h
      exact ⟨t, others, ht, ih.mp hothers, (Except.ok.inj h).symm⟩
    · rintro ⟨t, others, ht, hothers, rfl⟩
      exact ⟨t, ht, by rw [ih.mpr hothers, ok_bind]; rfl⟩

theorem writeFields_eq_ok :
    writeFields layout depth fields = .ok ts ↔
      List.Forall₂ (fun f t => ∃ w, write layout depth f.2 = .ok w ∧
        t = quoted f.1 ++ layout.colon ++ w) fields ts := by
  induction fields generalizing ts with
  | nil => simp [writeFields, eq_comm]
  | cons f fields ih =>
    obtain ⟨k, v⟩ := f
    rw [writeFields, bind_eq_ok, List.forall₂_cons_left_iff]
    constructor
    · rintro ⟨w, hw, h⟩
      obtain ⟨others, hothers, h⟩ := bind_eq_ok.mp h
      exact ⟨_, others, ⟨w, hw, rfl⟩, ih.mp hothers, (Except.ok.inj h).symm⟩
    · rintro ⟨_, others, ⟨w, hw, rfl⟩, hothers, rfl⟩
      exact ⟨w, hw, by rw [ih.mpr hothers, ok_bind]; rfl⟩

theorem spells_items_intercalate {sp sp' : Text} (hsp : Spaces sp) (hsp' : Spaces sp')
    (h : List.Forall₂ (fun v t => Spells names (.value v) t) vs ts) (hne : vs ≠ []) :
    Spells names (.items vs) (List.intercalate (.scalar ',' :: sp) ts ++ sp' ++ [.scalar ']']) := by
  induction h with
  | nil => exact absurd rfl hne
  | @cons v t vs ts ht hts ih =>
    cases hts with
    | nil =>
      rw [List.intercalate_singleton]
      exact .lastItem ht hsp'
    | cons ht' hts' =>
      have hitem := Spells.item ht spaces_nil hsp (ih (by simp))
      simpa [List.intercalate_cons_cons] using hitem

theorem spells_entry_written (h : Spells names (.value v) w) (k : Text) :
    Spells names (.entry k v) (quoted k ++ layout.colon ++ w) := by
  obtain ⟨sp, hsp, hcolon⟩ := exists_colon layout
  have hentry := Spells.entry (spellsText_flatMap k) spaces_nil hsp h
  simpa [inQuotes, quoted, hcolon] using hentry

theorem spells_fields_intercalate (before : Fields) {sp sp' : Text} (hsp : Spaces sp)
    (hsp' : Spaces sp')
    (h : List.Forall₂ (fun f t => Spells names (.entry f.1 f.2) t) fields ts) (hne : fields ≠ [])
    (hkeys : ((before ++ fields).map (·.1)).Nodup) :
    Spells names (.fields before (before ++ fields))
      (List.intercalate (.scalar ',' :: sp) ts ++ sp' ++ [.scalar '\x7d']) := by
  induction h generalizing before with
  | nil => exact absurd rfl hne
  | @cons f t fields ts ht hts ih =>
    obtain ⟨k, v⟩ := f
    -- A new key is put behind the fields before it, so the reader keeps the order.
    have hput : before.put k v = before ++ [(k, v)] := by
      refine Fields.put_of_not_mem (fun hk => ?_) v
      rw [List.map_append, List.nodup_append] at hkeys
      exact hkeys.2.2 k hk k List.mem_cons_self rfl
    cases hts with
    | nil =>
      rw [List.intercalate_singleton, ← hput]
      exact .lastField ht hsp'
    | cons ht' hts' =>
      have hrest := @ih (before ++ [(k, v)]) (by simp) (by simpa using hkeys)
      rw [List.append_assoc, ← hput] at hrest
      have hfield := Spells.field ht spaces_nil hsp hrest
      simpa [List.intercalate_cons_cons] using hfield

theorem spells_list_written (h : List.Forall₂ (fun v t => Spells names (.value v) t) vs ts) :
    Spells names (.value (.list vs)) (layout.enclose depth '[' ']' ts) := by
  have hstart := spaces_lineStart layout
  cases h with
  | nil => exact .noItems spaces_nil
  | cons hfirst hrest =>
    have harray := Spells.array (hstart (depth + 1)) (spells_items_intercalate
      (hstart (depth + 1)) (hstart depth) (.cons hfirst hrest) (by simp))
    simpa [Layout.enclose] using harray

theorem spells_object_written (hkeys : (fields.map (·.1)).Nodup)
    (h : List.Forall₂ (fun f t => Spells names (.entry f.1 f.2) t) fields ts) :
    Spells names (.value (.object fields)) (layout.enclose depth '\x7b' '\x7d' ts) := by
  have hstart := spaces_lineStart layout
  cases h with
  | nil => exact .noFields spaces_nil
  | cons hfirst hrest =>
    have hobject := Spells.object (hstart (depth + 1)) (spells_fields_intercalate []
      (hstart (depth + 1)) (hstart depth) (.cons hfirst hrest) (by simp) hkeys)
    simpa [Layout.enclose] using hobject

/-- What is written for a value spells it. -/
theorem spells_write (hnames : ∀ word ∈ properWords, word ∈ names) (h : v.IsSpellable names)
    (hw : write layout depth v = .ok w) : Spells names (.value v) w := by
  induction h generalizing depth w with
  | null =>
    obtain rfl := Except.ok.inj hw
    exact .name (hnames _ (by simp [properWords]))
  | bool b =>
    obtain rfl := Except.ok.inj hw
    cases b <;> exact .name (hnames _ (by simp [properWords]))
  | int h =>
    obtain ⟨-, rfl⟩ := write_int_eq_ok hw
    exact .number (spellsNumber_ofInt h)
  | finite negative rank =>
    obtain rfl := Except.ok.inj hw
    exact .number (spellsNumber_finite negative rank)
  | @named x h =>
    rw [write] at hw
    split at hw
    · obtain rfl := Except.ok.inj hw
      have hspells := Spells.name h
      rwa [Text.ofString, String.toList_ofList] at hspells
    · cases hw
  | text t =>
    obtain rfl := Except.ok.inj hw
    exact .text (spellsText_flatMap t)
  | list _ ih =>
    obtain ⟨ts, hts, rfl⟩ := map_eq_ok.mp hw
    exact spells_list_written
      (forall₂_of_mem (fun v hv _ ht => ih v hv ht) (writeItems_eq_ok.mp hts))
  | @object fields hkeys _ ih =>
    obtain ⟨ts, hts, rfl⟩ := map_eq_ok.mp hw
    have hentry (f : Text × Value) (hf : f ∈ fields) (t : Text)
        (ht : ∃ w, write layout (depth + 1) f.2 = .ok w ∧ t = quoted f.1 ++ layout.colon ++ w) :
        Spells names (.entry f.1 f.2) t := by
      obtain ⟨w, hw, rfl⟩ := ht
      exact spells_entry_written (ih f hf hw) f.1
    exact spells_object_written hkeys (forall₂_of_mem hentry (writeFields_eq_ok.mp hts))

end Layouts

theorem isSpellable_float (x : Binary64) : (Value.float x).IsSpellable words := by
  cases x with
  | finite negative rank => exact .finite negative rank
  | nan => exact .named (by simp [words, Binary64.chars, specialNames])
  | infinite negative =>
    cases negative <;> exact .named (by simp [words, Binary64.chars, specialNames])

theorem read_serialize {v : Value} {w : Text} (h : v.IsSpellable words)
    (hw : Json.serialize v = .ok w) : read w = .ok v := by
  have hspells := spells_write (by simp [properWords, words]) h hw
  exact read_eq_ok_iff.mpr ⟨[], w, [], spaces_nil, hspells, spaces_nil, by simp⟩

end Json

theorem Value.IsPayload.isSpellable {v : Value} (h : v.IsPayload) : v.IsSpellable words := by
  induction h with
  | null => exact .null
  | bool b => exact .bool b
  | int h => exact .int h
  | float x => exact isSpellable_float x
  | text t => exact .text t
  | list _ ih => exact .list ih
  | object hkeys _ ih => exact .object hkeys ih

theorem Value.IsSpellable.exists_text {v : Value} (h : v.IsSpellable words) :
    ∃ t, Proceedings.serialize v = .ok t ∧ read t = .ok v := by
  have hspecial : artifactLayout.special = true := rfl
  obtain ⟨t, ht⟩ := exists_write hspecial h.isWritable 0
  exact ⟨t, mapError_eq_ok.mpr ht, read_serialize h ht⟩

/-- The payloads are the values that have a text which is read as them, the same in their kinds of
numbers and in the order of their keys. Different payloads have different texts. -/
theorem serialize_determines (v : Value) :
    (v.IsPayload ↔ ∃ t, Proceedings.serialize v = .ok t ∧ read t = .ok v) ∧
      (v.IsPayload → ∀ w : Value, w.IsPayload → w ≠ v →
        Proceedings.serialize w ≠ Proceedings.serialize v) := by
  constructor
  · constructor
    · intro h
      exact h.isSpellable.exists_text
    · rintro ⟨t, -, hread⟩
      exact isPayload_of_read hread
  · intro hv w hw hne h
    obtain ⟨s, hs, hreads⟩ := hv.isSpellable.exists_text
    obtain ⟨t, ht, hreadt⟩ := hw.isSpellable.exists_text
    rw [hs, ht] at h
    rw [Except.ok.inj h, hreads] at hreadt
    exact hne (Except.ok.inj hreadt).symm

def sheet (number : Value) : Value :=
  .object [(Text.ofString "b\n\"", .list [number, .float .nan, .null]),
    (Text.ofString "a\\", .object [])]

theorem isPayload_sheet {v : Value} (h : v.IsPayload) : (sheet v).IsPayload := by
  have hkeys : [Text.ofString "b\n\"", Text.ofString "a\\"].Nodup := by decide
  refine .object hkeys ?_
  intro f hf
  rcases List.mem_cons.mp hf with rfl | hf
  · refine .list ?_
    simp [h, Value.IsPayload.null, Value.IsPayload.float]
  · obtain rfl := List.mem_singleton.mp hf
    exact .object .nil nofun

/-- A whole number is not taken for the integer. -/
theorem serialize_determines_sheet :
    let one : Value := .float (.finite false ⟨4607182418800017408, by decide⟩)
    (∃ t, Proceedings.serialize (sheet one) = .ok t ∧ read t = .ok (sheet one)) ∧
      Proceedings.serialize (sheet (.int 1)) ≠ Proceedings.serialize (sheet one) := by
  intro one
  have hone : (sheet one).IsPayload := isPayload_sheet (.float _)
  have hint : (sheet (.int 1)).IsPayload := isPayload_sheet (.int (by decide))
  obtain ⟨hread, hdiffer⟩ := serialize_determines (sheet one)
  refine ⟨hread.mp hone, hdiffer hone (sheet (.int 1)) hint ?_⟩
  simp [sheet, one]

end Proceedings
