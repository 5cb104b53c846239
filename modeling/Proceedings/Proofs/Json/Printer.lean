import Proceedings.Json.Printer
import Proceedings.Proofs.Answer

/-! # What has a JSON text

Every value that JSON can express has a text in the layout of artifacts, unless an integer has too
many digits, and no other value has one.
-/

namespace Proceedings

inductive Value.IsJson : Value → Prop
  | null : IsJson .null
  | bool (b : Bool) : IsJson (.bool b)
  | int (n : Int) : IsJson (.int n)
  | float (x : Binary64) : IsJson (.float x)
  | text (t : Text) : IsJson (.text t)
  | list {items : List Value} (h : ∀ v ∈ items, IsJson v) : IsJson (.list items)
  | object {fields : Fields} (h : ∀ f ∈ fields, IsJson f.2) : IsJson (.object fields)

/-- A value that JSON can express, its binary numbers among such, with integers of no more digits
than are written. Tuples count as arrays, and the kinds of events as their names. -/
inductive Value.IsWritable (number : Binary64 → Prop) : Value → Prop
  | null : IsWritable number .null
  | bool (b : Bool) : IsWritable number (.bool b)
  | int {n : Int} (h : Binary64.digitCount n.natAbs ≤ Numeral.maxDigits) :
      IsWritable number (.int n)
  | float {x : Binary64} (h : number x) : IsWritable number (.float x)
  | text (t : Text) : IsWritable number (.text t)
  | kind (k : EventKind) : IsWritable number (.kind k)
  | list {items : List Value} (h : ∀ v ∈ items, IsWritable number v) :
      IsWritable number (.list items)
  | tuple {items : List Value} (h : ∀ v ∈ items, IsWritable number v) :
      IsWritable number (.tuple items)
  | object {fields : Fields} (h : ∀ f ∈ fields, IsWritable number f.2) :
      IsWritable number (.object fields)

theorem Value.isJson_str (s : String) : (Value.str s).IsJson := .text _

theorem Value.IsJson.eq_text {v : Value} {t : Text} (h : v.IsJson) (ht : v.text? = some t) :
    v = .text t := by
  cases h <;> simp_all [Value.text?]

namespace Json

variable {number : Binary64 → Prop} {layout : Layout} {depth : Nat} {v : Value}

theorem write_int (layout : Layout) (depth : Nat) {n : Int}
    (h : Binary64.digitCount n.natAbs ≤ Numeral.maxDigits) :
    write layout depth (.int n) = .ok (Text.ofInt n) := by
  rw [write, if_pos h]

theorem write_int_eq_ok {n : Int} {w : Text} (h : write layout depth (.int n) = .ok w) :
    Binary64.digitCount n.natAbs ≤ Numeral.maxDigits ∧ w = Text.ofInt n := by
  rw [write] at h
  split at h
  · next hdigits => exact ⟨hdigits, (Except.ok.inj h).symm⟩
  · cases h

theorem exists_writeItems {items : List Value}
    (h : ∀ v ∈ items, ∃ t, write layout depth v = .ok t) :
    ∃ ts, writeItems layout depth items = .ok ts := by
  induction items with
  | nil => exact ⟨[], rfl⟩
  | cons v items ih =>
    obtain ⟨⟨t, ht⟩, hitems⟩ := List.forall_mem_cons.mp h
    obtain ⟨ts, hts⟩ := ih hitems
    exact ⟨t :: ts, by rw [writeItems, ht, ok_bind, hts]; rfl⟩

theorem exists_writeFields {fields : Fields}
    (h : ∀ f ∈ fields, ∃ t, write layout depth f.2 = .ok t) :
    ∃ ts, writeFields layout depth fields = .ok ts := by
  induction fields with
  | nil => exact ⟨[], rfl⟩
  | cons f fields ih =>
    obtain ⟨⟨t, ht⟩, hfields⟩ := List.forall_mem_cons.mp h
    obtain ⟨ts, hts⟩ := ih hfields
    exact ⟨(quoted f.1 ++ layout.colon ++ t) :: ts, by rw [writeFields, ht, ok_bind, hts]; rfl⟩

/-- A layout that names special numbers has a text for each such value. -/
theorem exists_write (hspecial : layout.special = true) (h : v.IsWritable number)
    (depth : Nat) : ∃ w, write layout depth v = .ok w := by
  induction h generalizing depth with
  | null | bool | text | kind => exact ⟨_, rfl⟩
  | int hdigits => exact ⟨_, write_int layout depth hdigits⟩
  | float => exact ⟨_, by rw [write, hspecial, Bool.or_true, if_pos rfl]⟩
  | list _ ih =>
    obtain ⟨ts, hts⟩ := exists_writeItems fun v hv => ih v hv (depth + 1)
    exact ⟨_, by rw [write, hts, map_ok]⟩
  | tuple _ ih =>
    obtain ⟨ts, hts⟩ := exists_writeItems fun v hv => ih v hv (depth + 1)
    exact ⟨_, by rw [write, hts, map_ok]⟩
  | object _ ih =>
    obtain ⟨ts, hts⟩ := exists_writeFields fun f hf => ih f hf (depth + 1)
    exact ⟨_, by rw [write, hts, map_ok]⟩

mutual

theorem isWritable_of_write {layout : Layout} {depth : Nat} {v : Value} {w : Text}
    (h : write layout depth v = .ok w) : v.IsWritable fun _ => True := by
  match v with
  | .null => exact .null
  | .bool b => exact .bool b
  | .int _ => exact .int (write_int_eq_ok h).1
  | .float _ => exact .float trivial
  | .text t => exact .text t
  | .kind k => exact .kind k
  | .list _ =>
    obtain ⟨ts, hts, -⟩ := map_eq_ok.mp h
    exact .list (isWritable_of_writeItems hts)
  | .tuple _ =>
    obtain ⟨ts, hts, -⟩ := map_eq_ok.mp h
    exact .tuple (isWritable_of_writeItems hts)
  | .object _ =>
    obtain ⟨ts, hts, -⟩ := map_eq_ok.mp h
    exact .object (isWritable_of_writeFields hts)
  | .time _ | .uuid _ | .participant _ | .alternative _ | .result _ | .event _ | .transcript _ =>
    cases h

theorem isWritable_of_writeItems {layout : Layout} {depth : Nat} {items : List Value}
    {ts : List Text} (h : writeItems layout depth items = .ok ts) :
    ∀ v ∈ items, v.IsWritable fun _ => True := by
  match items with
  | [] => exact List.forall_mem_nil _
  | _ :: _ =>
    obtain ⟨t, ht, h⟩ := bind_eq_ok.mp h
    obtain ⟨others, hothers, -⟩ := bind_eq_ok.mp h
    exact List.forall_mem_cons.mpr ⟨isWritable_of_write ht, isWritable_of_writeItems hothers⟩

theorem isWritable_of_writeFields {layout : Layout} {depth : Nat} {fields : Fields}
    {ts : List Text} (h : writeFields layout depth fields = .ok ts) :
    ∀ f ∈ fields, f.2.IsWritable fun _ => True := by
  match fields with
  | [] => exact List.forall_mem_nil _
  | (_, _) :: _ =>
    obtain ⟨t, ht, h⟩ := bind_eq_ok.mp h
    obtain ⟨others, hothers, -⟩ := bind_eq_ok.mp h
    exact List.forall_mem_cons.mpr ⟨isWritable_of_write ht, isWritable_of_writeFields hothers⟩

end

end Json

end Proceedings
