import Proceedings.Proofs.Json.Numeral
import Proceedings.Proofs.Json.Printer
import Proceedings.Proofs.Json.Reader
import Proceedings.Proofs.Value.Fields

/-! # What JSON texts spell

Only payloads: values that JSON can express, with integers of a bounded length and objects whose
keys are distinct. A value is an array exactly if a bracket comes first in its text.
-/

namespace Proceedings

/-- A value that JSON can express, with integers of no more digits than a numeral may have and with
distinct keys in each object. -/
inductive Value.IsPayload : Value → Prop
  | null : IsPayload .null
  | bool (b : Bool) : IsPayload (.bool b)
  | int {n : Int} (h : Binary64.digitCount n.natAbs ≤ Numeral.maxDigits) : IsPayload (.int n)
  | float (x : Binary64) : IsPayload (.float x)
  | text (t : Text) : IsPayload (.text t)
  | list {items : List Value} (h : ∀ v ∈ items, IsPayload v) : IsPayload (.list items)
  | object {fields : Fields} (hkeys : (fields.map (·.1)).Nodup) (h : ∀ f ∈ fields, IsPayload f.2) :
      IsPayload (.object fields)

theorem Value.IsPayload.isJson {v : Value} (h : v.IsPayload) : v.IsJson := by
  induction h with
  | null => exact .null
  | bool b => exact .bool b
  | int => exact .int _
  | float x => exact .float x
  | text t => exact .text t
  | list _ ih => exact .list ih
  | object _ _ ih => exact .object ih

namespace Json

structure IsPayloadFields (fields : Fields) : Prop where
  keys : (fields.map (·.1)).Nodup
  values : ∀ f ∈ fields, f.2.IsPayload

/-- A part of a payload. Fields may come after others of a payload. -/
def Part.IsPayload : Part → Prop
  | .value v => v.IsPayload
  | .items vs => ∀ v ∈ vs, v.IsPayload
  | .entry _ v => v.IsPayload
  | .fields before all => IsPayloadFields before → IsPayloadFields all

variable {part : Part} {v : Value} {w t : Text}

theorem IsPayloadFields.nil : IsPayloadFields [] := ⟨.nil, nofun⟩

theorem IsPayloadFields.put {fields : Fields} (h : IsPayloadFields fields) (k : Text)
    (hv : v.IsPayload) : IsPayloadFields (fields.put k v) :=
  ⟨Fields.nodup_keys_put h.keys k v, Fields.forall_put h.values k hv⟩

theorem isPayload_of_words {name : String} (h : (name, v) ∈ words) : v.IsPayload := by
  simp only [words, List.mem_cons, Prod.mk.injEq, List.not_mem_nil, or_false] at h
  rcases h with ⟨-, rfl⟩ | ⟨-, rfl⟩ | ⟨-, rfl⟩ | ⟨-, rfl⟩ | ⟨-, rfl⟩ | ⟨-, rfl⟩
  · exact .null
  · exact .bool true
  · exact .bool false
  all_goals exact .float _

theorem SpellsNumber.isPayload (h : SpellsNumber v w) : v.IsPayload := by
  cases h with
  | @int negative digits hwhole hlength =>
    refine .int (le_trans ?_ hlength)
    rw [natAbs_signed]
    exact digitCount_natOfDigits_le hwhole.isDigits
  | float => exact .float _

theorem Spells.isPayload (h : Spells words part w) : part.IsPayload := by
  induction h with
  | name h => exact isPayload_of_words h
  | number h => exact h.isPayload
  | text => exact .text _
  | noItems => exact .list nofun
  | array _ _ ih => exact .list ih
  | noFields => exact .object .nil nofun
  | object _ _ ih => exact .object (ih .nil).keys (ih .nil).values
  | lastItem _ _ ih => exact List.forall_mem_singleton.mpr ih
  | item _ _ _ _ ih ihrest => exact List.forall_mem_cons.mpr ⟨ih, ihrest⟩
  | entry _ _ _ _ ih => exact ih
  | lastField _ _ ih => exact fun hbefore => hbefore.put _ ih
  | field _ _ _ _ ih ihrest => exact fun hbefore => ihrest (hbefore.put _ ih)

/-- Whatever is read is a payload. -/
theorem isPayload_of_read (h : read t = .ok v) : v.IsPayload := by
  obtain ⟨_, _, _, -, hw, -⟩ := read_eq_ok_iff.mp h
  exact hw.isPayload

theorem isJson_of_read (h : read t = .ok v) : v.IsJson := (isPayload_of_read h).isJson

theorem Spells.head_eq_bracket (h : Spells words (.value v) w) :
    w.head? = some (.scalar '[') ↔ ∃ vs, v = .list vs := by
  have hscalar {p : CodePoint} {u : Text} (hp : p ∉ openers) (hv : ∀ vs, v ≠ .list vs) :
      (p :: u).head? = some (.scalar '[') ↔ ∃ vs, v = .list vs := by
    refine iff_of_false ?_ fun ⟨vs, hvs⟩ => hv vs hvs
    rintro h
    exact hp (Option.some.inj h ▸ by decide)
  cases h with
  | @name name _ h =>
    obtain ⟨p, q, u, hname, ⟨-, hp⟩, -⟩ := words_start h
    rw [hname]
    refine hscalar hp ?_
    rintro vs rfl
    simp [words] at h
  | number h =>
    obtain ⟨p, u, rfl, -, hp⟩ := h.canStart
    refine hscalar hp ?_
    rintro vs rfl
    cases h
  | text => simp [inQuotes]
  | noItems => simp
  | array => simp
  | noFields => simp
  | object => simp

theorem exists_list_of_read (h : read t = .ok v) (hhead : t.head? = some (.scalar '[')) :
    ∃ vs, v = .list vs := by
  obtain ⟨sp, w, sp', hsp, hw, -, rfl⟩ := read_eq_ok_iff.mp h
  obtain ⟨p, u, rfl, -⟩ := hw.canStart
  cases sp with
  | nil => exact hw.head_eq_bracket.mp hhead
  | cons q sp =>
    obtain rfl := Option.some.inj hhead
    cases hsp _ List.mem_cons_self

end Json

end Proceedings
