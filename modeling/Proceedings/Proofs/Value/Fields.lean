import Proceedings.Proofs.Answer
import Proceedings.Wire.Encode

/-! # Fields of objects

Fields under different keys do not disturb each other: what is put under a key is found there, and
what stands under other keys stays.
-/

namespace Proceedings

theorem Text.ofString_inj {a b : String} : Text.ofString a = Text.ofString b ↔ a = b := by
  unfold Text.ofString
  rw [List.map_inj_right fun _ _ => CodePoint.scalar.inj, String.toList_inj]

namespace Fields

variable {fields : Fields} {k l : Text} {v : Value}

@[simp] theorem get?_nil (k : Text) : get? [] k = none := rfl

theorem get?_cons (k l : Text) (v : Value) (rest : Fields) :
    get? ((k, v) :: rest) l = if k = l then some v else get? rest l := by
  by_cases h : k = l <;> simp [get?, h]

theorem get?_append (first second : Fields) (k : Text) :
    get? (first ++ second) k = (get? first k).or (get? second k) := by
  rw [get?, get?, get?, List.find?_append, Option.map_or]

theorem has_iff_mem : fields.has k = true ↔ k ∈ fields.map (·.1) := by
  simp [has, List.mem_map]

theorem has_iff_get? : fields.has k = true ↔ ∃ v, fields.get? k = some v := by
  induction fields with
  | nil => simp [has]
  | cons f rest ih =>
    obtain ⟨l, v⟩ := f
    by_cases h : l = k
    · simp [has, get?_cons, h]
    · have hrest : Fields.has ((l, v) :: rest) k = Fields.has rest k := by simp [has, h]
      rw [hrest, get?_cons, if_neg h, ih]

theorem get?_of_not_mem (h : k ∉ fields.map (·.1)) : fields.get? k = none := by
  cases hget : fields.get? k with
  | none => rfl
  | some v => exact absurd (has_iff_mem.mp (has_iff_get?.mpr ⟨v, hget⟩)) h

theorem exists_of_get? (h : fields.get? k = some v) : ∃ f ∈ fields, f.2 = v := by
  obtain ⟨f, hf, hv⟩ := Option.map_eq_some_iff.mp h
  exact ⟨f, List.mem_of_find?_eq_some hf, hv⟩

theorem put_of_not_mem (h : k ∉ fields.map (·.1)) (v : Value) :
    fields.put k v = fields ++ [(k, v)] := by
  induction fields with
  | nil => rfl
  | cons f rest ih =>
    obtain ⟨l, w⟩ := f
    simp only [List.map_cons, List.mem_cons, not_or] at h
    have hl : (l == k) = false := beq_eq_false_iff_ne.mpr (Ne.symm h.1)
    simp [put, hl, ih h.2]

theorem keys_put (fields : Fields) (k : Text) (v : Value) :
    (fields.put k v).map (·.1) =
      if k ∈ fields.map (·.1) then fields.map (·.1) else fields.map (·.1) ++ [k] := by
  induction fields with
  | nil => rfl
  | cons f rest ih =>
    obtain ⟨l, w⟩ := f
    by_cases hl : l = k
    · subst hl
      simp [put]
    · have hk : k ≠ l := Ne.symm hl
      simp only [put, beq_iff_eq, hl, if_false, List.map_cons, List.mem_cons, hk, false_or, ih]
      split <;> rfl

theorem nodup_keys_put (h : (fields.map (·.1)).Nodup) (k : Text) (v : Value) :
    ((fields.put k v).map (·.1)).Nodup := by
  rw [keys_put]
  split
  · exact h
  · next hk => exact List.nodup_append.mpr ⟨h, List.nodup_singleton k, by grind⟩

theorem mem_put {f : Text × Value} (h : f ∈ fields.put k v) : f ∈ fields ∨ f.2 = v := by
  induction fields with
  | nil => exact .inr (congrArg Prod.snd (List.mem_singleton.mp h))
  | cons g rest ih =>
    obtain ⟨l, w⟩ := g
    rw [put] at h
    split at h
    · rcases List.mem_cons.mp h with rfl | h
      · exact .inr rfl
      · exact .inl (List.mem_cons_of_mem _ h)
    · rcases List.mem_cons.mp h with rfl | h
      · exact .inl List.mem_cons_self
      · exact (ih h).imp_left (List.mem_cons_of_mem _)

theorem forall_put {q : Value → Prop} (hfields : ∀ f ∈ fields, q f.2) (k : Text) (hv : q v) :
    ∀ f ∈ fields.put k v, q f.2 := by
  intro f hf
  rcases mem_put hf with hf | hf
  · exact hfields f hf
  · rw [hf]
    exact hv

end Fields

namespace Wire

@[simp] theorem key_inj {a b : String} : key a = key b ↔ a = b := Text.ofString_inj

/-- A field that is left out if its value is absent. -/
def present (name : String) (v : Value) : Fields :=
  if isAbsent v then [] else [(key name, v)]

theorem putIfPresent_eq {fields : Fields} {name : String} (h : key name ∉ fields.map (·.1))
    (v : Value) : putIfPresent fields (key name) v = fields ++ present name v := by
  unfold putIfPresent present
  split
  · simp
  · exact Fields.put_of_not_mem h v

/-- What stands under a key counts only if it is not left out. -/
theorem forall_present_iff {name : String} {v : Value} {q : Value → Prop} :
    (∀ f ∈ present name v, q f.2) ↔ (isAbsent v = false → q v) := by
  unfold present
  split <;> simp [*]

theorem forall_present {v : Value} {q : Value → Prop} (name : String) (h : q v) :
    ∀ f ∈ present name v, q f.2 := forall_present_iff.mpr fun _ => h

theorem mem_keys_present {name : String} {v : Value} {k : Text} :
    k ∈ (present name v).map (·.1) ↔ isAbsent v = false ∧ k = key name := by
  unfold present
  split <;> simp [*]

theorem keys_present (name : String) (v : Value) :
    ((present name v).map (·.1)).Sublist [key name] := by
  unfold present
  split <;> simp

theorem get?_present (name other : String) (v : Value) :
    (present name v).get? (key other) =
      if name = other ∧ isAbsent v = false then some v else none := by
  unfold present
  split <;> simp [*, Fields.get?_cons]

theorem get?_present_list (name : String) (items : List Value) :
    (present name (.list items)).get? (key name) =
      if items = [] then none else some (.list items) := by
  cases items <;> simp [get?_present, isAbsent]

end Wire

namespace Fields

/-- Such a value stands under a key. -/
def Holds (fields : Fields) (name : String) (p : Value → Prop) : Prop :=
  ∃ v, fields.get? (Wire.key name) = some v ∧ p v

/-- Such a value stands under a key, or none. -/
def MayHold (fields : Fields) (name : String) (p : Value → Prop) : Prop :=
  ∀ v, fields.get? (Wire.key name) = some v → p v

def Within (fields : Fields) (names : List String) : Prop :=
  ∀ f ∈ fields, f.1 ∈ names.map Wire.key

def valueAt (fields : Fields) (name : String) : Value :=
  Value.ofOption (fields.get? (Wire.key name))

variable {fields : Fields} {name : String} {v : Value} {p : Value → Prop}

/-- What holds of null need not be there. -/
theorem mayHold_iff_valueAt (h : p .null) : fields.MayHold name p ↔ p (fields.valueAt name) := by
  unfold MayHold valueAt
  cases fields.get? (Wire.key name) <;> simp [Value.ofOption, h]

theorem valueAt_of_get? (h : fields.get? (Wire.key name) = some v) : fields.valueAt name = v := by
  rw [valueAt, h]
  rfl

theorem within_of_keys {names : List String}
    (h : (fields.map (·.1)).Sublist (names.map Wire.key)) : fields.Within names :=
  fun _ hf => h.subset (List.mem_map_of_mem hf)

theorem Within.get?_of_not_mem {names : List String} (h : fields.Within names) {k : Text}
    (hk : k ∉ names.map Wire.key) : fields.get? k = none := by
  refine Fields.get?_of_not_mem fun hmem => hk ?_
  obtain ⟨f, hf, rfl⟩ := List.mem_map.mp hmem
  exact h f hf

end Fields

end Proceedings
