import Mathlib
import Proceedings.Schema.Basic

/-! # What schemas admit

A schema admits a value if and only if the value keeps to each of its keywords. What it takes to
keep to a keyword is stated without the violations that are reported, given which schemas accept
which values.
-/

namespace Proceedings

variable {declared : List Text} {v : Value}

/-- What it takes to keep to a keyword, next to a schema for each of the declared keys. -/
def Keyword.Holds (accepts : Schema → Value → Bool) (declared : List Text) (v : Value) :
    Keyword → Prop
  | .type t => t.admits v = true
  | .minLength => v.text? ≠ some []
  | .minItems => v ≠ .list []
  | .pattern p => ∀ t, v.text? = some t → p.accepts t = true
  | .enum values => ∃ s ∈ values, v.text? = some (Text.ofString s)
  | .const value => v.text? = some (Text.ofString value)
  | .required keys =>
    ∀ fields, v = .object fields → ∀ k ∈ keys, Fields.has fields (Text.ofString k) = true
  | .closed => ∀ fields, v = .object fields → ∀ f ∈ fields, f.1 ∈ declared
  | .properties schemas =>
    ∀ fields, v = .object fields → ∀ s ∈ schemas, ∀ w,
      Fields.get? fields (Text.ofString s.1) = some w → accepts s.2 w = true
  | .items s => ∀ items, v = .list items → ∀ w ∈ items, accepts s w = true
  | .choice condition consequence alternative =>
    (accepts condition v = true → accepts consequence v = true) ∧
      (accepts condition v = false → accepts alternative v = true)
  | .not s => accepts s v = false
  | .anyOf schemas => ∃ s ∈ schemas, accepts s v = true

namespace JsonType

theorem admits_string : JsonType.string.admits v = true ↔ ∃ t, v.text? = some t :=
  Option.isSome_iff_exists

theorem admits_number :
    JsonType.number.admits v = true ↔ (∃ n, v = .int n) ∨ ∃ x, v = .float x := by
  cases v <;> simp [admits]

theorem admits_array : JsonType.array.admits v = true ↔ ∃ items, v = .list items := by
  cases v <;> simp [admits]

theorem admits_object : JsonType.object.admits v = true ↔ ∃ fields, v = .object fields := by
  cases v <;> simp [admits]

end JsonType

namespace Schema

theorem extraKeys_eq_nil {fields : Fields} :
    extraKeys declared fields = [] ↔ ∀ f ∈ fields, f.1 ∈ declared := by
  rw [← List.length_eq_zero_iff, extraKeys, List.length_mergeSort, List.length_eq_zero_iff]
  simp

theorem propertyViolations_eq_nil {schemas : List (String × Schema)} {fields : Fields} :
    propertyViolations schemas fields = [] ↔
      ∀ s ∈ schemas, ∀ w, fields.get? (Text.ofString s.1) = some w → s.2.admits w = true := by
  induction schemas with
  | nil => simp [propertyViolations]
  | cons s schemas ih =>
    rw [propertyViolations, List.append_eq_nil_iff, ih, List.forall_mem_cons]
    refine and_congr_left fun _ => ?_
    cases h : Fields.get? fields (Text.ofString s.1) <;> simp [admits]

/-- The index of an item shows in the path of its violations only. -/
theorem itemViolations_eq_nil {s : Schema} {items : List Value} :
    ((items.map s.violations).zipIdx.flatMap fun (found, i) =>
      found.map (Violation.under (.index i))) = [] ↔ ∀ w ∈ items, s.admits w = true := by
  have hfst : (items.map s.violations).zipIdx.map Prod.fst = items.map s.violations := by simp
  rw [List.flatMap_eq_nil_iff]
  constructor
  · intro h w hw
    have hfound : s.violations w ∈ (items.map s.violations).zipIdx.map Prod.fst := by
      rw [hfst]
      exact List.mem_map_of_mem hw
    obtain ⟨p, hp, hpw⟩ := List.mem_map.mp hfound
    have hnil := List.map_eq_nil_iff.mp (h p hp)
    rw [admits, ← hpw, hnil]
    rfl
  · intro h p hp
    have hfound : p.1 ∈ items.map s.violations := hfst ▸ List.mem_map_of_mem hp
    obtain ⟨w, hw, hpw⟩ := List.mem_map.mp hfound
    have hnil := List.isEmpty_iff.mp (h w hw)
    simp [← hpw, hnil]

theorem anyHolds_iff {schemas : List Schema} :
    anyHolds schemas v = true ↔ ∃ s ∈ schemas, s.admits v = true := by
  induction schemas with
  | nil => simp [anyHolds]
  | cons s schemas ih => simp [anyHolds, ih, admits]

end Schema

namespace Keyword

/-- A value violates no keyword to which it keeps, and every other. -/
theorem violations_eq_nil {typed : Bool} {k : Keyword} :
    k.violations typed declared v = [] ↔ k.Holds Schema.admits declared v := by
  cases k with
  | type | minLength | enum | const => simp [violations, Holds]
  | minItems | pattern | required =>
    simp only [violations, Holds]
    split <;> simp_all
  | closed =>
    simp only [violations, Holds]
    split
    · simp [Schema.extraKeys_eq_nil]
    · simp_all
  | properties =>
    simp only [violations, Holds]
    split
    · simp only [Schema.propertyViolations_eq_nil, Value.object.injEq, forall_eq']
    · simp_all
  | items =>
    simp only [violations, Holds]
    split
    · simp only [Schema.itemViolations_eq_nil, Value.list.injEq, forall_eq']
    · simp_all
  | choice condition consequence alternative =>
    rw [violations, Holds, ← Schema.admits]
    cases condition.admits v <;> simp [Schema.admits]
  | not s =>
    rw [violations, Holds, ← Schema.admits]
    cases s.admits v <;> simp
  | anyOf => simp [violations, Holds, ← Schema.anyHolds_iff]

theorem allViolations_eq_nil {typed : Bool} {ks : List Keyword} :
    allViolations typed declared ks v = [] ↔ ∀ k ∈ ks, k.Holds Schema.admits declared v := by
  induction ks with
  | nil => simp [allViolations]
  | cons k ks ih =>
    rw [allViolations, List.append_eq_nil_iff, ih, violations_eq_nil, List.forall_mem_cons]

end Keyword

namespace Schema

theorem admits_of {ks : List Keyword} :
    (Schema.of ks).admits v = true ↔ ∀ k ∈ ks, k.Holds admits (Keyword.declaredKeys ks) v := by
  rw [admits, violations, List.isEmpty_iff, Keyword.allViolations_eq_nil]

theorem admits_of_type {t : JsonType} {ks : List Keyword} :
    (Schema.of (.type t :: ks)).admits v = true ↔
      t.admits v = true ∧ ∀ k ∈ ks, k.Holds admits (Keyword.declaredKeys ks) v := by
  rw [admits_of, List.forall_mem_cons]
  rfl

theorem admits_of_array {ks : List Keyword} :
    (Schema.of (.type .array :: ks)).admits v = true ↔
      ∃ items, v = .list items ∧
        ∀ k ∈ ks, k.Holds admits (Keyword.declaredKeys ks) (.list items) := by
  rw [admits_of_type, JsonType.admits_array]
  constructor
  · rintro ⟨⟨items, rfl⟩, h⟩
    exact ⟨items, rfl, h⟩
  · rintro ⟨items, rfl, h⟩
    exact ⟨⟨items, rfl⟩, h⟩

theorem admits_of_object {ks : List Keyword} :
    (Schema.of (.type .object :: ks)).admits v = true ↔
      ∃ fields, v = .object fields ∧
        ∀ k ∈ ks, k.Holds admits (Keyword.declaredKeys ks) (.object fields) := by
  rw [admits_of_type, JsonType.admits_object]
  constructor
  · rintro ⟨⟨fields, rfl⟩, h⟩
    exact ⟨fields, rfl, h⟩
  · rintro ⟨fields, rfl, h⟩
    exact ⟨⟨fields, rfl⟩, h⟩

theorem validate_eq_ok {s : Schema} : s.validate v = .ok () ↔ s.admits v = true := by
  rw [admits, validate]
  cases s.violations v <;> simp [Violation.foremost?]

end Schema

end Proceedings
