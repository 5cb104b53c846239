import Proceedings.Proofs.Schema.Admits

/-! # Validators

Artifacts are checked by a package of its own. What is assumed of it is what its documents say: a
value is valid if it keeps to each keyword of a schema, with its parts checked in the same way, and
the error that is raised is a violation at a shortest path. This determines which values are valid,
and it is true of the validator that is written out here.
-/

namespace Proceedings

def Keyword.parts : Keyword → List Schema
  | .properties schemas => schemas.map (·.2)
  | .items s => [s]
  | .choice condition consequence alternative => [condition, consequence, alternative]
  | .not s => [s]
  | .anyOf schemas => schemas
  | _ => []

theorem Keyword.sizeOf_lt_of_mem_parts {k : Keyword} {s : Schema} (h : s ∈ k.parts) :
    sizeOf s < sizeOf k := by
  cases k with
  | properties schemas =>
    obtain ⟨⟨name, _⟩, hs, rfl⟩ := List.mem_map.mp h
    have hsize := List.sizeOf_lt_of_mem hs
    simp only [properties.sizeOf_spec, Prod.mk.sizeOf_spec] at hsize ⊢
    omega
  | anyOf schemas =>
    have hsize := List.sizeOf_lt_of_mem (show s ∈ schemas from h)
    simp only [anyOf.sizeOf_spec]
    omega
  | items | not =>
    obtain rfl := List.mem_singleton.mp h
    simp
  | choice condition consequence alternative =>
    simp only [parts, List.mem_cons, List.not_mem_nil, or_false] at h
    obtain rfl | rfl | rfl := h <;> simp only [choice.sizeOf_spec] <;> omega
  | _ => cases h

theorem Keyword.holds_congr {accepts accepts' : Schema → Value → Bool} {declared : List Text}
    {v : Value} {k : Keyword} (h : ∀ s ∈ k.parts, ∀ w, accepts s w = accepts' s w) :
    k.Holds accepts declared v ↔ k.Holds accepts' declared v := by
  cases k with
  | properties schemas =>
    refine forall₂_congr fun fields _ => forall₂_congr fun s hs => forall₂_congr fun w _ => ?_
    rw [h s.2 (List.mem_map_of_mem hs)]
  | anyOf schemas =>
    refine exists_congr fun s => and_congr_right fun hs => ?_
    rw [h s hs]
  | items s | not s => simp only [Holds, h s List.mem_cons_self]
  | choice condition consequence alternative =>
    simp only [parts, List.forall_mem_cons] at h
    simp only [Holds, h.1, h.2.1, h.2.2.1]
  | _ => exact Iff.rfl

namespace Violation

theorem length_le_of_outranks {d e : Violation} (h : d.outranks e = true) :
    d.path.length ≤ e.path.length := by
  by_contra hlt
  simp [outranks, show d.path.length ≠ e.path.length by omega] at h
  omega

theorem length_le_of_not_outranks {d e : Violation} (h : d.outranks e = false) :
    e.path.length ≤ d.path.length := by
  by_contra hlt
  simp [outranks, show d.path.length ≠ e.path.length by omega] at h
  omega

/-- What is reported is one of the violations, at a shortest path. -/
theorem foremost?_eq_some {violations : List Violation} {e : Violation}
    (h : foremost? violations = some e) :
    e ∈ violations ∧ ∀ d ∈ violations, e.path.length ≤ d.path.length := by
  cases violations with
  | nil => cases h
  | cons first rest =>
    obtain rfl := Option.some.inj h
    clear h
    induction rest generalizing first with
    | nil => simp
    | cons d rest ih =>
      rw [List.foldl_cons]
      cases hrank : d.outranks first with
      | true =>
        obtain ⟨hmem, hle⟩ := ih d
        have hfirst := (hle d List.mem_cons_self).trans (length_le_of_outranks hrank)
        exact ⟨List.mem_cons_of_mem _ hmem, List.forall_mem_cons.mpr ⟨hfirst, hle⟩⟩
      | false =>
        obtain ⟨hmem, hle⟩ := ih first
        obtain ⟨hfirst, hrest⟩ := List.forall_mem_cons.mp hle
        have hd := hfirst.trans (length_le_of_not_outranks hrank)
        have hsub := (List.sublist_cons_self d rest).cons_cons first
        exact ⟨hsub.subset hmem,
          List.forall_mem_cons.mpr ⟨hfirst, List.forall_mem_cons.mpr ⟨hd, hrest⟩⟩⟩

end Violation

namespace Schema

/-- What is documented of a validator: it accepts what keeps to every keyword, and reports a
violation at a shortest path. -/
structure IsValidator (validate : Schema → Value → Except Violation Unit) : Prop where
  ok_iff : ∀ ks v, validate (.of ks) v = .ok () ↔
    ∀ k ∈ ks, k.Holds (fun s w => (validate s w).isOk) (Keyword.declaredKeys ks) v
  error : ∀ s v e, validate s v = .error e →
    e ∈ s.violations v ∧ ∀ d ∈ s.violations v, e.path.length ≤ d.path.length

/-- Validators accept the same values, by recursion on the schema. -/
theorem IsValidator.ok_iff_admits {validate : Schema → Value → Except Violation Unit}
    (h : IsValidator validate) (s : Schema) (v : Value) :
    validate s v = .ok () ↔ s.admits v = true := by
  match s with
  | .of ks =>
    rw [h.ok_iff, admits_of]
    refine forall₂_congr fun k hk => Keyword.holds_congr fun s hs w => ?_
    have hpart := Keyword.sizeOf_lt_of_mem_parts hs
    have hkeyword := List.sizeOf_lt_of_mem hk
    have haccepts := h.ok_iff_admits s w
    cases hw : validate s w <;> simp_all [Except.isOk, Except.toBool]
termination_by sizeOf s
decreasing_by
  simp only [Schema.of.sizeOf_spec]
  omega

theorem isOk_validate (s : Schema) (v : Value) : (s.validate v).isOk = s.admits v := by
  have h := validate_eq_ok (s := s) (v := v)
  cases hv : s.validate v <;> simp_all [Except.isOk, Except.toBool]

theorem isValidator_validate : IsValidator validate where
  ok_iff ks v := by
    simp only [validate_eq_ok, admits_of, isOk_validate]
  error s v e h := by
    unfold validate at h
    split at h
    · cases h
    · next d hd =>
      obtain rfl := Except.error.inj h
      exact Violation.foremost?_eq_some hd

end Schema

end Proceedings
