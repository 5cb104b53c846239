import Proceedings.Proofs.Answer
import Proceedings.Text.Utf8

/-! # Texts and their bytes

A text has bytes unless half of a surrogate pair stands alone in it. In ASCII the bytes are the
numbers of its code points.
-/

namespace Proceedings.Utf8

variable {t : Text}

theorem exists_encodeFrom_iff (position : Nat) :
    (∃ bytes, encodeFrom position t = .ok bytes) ↔ ∀ p ∈ t, p.isSurrogate = false := by
  induction t generalizing position with
  | nil => simp [encodeFrom]
  | cons p t ih =>
    rw [List.forall_mem_cons, ← ih (position + 1)]
    cases p with
    | surrogate u => simp [encodeFrom, CodePoint.isSurrogate, CodePoint.toChar?]
    | scalar c =>
      rw [encodeFrom, exists_map_eq_ok]
      simp [CodePoint.isSurrogate, CodePoint.toChar?]

/-- A text has bytes exactly if no surrogate stands in it. -/
theorem exists_encode_iff : (∃ bytes, encode t = .ok bytes) ↔ ∀ p ∈ t, p.isSurrogate = false :=
  exists_encodeFrom_iff 0

theorem exists_encode_error_iff :
    (∃ e, encode t = .error e) ↔ ∃ p ∈ t, p.isSurrogate = true := by
  have hok := exists_encode_iff (t := t)
  constructor
  · rintro ⟨e, he⟩
    by_contra hnone
    push Not at hnone
    obtain ⟨bytes, hbytes⟩ := hok.mpr fun p hp => Bool.eq_false_iff.mpr (hnone p hp)
    rw [he] at hbytes
    cases hbytes
  · rintro ⟨p, hp, hsurrogate⟩
    cases h : encode t with
    | error e => exact ⟨e, rfl⟩
    | ok bytes =>
      rw [hok.mp ⟨bytes, h⟩ p hp] at hsurrogate
      cases hsurrogate

theorem character_ascii {c : Char} (h : c.toNat < 0x80) (rest : List UInt8) :
    character c.toNat.toUInt8 rest = .ok (c, 0) := by
  have hnat : c.toNat.toUInt8.toNat = c.toNat := by
    rw [Nat.toUInt8, UInt8.toNat_ofNat']
    omega
  have hbyte : c.toNat.toUInt8 < 0x80 := by
    rw [UInt8.lt_iff_toNat_lt, hnat]
    exact h
  rw [character.eq_def, if_pos hbyte, hnat, Char.ofNat_toNat]

theorem decode_ascii (h : ∀ p ∈ t, p.toNat < 0x80) :
    decode (t.map fun p => p.toNat.toUInt8) = .ok t := by
  have hfrom (position : Nat) :
      decodeFrom 0 position (t.map fun p => p.toNat.toUInt8) = .ok t := by
    induction t generalizing position with
    | nil => rfl
    | cons p t ih =>
      obtain ⟨hp, ht⟩ := List.forall_mem_cons.mp h
      cases p with
      | surrogate u =>
        have hlow : 0xD800 ≤ (CodePoint.surrogate u).toNat := Nat.le_add_right _ _
        omega
      | scalar c =>
        change decodeFrom 0 position (c.toNat.toUInt8 :: t.map fun p => p.toNat.toUInt8) = _
        rw [decodeFrom, character_ascii hp]
        dsimp only
        rw [ih ht]
        rfl
  exact hfrom 0

end Proceedings.Utf8
