import Mathlib
import Proceedings.Proofs.Answer
import Proceedings.Web.Address

/-! # Readers of addresses

Addresses are read by a package of its own. What is assumed of it is what its documents say: control
characters of ASCII are refused, and what has no scheme or no host is relative, so it becomes a path
at the top, with neither. It is true of the reader that is written out here.
-/

namespace Proceedings.Address

def IsVisible (c : Char) : Prop := 0x20 ≤ c.toNat ∧ c.toNat ≠ 0x7F

/-- What is documented of a reader of addresses: it refuses what has control characters, and schemes
without a host. -/
structure IsReader (read : String → Except AddressFault Address) : Prop where
  visible : ∀ url a, read url = .ok a → ∀ c ∈ url.toList, IsVisible c
  host : ∀ url a, read url = .ok a → a.scheme ≠ [] → a.host ≠ []

variable {a : Address} {url : List Char}

theorem unprintable?_eq_none (h : unprintable? url = none) : ∀ c ∈ url, IsVisible c := by
  intro c hc
  obtain ⟨i, hi, rfl⟩ := List.getElem_of_mem hc
  have hmem : (url[i], i) ∈ url.zipIdx := List.mk_mem_zipIdx_iff_getElem?.mpr (by simp)
  have hvisible := List.find?_eq_none.mp h _ hmem
  simp only [decide_eq_true_eq, not_or, Bool.or_eq_true] at hvisible
  exact ⟨by omega, hvisible.2⟩

theorem visible_of_ofChars (h : ofChars url = .ok a) : ∀ c ∈ url, IsVisible c := by
  refine unprintable?_eq_none ?_
  cases hc : unprintable? url with
  | none => rfl
  | some found =>
    unfold ofChars at h
    rw [hc] at h
    by_cases hlong : maxLength < url.length
    · rw [if_pos hlong] at h
      cases h
    · rw [if_neg hlong] at h
      cases h

theorem scheme_of_atTop {b : Address} (h : a.atTop = .ok b) : b.scheme = [] := by
  unfold atTop at h
  dsimp only at h
  split at h
  · cases h
  · split at h
    · cases h
    · obtain rfl := Except.ok.inj h
      rfl

theorem isReader_ofString : IsReader ofString where
  visible url a h := by
    obtain ⟨b, hb, -⟩ := bind_eq_ok.mp h
    exact visible_of_ofChars hb
  host url a h hscheme := by
    obtain ⟨b, -, h⟩ := bind_eq_ok.mp h
    split at h
    · next habsolute =>
      obtain rfl := Except.ok.inj h
      simp [isAbsolute] at habsolute
      exact habsolute.2
    · exact absurd (scheme_of_atTop h) hscheme

theorem unreachable?_eq_none (h : a.unreachable? = none) :
    a.scheme ≠ [] ∧ schemes.contains (String.ofList a.scheme) = true := by
  unfold unreachable? at h
  split at h
  · cases h
  · next hscheme =>
    split at h
    · next hspoken => exact ⟨by simpa using hscheme, hspoken⟩
    · cases h

end Proceedings.Address
