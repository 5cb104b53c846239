import Mathlib
import Proceedings.Binary64.Basic

/-! # The range of binary numbers

Integers have a nearest binary number up to half a step beyond the greatest finite one.
-/

namespace Proceedings.Binary64

variable {n : Nat}

/-- The first 53 bits of an integer, filled up with zeros. -/
def leading (n : Nat) : Nat := n * significands / 2 ^ n.log2

def trailing (n : Nat) : Nat := n * significands % 2 ^ n.log2

theorem significands_eq : significands = 2 ^ 52 := rfl

theorem log2_mul_two_pow (hn : n ≠ 0) (k : Nat) : (n * 2 ^ k).log2 = n.log2 + k := by
  have hk : 0 < 2 ^ k := Nat.pow_pos (by decide)
  have hne : n * 2 ^ k ≠ 0 := Nat.mul_ne_zero hn (Nat.ne_of_gt hk)
  rw [Nat.log2_eq_iff hne, Nat.pow_add, Nat.add_right_comm, Nat.pow_add]
  exact ⟨Nat.mul_le_mul_right _ (Nat.log2_self_le hn),
    Nat.mul_lt_mul_of_pos_right Nat.lt_log2_self hk⟩

theorem leading_bounds (hn : n ≠ 0) : significands ≤ leading n ∧ leading n < 2 * significands := by
  have hpow : 0 < 2 ^ n.log2 := Nat.pow_pos (by decide)
  constructor
  · rw [leading, Nat.le_div_iff_mul_le hpow, Nat.mul_comm]
    exact Nat.mul_le_mul_right _ (Nat.log2_self_le hn)
  · rw [leading, Nat.div_lt_iff_lt_mul hpow]
    have hlt : n < 2 ^ n.log2 * 2 := by simpa [Nat.pow_succ] using Nat.lt_log2_self (n := n)
    calc n * significands
        < 2 ^ n.log2 * 2 * significands := Nat.mul_lt_mul_of_pos_right hlt (by decide)
      _ = 2 * significands * 2 ^ n.log2 := by
          rw [Nat.mul_assoc, Nat.mul_comm]

/-- The first 53 bits of an integer, rounded by the others, are the end of its rank. -/
theorem nearestRank_one (hn : n ≠ 0) :
    nearestRank n 1 =
      if 2 ^ n.log2 < 2 * trailing n ∨ 2 * trailing n = 2 ^ n.log2 ∧ leading n % 2 = 1 then
        (n.log2 + 1022) * significands + leading n + 1
      else (n.log2 + 1022) * significands + leading n := by
  generalize hscale : 1022 = scale
  have hshift : n <<< 1074 = n * significands * 2 ^ scale := by
    have h1074 : 1074 = 52 + scale := by omega
    rw [h1074, Nat.shiftLeft_eq, Nat.mul_assoc, significands_eq, Nat.pow_add]
  have hlog : (n * significands * 2 ^ scale).log2 - 52 = n.log2 + scale := by
    rw [significands_eq, log2_mul_two_pow, log2_mul_two_pow hn]
    · omega
    · exact Nat.mul_ne_zero hn (by decide)
  have hpow : 0 < 2 ^ scale := Nat.pow_pos (by decide)
  have hdiv : n * significands * 2 ^ scale / (2 ^ n.log2 * 2 ^ scale) = leading n :=
    Nat.mul_div_mul_right _ _ hpow
  have hmod : n * significands * 2 ^ scale % (2 ^ n.log2 * 2 ^ scale) = trailing n * 2 ^ scale :=
    Nat.mul_mod_mul_right _ _ _
  have hlt : 2 ^ n.log2 * 2 ^ scale < 2 * trailing n * 2 ^ scale ↔ 2 ^ n.log2 < 2 * trailing n :=
    Nat.mul_lt_mul_right hpow
  have heq : 2 * trailing n * 2 ^ scale = 2 ^ n.log2 * 2 ^ scale ↔
      2 * trailing n = 2 ^ n.log2 := Nat.mul_left_inj (Nat.ne_of_gt hpow)
  have hodd : ((n.log2 + scale) * significands + leading n) % 2 = leading n % 2 := by
    rw [significands]
    omega
  simp only [nearestRank, Nat.div_one, hshift, hlog, Nat.shiftLeft_eq, Nat.one_mul, Nat.pow_add,
    hdiv, hmod, ← Nat.mul_assoc, Bool.or_eq_true, Bool.and_eq_true, decide_eq_true_eq, beq_iff_eq,
    hlt, heq, hodd]

theorem nearestRank_one_bounds (hn : n ≠ 0) :
    (n.log2 + 1023) * significands ≤ nearestRank n 1 ∧
      nearestRank n 1 ≤ (n.log2 + 1024) * significands := by
  obtain ⟨hlow, hhigh⟩ := leading_bounds hn
  have hnext : (n.log2 + 1023) * significands = (n.log2 + 1022) * significands + significands :=
    Nat.succ_mul _ _
  have hafter : (n.log2 + 1024) * significands = (n.log2 + 1023) * significands + significands :=
    Nat.succ_mul _ _
  rw [nearestRank_one hn]
  split <;> omega

theorem carry_iff {k : Nat} (hlow : 2 ^ (k + 53) ≤ n) (hhigh : n < 2 ^ (k + 54)) :
    leading n + 1 = 2 * significands ∧ 2 ^ n.log2 ≤ 2 * trailing n ↔
      2 ^ (k + 54) - 2 ^ k ≤ n := by
  have ha : 0 < 2 ^ k := Nat.pow_pos (by decide)
  have hpow (m : Nat) : 2 ^ (k + m) = 2 ^ m * 2 ^ k := by rw [Nat.add_comm, Nat.pow_add]
  have hlog : n.log2 = k + 53 := by
    have hn : n ≠ 0 := by
      rw [hpow] at hlow
      omega
    exact (Nat.log2_eq_iff hn).mpr ⟨hlow, hhigh⟩
  rw [hpow] at hlow hhigh
  rw [leading, trailing, hlog, hpow, hpow]
  generalize 2 ^ k = a at *
  have hstep : 2 ^ 53 * a = 2 * a * significands := by
    rw [significands]
    omega
  have hdiv : n * significands / (2 ^ 53 * a) = n / (2 * a) := by
    rw [hstep, Nat.mul_div_mul_right _ _ (by decide)]
  have hmod : n * significands % (2 ^ 53 * a) = n % (2 * a) * significands := by
    rw [hstep, Nat.mul_mod_mul_right]
  have hrest : n % (2 * a) < 2 * a := Nat.mod_lt _ (by omega)
  have hsplit : 2 * a * (n / (2 * a)) + n % (2 * a) = n := Nat.div_add_mod _ _
  rw [hdiv, hmod]
  generalize n / (2 * a) = q at *
  generalize n % (2 * a) = r at *
  by_cases hq : q + 1 = 2 * significands
  · have hfull : 2 * a * q = 2 * a * (2 * significands - 1) := by rw [← hq, Nat.add_sub_cancel]
    rw [significands] at *
    omega
  · have hbound : q < 2 * significands := by
      refine Nat.lt_of_not_le fun h => ?_
      have := Nat.mul_le_mul_left (2 * a) h
      rw [significands] at this
      omega
    have hless : 2 * a * (q + 2) ≤ 2 * a * (2 * significands) :=
      Nat.mul_le_mul_left _ (by omega)
    rw [Nat.mul_add] at hless
    rw [significands] at *
    omega

/-- An integer rounds beyond the finite numbers if and only if it reaches the middle between the
greatest of them and 2 to the 1024th. -/
theorem rank_overflow_iff : 2047 * significands ≤ nearestRank n 1 ↔ 2 ^ 1024 - 2 ^ 970 ≤ n := by
  generalize hk : 970 = k
  have h1024 : 1024 = k + 54 := by omega
  rw [h1024]
  have hpow (m : Nat) : 2 ^ (k + m) = 2 ^ m * 2 ^ k := by rw [Nat.add_comm, Nat.pow_add]
  have ha : 0 < 2 ^ k := Nat.pow_pos (by decide)
  rcases Nat.eq_zero_or_pos n with rfl | hpos
  · have hzero : nearestRank 0 1 = 0 := by decide
    rw [hzero, hpow, significands]
    omega
  have hn : n ≠ 0 := by omega
  rcases Nat.lt_trichotomy n.log2 (k + 53) with hlog | hlog | hlog
  · have hsmall := (Nat.log2_lt hn).mp hlog
    have hscaled : (n.log2 + 1024) * significands ≤ 2046 * significands :=
      Nat.mul_le_mul_right _ (by omega)
    have hrank := (nearestRank_one_bounds hn).2
    rw [hpow] at hsmall ⊢
    rw [significands] at *
    omega
  · obtain ⟨hmin, hmax⟩ := (Nat.log2_eq_iff hn).mp hlog
    obtain ⟨hlow, hhigh⟩ := leading_bounds hn
    rw [nearestRank_one hn, ← carry_iff hmin hmax]
    have hscaled : n.log2 + 1022 = 2045 := by omega
    rw [hscaled]
    generalize leading n = q at *
    generalize trailing n = r at *
    rw [significands] at *
    constructor
    · intro h
      split at h <;> omega
    · rintro ⟨hq, hr⟩
      rw [if_pos (by omega)]
      omega
  · have hlarge : 2 ^ (k + 54) ≤ n := (Nat.le_log2 hn).mp (by omega)
    have hscaled : 2047 * significands ≤ (n.log2 + 1023) * significands :=
      Nat.mul_le_mul_right _ (by omega)
    have hrank := (nearestRank_one_bounds hn).1
    omega

theorem ofInt?_eq_none_iff {m : Int} : ofInt? m = none ↔ 2 ^ 1024 - 2 ^ 970 ≤ m.natAbs := by
  rw [← rank_overflow_iff]
  generalize hrank : nearestRank m.natAbs 1 = rank
  unfold ofInt? ofRatio
  rw [hrank]
  have hlimit : 2047 * significands = 9218868437227405312 := by decide
  rw [hlimit]
  by_cases h : rank < 9218868437227405312
  · simp [ofRank, h]
  · simp [ofRank, h, Nat.le_of_not_lt]

end Proceedings.Binary64
