import Proceedings.Binary64.Shortest
import Proceedings.Proofs.Binary64.Range

/-! # Rounding decimals

A fraction has one nearest rank however it is written, and a rank is the nearest to its own
magnitude. So the shortest decimal of a finite number is read back as that number, in whatever form
it is written.
-/

namespace Proceedings.Binary64

variable {num den rank : Nat}

theorem nearestRank_mul_mul {k : Nat} (hk : 0 < k) (num den : Nat) :
    nearestRank (num * k) (den * k) = nearestRank num den := by
  -- As a variable the exponent is not computed with: the power of two of it is long.
  generalize hscale : 1074 = scale
  have hscaled : (num * k) <<< scale = num <<< scale * k := by
    rw [Nat.shiftLeft_eq, Nat.shiftLeft_eq, Nat.mul_right_comm]
  have hstep (shift : Nat) : (den * k) <<< shift = den <<< shift * k := by
    rw [Nat.shiftLeft_eq, Nat.shiftLeft_eq, Nat.mul_right_comm]
  have hlt (a b : Nat) : a * k < 2 * (b * k) ↔ a < 2 * b := by
    rw [← Nat.mul_assoc, Nat.mul_lt_mul_right hk]
  have heq (a b : Nat) : 2 * (b * k) = a * k ↔ 2 * b = a := by
    rw [← Nat.mul_assoc, Nat.mul_left_inj (Nat.ne_of_gt hk)]
  simp only [nearestRank, hscale, hscaled, hstep, Nat.mul_div_mul_right _ _ hk,
    Nat.mul_mod_mul_right, Bool.or_eq_true, Bool.and_eq_true, decide_eq_true_eq, beq_iff_eq, hlt,
    heq]

theorem le_nearestRank {scaled : Nat} (hscaled : num <<< 1074 / den = scaled) :
    (scaled.log2 - 52) * significands + scaled / 2 ^ (scaled.log2 - 52) ≤ nearestRank num den := by
  have hquotient (shift : Nat) : num <<< 1074 / (den <<< shift) = scaled / 2 ^ shift := by
    rw [Nat.shiftLeft_eq den, ← Nat.div_div_eq_div_mul, hscaled]
  simp only [nearestRank, hscaled, hquotient]
  split <;> omega

theorem lt_of_nearestRank_lt (hden : 0 < den) (h : nearestRank num den < 2047 * significands) :
    num < 2 ^ 1024 * den := by
  by_contra hlarge
  refine Nat.not_le_of_lt h (Nat.le_trans ?_ (le_nearestRank rfl))
  have hsize : 2 ^ (1024 + 1074) ≤ num <<< 1074 / den := by
    generalize 1024 = bits at hlarge ⊢
    generalize 1074 = scale
    rw [Nat.le_div_iff_mul_le hden, Nat.shiftLeft_eq, Nat.pow_add, Nat.mul_right_comm]
    exact Nat.mul_le_mul_right _ (Nat.le_of_not_lt hlarge)
  generalize num <<< 1074 / den = scaled at *
  generalize hbits : 1024 + 1074 = bits at hsize
  have hnonzero : scaled ≠ 0 := Nat.ne_of_gt (Nat.lt_of_lt_of_le (Nat.two_pow_pos _) hsize)
  have hlog : bits ≤ scaled.log2 := (Nat.le_log2 hnonzero).mpr hsize
  have hlow : significands ≤ scaled / 2 ^ (scaled.log2 - 52) := by
    rw [Nat.le_div_iff_mul_le (Nat.two_pow_pos _), significands_eq, ← Nat.pow_add,
      Nat.add_sub_cancel' (by omega)]
    exact Nat.log2_self_le hnonzero
  have hshift : 2046 * significands ≤ (scaled.log2 - 52) * significands :=
    Nat.mul_le_mul_right _ (by omega)
  rw [significands] at *
  omega

theorem le_of_nearestRank_pos (h : 0 < nearestRank num den) : den ≤ num * 2 ^ (1074 + 1) := by
  by_contra hsmall
  have hhalf : 2 * num <<< 1074 < den := by
    generalize 1074 = scale at hsmall ⊢
    rw [Nat.shiftLeft_eq, Nat.mul_left_comm, ← Nat.pow_succ']
    exact Nat.lt_of_not_le hsmall
  generalize hscaled : num <<< 1074 = scaled at hhalf
  have hzero : scaled / den = 0 := Nat.div_eq_of_lt (by omega)
  have hrest : scaled % den = scaled := Nat.mod_eq_of_lt (by omega)
  refine Nat.ne_of_gt h ?_
  simp [nearestRank, hscaled, hzero, hrest]
  omega

/-- A fraction that is a multiple of the step at its size is not rounded. -/
theorem nearestRank_exact {m shift : Nat} (hden : 0 < den)
    (hnum : num <<< 1074 = m * (den * 2 ^ shift)) (hshift : (m * 2 ^ shift).log2 - 52 = shift) :
    nearestRank num den = shift * significands + m := by
  have hstep : 0 < den * 2 ^ shift := Nat.mul_pos hden (Nat.two_pow_pos _)
  have hquotient : num <<< 1074 / den = m * 2 ^ shift := by
    rw [hnum, Nat.mul_left_comm, Nat.mul_div_cancel_left _ hden]
  have hwhole : num <<< 1074 / (den * 2 ^ shift) = m := by
    rw [hnum, Nat.mul_div_cancel _ hstep]
  have hrest : num <<< 1074 % (den * 2 ^ shift) = 0 := by
    rw [hnum, Nat.mul_mod_left]
  simp only [nearestRank, hquotient, hshift, Nat.shiftLeft_eq den, hwhole, hrest]
  rw [if_neg]
  simp only [Bool.or_eq_true, Bool.and_eq_true, decide_eq_true_eq, beq_iff_eq]
  omega

/-- A rank is the nearest to its own magnitude. -/
theorem nearestRank_units (rank : Nat) : nearestRank (units rank) (1 <<< 1074) = rank := by
  have hden : 0 < 1 <<< 1074 := by
    generalize 1074 = scale
    rw [Nat.shiftLeft_eq, Nat.one_mul]
    exact Nat.two_pow_pos _
  have hscaled (n : Nat) : n <<< 1074 = n * 1 <<< 1074 := by
    generalize 1074 = scale
    rw [Nat.shiftLeft_eq, Nat.shiftLeft_eq, Nat.one_mul]
  generalize 1 <<< 1074 = den at *
  unfold units
  split
  · next hsmall =>
    have hlog : rank.log2 - 52 = 0 := by
      rcases Nat.eq_zero_or_pos rank with rfl | hpos
      · rfl
      · have := (Nat.log2_lt (Nat.ne_of_gt hpos)).mpr (significands_eq ▸ hsmall)
        omega
    have hexact : nearestRank rank den = 0 * significands + rank :=
      nearestRank_exact hden (by rw [hscaled, Nat.pow_zero, Nat.mul_one])
        (by rwa [Nat.pow_zero, Nat.mul_one])
    rw [hexact, Nat.zero_mul, Nat.zero_add]
  · next hlarge =>
    have hsplit : significands * (rank / significands) + rank % significands = rank :=
      Nat.div_add_mod _ _
    have hmod : rank % significands < significands := Nat.mod_lt _ (by decide)
    have hquotient : 1 ≤ rank / significands :=
      (Nat.one_le_div_iff (by decide)).mpr (Nat.le_of_not_lt hlarge)
    generalize rank / significands = q at *
    generalize rank % significands = s at *
    have hlog : (significands + s).log2 = 52 := by
      rw [Nat.log2_eq_iff (by rw [significands]; omega)]
      rw [significands] at *
      omega
    have hexact : nearestRank ((significands + s) <<< (q - 1)) den =
        (q - 1) * significands + (significands + s) :=
      nearestRank_exact hden (by rw [hscaled, Nat.shiftLeft_eq, Nat.mul_assoc, Nat.mul_comm den])
        (by rw [log2_mul_two_pow (by rw [significands]; omega), hlog]; omega)
    rw [hexact, Nat.sub_one_mul]
    rw [significands] at *
    omega

section Decimals

variable {n : Nat} {e : Int}

/-- A decimal is a fraction of powers of ten whose exponents differ by its own. -/
theorem Decimal.rank_eq (n : Nat) {p q : Nat} (h : e = p - q) :
    (⟨n, e⟩ : Decimal).rank = nearestRank (n * 10 ^ p) (10 ^ q) := by
  have hpow (k : Nat) : 0 < 10 ^ k := Nat.pow_pos (by decide)
  unfold Decimal.rank
  split
  · next hsign =>
    have hp : e.toNat + q = p := by
      dsimp only at hsign ⊢
      omega
    rw [← nearestRank_mul_mul (hpow q), Nat.one_mul, Nat.mul_assoc, Nat.pow_eq, ← Nat.pow_add, hp]
  · next hsign =>
    have hq : (-e).toNat + p = q := by
      dsimp only at hsign ⊢
      omega
    rw [← nearestRank_mul_mul (hpow p), Nat.pow_eq, ← Nat.pow_add, hq]

theorem Decimal.rank_mul_pow (n k : Nat) (e : Int) :
    (⟨n * 10 ^ k, e⟩ : Decimal).rank = (⟨n, e + k⟩ : Decimal).rank := by
  have hsplit : e = (e.toNat : Int) - ((-e).toNat : Int) := by omega
  have hsum : e + k = ((k + e.toNat : Nat) : Int) - ((-e).toNat : Int) := by omega
  rw [rank_eq _ hsplit, rank_eq _ hsum, Nat.mul_assoc, ← Nat.pow_add]

theorem Decimal.rank_binary (n scale : Nat) :
    (⟨n * Nat.pow 5 scale, -scale⟩ : Decimal).rank = nearestRank n (1 <<< scale) := by
  have hten : 10 ^ scale = 1 <<< scale * Nat.pow 5 scale := by
    rw [Nat.shiftLeft_eq, Nat.one_mul, Nat.pow_eq, ← Nat.mul_pow]
  have hpos : 0 < Nat.pow 5 scale := Nat.pow_pos (by decide)
  rw [rank_eq _ (p := 0) (q := scale) (by simp), Nat.pow_zero, Nat.mul_one, hten,
    nearestRank_mul_mul hpos]

/-- The shortest decimal of a rank is read back as that rank. -/
theorem rank_shortest (rank : Nat) : (shortest rank).rank = rank := by
  unfold shortest
  cases hfound : (List.range 17).findSome? fun i =>
      (neighbours rank (i + 1)).find? fun d => d.rank == rank with
  | some d =>
    obtain ⟨i, -, hi⟩ := List.exists_of_findSome?_eq_some hfound
    have hrank : (d.rank == rank) = true := by simpa using List.find?_some hi
    exact beq_iff_eq.mp hrank
  | none =>
    -- No decimal of up to 17 digits rounds to the rank, so all digits are written out.
    have hexponent : (-1074 : Int) = -((1074 : Nat) : Int) := rfl
    have hunits := nearestRank_units rank
    rw [Option.getD_none, hexponent]
    generalize 1074 = scale at hunits ⊢
    rw [Decimal.rank_binary, hunits]

theorem digitCount_pos (n : Nat) : 0 < digitCount n := Nat.length_toDigits_pos

theorem lt_pow_digitCount (n : Nat) : n < 10 ^ digitCount n :=
  (Nat.length_toDigits_le_iff (by decide) (digitCount_pos n)).mp le_rfl

theorem pow_digitCount_le (hn : n ≠ 0) : 10 ^ (digitCount n - 1) ≤ n := by
  by_contra hlt
  rcases Nat.eq_zero_or_pos (digitCount n - 1) with h | h
  · rw [h, Nat.pow_zero] at hlt
    omega
  · have := (Nat.length_toDigits_le_iff (by decide) h).mpr (Nat.lt_of_not_le hlt)
    exact Nat.not_lt_of_le this (Nat.sub_lt (digitCount_pos n) (by decide))

theorem two_pow_le_ten_pow {a b c m k : Nat} (h : 2 ^ a ≤ 10 ^ b) (hm : m ≤ a * c)
    (hk : b * c ≤ k) : 2 ^ m ≤ 10 ^ k :=
  calc 2 ^ m
      ≤ 2 ^ (a * c) := Nat.pow_le_pow_right (by decide) hm
    _ = (2 ^ a) ^ c := Nat.pow_mul ..
    _ ≤ (10 ^ b) ^ c := Nat.pow_le_pow_left h c
    _ = 10 ^ (b * c) := (Nat.pow_mul ..).symm
    _ ≤ 10 ^ k := Nat.pow_le_pow_right (by decide) hk

/-- What rounds to a finite rank is less than 10 to the 310th. -/
theorem digits_le_of_rank_lt {p q : Nat} (hn : n ≠ 0)
    (h : nearestRank (n * 10 ^ p) (10 ^ q) < 2047 * significands) :
    digitCount n + p ≤ 310 + q := by
  have hsize := lt_of_nearestRank_lt (Nat.pow_pos (by decide)) h
  have htwo : 2 ^ 1024 ≤ 10 ^ 310 :=
    two_pow_le_ten_pow (a := 205) (b := 62) (c := 5) (by decide) (by decide) (by decide)
  generalize 2 ^ 1024 = limit at *
  generalize 310 = bound at *
  have hpow : 10 ^ (digitCount n - 1 + p) < 10 ^ (bound + q) :=
    calc 10 ^ (digitCount n - 1 + p)
        = 10 ^ (digitCount n - 1) * 10 ^ p := Nat.pow_add ..
      _ ≤ n * 10 ^ p := Nat.mul_le_mul_right _ (pow_digitCount_le hn)
      _ < limit * 10 ^ q := hsize
      _ ≤ 10 ^ bound * 10 ^ q := Nat.mul_le_mul_right _ htwo
      _ = 10 ^ (bound + q) := (Nat.pow_add ..).symm
  have hlt := (Nat.pow_lt_pow_iff_right (by decide)).mp hpow
  omega

theorem digits_ge_of_rank_pos {p q : Nat} (h : 0 < nearestRank (n * 10 ^ p) (10 ^ q)) :
    q < digitCount n + p + 330 := by
  have hsize := le_of_nearestRank_pos h
  have htwo : 2 ^ (1074 + 1) ≤ 10 ^ 330 :=
    two_pow_le_ten_pow (a := 215) (b := 66) (c := 5) (by decide) (by decide) (by decide)
  generalize 2 ^ (1074 + 1) = limit at *
  generalize 330 = bound at *
  have hpow : 10 ^ q < 10 ^ (digitCount n + p + bound) :=
    calc 10 ^ q
        ≤ n * 10 ^ p * limit := hsize
      _ ≤ n * 10 ^ p * 10 ^ bound := Nat.mul_le_mul_left _ htwo
      _ < 10 ^ digitCount n * 10 ^ p * 10 ^ bound :=
          Nat.mul_lt_mul_of_pos_right
            (Nat.mul_lt_mul_of_pos_right (lt_pow_digitCount n) (Nat.pow_pos (by decide)))
            (Nat.pow_pos (by decide))
      _ = 10 ^ (digitCount n + p + bound) := by rw [Nat.pow_add, Nat.pow_add]
  exact (Nat.pow_lt_pow_iff_right (by decide)).mp hpow

theorem Decimal.ne_zero_of_rank_pos (h : 0 < (⟨n, e⟩ : Decimal).rank) : n ≠ 0 := by
  rintro rfl
  have hfraction : e = (e.toNat : Int) - ((-e).toNat : Int) := by omega
  rw [rank_eq 0 hfraction] at h
  have hzero := le_of_nearestRank_pos h
  rw [Nat.zero_mul, Nat.zero_mul] at hzero
  exact Nat.not_lt_of_le hzero (Nat.pow_pos (by decide))

theorem ofDecimal_of_rank (negative : Bool) {rank : Nat} (hn : (⟨n, e⟩ : Decimal).rank = rank)
    (hpos : 0 < rank) (hfinite : rank < 2047 * significands) :
    ofDecimal negative n e = .finite negative ⟨rank, hfinite⟩ := by
  have hfraction : e = (e.toNat : Int) - ((-e).toNat : Int) := by omega
  have hnonzero : n ≠ 0 := Decimal.ne_zero_of_rank_pos (hn ▸ hpos)
  have hround := hn
  rw [Decimal.rank_eq n hfraction] at hround
  have hhigh := digits_le_of_rank_lt hnonzero (hround ▸ hfinite)
  have hlow := digits_ge_of_rank_pos (hround ▸ hpos)
  rw [ofDecimal, if_neg hnonzero, if_neg (by omega), if_neg (by omega)]
  have hrank : ofRank negative rank = .finite negative ⟨rank, hfinite⟩ := dif_pos hfinite
  rw [← hrank, ← hn]
  unfold Decimal.rank ofRatio
  split <;> rfl

end Decimals

end Proceedings.Binary64
