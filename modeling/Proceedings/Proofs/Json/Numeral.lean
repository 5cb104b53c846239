import Proceedings.Json.Printer
import Proceedings.Proofs.Binary64.Rounding
import Proceedings.Proofs.Calendar.Numeral
import Proceedings.Proofs.Json.Grammar

/-! # Numbers as they are written

An integer is written in digits, and a finite binary number as its shortest decimal. What is written
spells the number: it is read back as the same.
-/

namespace Proceedings.Json

open Binary64

section Digits

variable {n : Nat} {a b t : Text}

theorem natOfDigits_append (a b : Text) :
    natOfDigits (a ++ b) = natOfDigits a * 10 ^ b.length + natOfDigits b := by
  have hfoldl (n : Nat) :
      b.foldl (fun n p => n * 10 + p.digitValue) n = n * 10 ^ b.length + natOfDigits b := by
    unfold natOfDigits
    induction b generalizing n with
    | nil => simp
    | cons p b ih =>
      simp only [List.foldl_cons, List.length_cons]
      rw [ih, ih (0 * 10 + p.digitValue), Nat.pow_succ']
      ring
  rw [natOfDigits, List.foldl_append, hfoldl]
  rfl

theorem natOfDigits_replicate (k : Nat) : natOfDigits (List.replicate k (.scalar '0')) = 0 := by
  induction k with
  | zero => rfl
  | succ k ih =>
    have hone : natOfDigits [.scalar '0'] = 0 := rfl
    rw [List.replicate_succ, ← List.singleton_append, natOfDigits_append, hone, ih, Nat.zero_mul]

theorem natOfDigits_lt (h : ∀ p ∈ t, p.isAsciiDigit = true) : natOfDigits t < 10 ^ t.length := by
  induction t with
  | nil => exact Nat.one_pos
  | cons p t ih =>
    obtain ⟨hp, ht⟩ := List.forall_mem_cons.mp h
    have hdigit : natOfDigits [p] ≤ 9 := by
      simp only [CodePoint.isAsciiDigit, Bool.and_eq_true, decide_eq_true_eq] at hp
      simp only [natOfDigits, List.foldl_cons, List.foldl_nil, CodePoint.digitValue]
      omega
    calc natOfDigits (p :: t)
        = natOfDigits [p] * 10 ^ t.length + natOfDigits t := natOfDigits_append [p] t
      _ < 9 * 10 ^ t.length + 10 ^ t.length :=
        Nat.add_lt_add_of_le_of_lt (Nat.mul_le_mul_right _ hdigit) (ih ht)
      _ = 10 ^ (p :: t).length := by rw [List.length_cons, Nat.pow_succ]; ring

theorem digitCount_natOfDigits_le (h : IsDigits t) : digitCount (natOfDigits t) ≤ t.length :=
  (Nat.length_toDigits_le_iff (by decide) (List.length_pos_iff.mpr h.1)).mpr (natOfDigits_lt h.2)

theorem IsWhole.isDigits (h : IsWhole t) : IsDigits t := by
  rcases h with rfl | ⟨h, -⟩
  · exact ⟨List.cons_ne_nil _ _, List.forall_mem_singleton.mpr rfl⟩
  · exact h

theorem natAbs_signed (negative : Bool) (n : Nat) : (signed negative n).natAbs = n := by
  cases negative <;> simp [signed]

theorem natOfDigits_ofNat (n : Nat) : natOfDigits (Text.ofNat n) = n := by
  have h : Nat.ofDigitChars 10 (Nat.toDigits 10 n) 0 = n := Nat.ofDigitChars_ten_toDigits
  rw [Nat.ofDigitChars_eq_foldl] at h
  simp only [Nat.mul_comm 10] at h
  rw [natOfDigits, Text.ofNat, List.foldl_map]
  exact h

theorem isAsciiDigit_of_isDigit {c : Char} (h : c.isDigit = true) :
    (CodePoint.scalar c).isAsciiDigit = true := by
  simp only [Char.isDigit, Bool.and_eq_true, decide_eq_true_eq, ge_iff_le,
    UInt32.le_iff_toNat_le] at h
  exact Bool.and_eq_true_iff.mpr ⟨decide_eq_true h.1, decide_eq_true h.2⟩

theorem isDigits_ofNat (n : Nat) : IsDigits (Text.ofNat n) := by
  refine ⟨by simp [Text.ofNat], fun p hp => ?_⟩
  obtain ⟨c, hc, rfl⟩ := List.mem_map.mp hp
  exact isAsciiDigit_of_isDigit (Nat.isDigit_of_mem_toDigits (by decide) (by decide) hc)

theorem head_ofNat (hn : n ≠ 0) : (Text.ofNat n).head? ≠ some (.scalar '0') := by
  induction n using Nat.strong_induction_on with
  | _ n ih =>
    rw [Text.ofNat, Nat.toDigits_eq_if (by decide)]
    split
    · next hsmall =>
      have hdigit : n.digitChar ≠ '0' := by
        interval_cases n <;> simp_all
      simpa using hdigit
    · next hlarge =>
      have hhead := ih (n / 10) (by omega) (by omega)
      obtain ⟨p, u, hp⟩ := List.exists_cons_of_ne_nil (isDigits_ofNat (n / 10)).1
      rw [hp] at hhead
      rw [List.map_append]
      change (Text.ofNat (n / 10) ++ _).head? ≠ _
      rw [hp]
      exact hhead

theorem isWhole_ofNat (n : Nat) : IsWhole (Text.ofNat n) := by
  rcases Nat.eq_zero_or_pos n with rfl | hpos
  · exact .inl rfl
  · exact .inr ⟨isDigits_ofNat n, head_ofNat (Nat.ne_of_gt hpos)⟩

end Digits

theorem spellsNumber_ofInt {n : Int} (h : digitCount n.natAbs ≤ Numeral.maxDigits) :
    SpellsNumber (.int n) (Text.ofInt n) := by
  have hlength : (Text.ofNat n.natAbs).length ≤ Numeral.maxDigits := by
    rwa [Text.ofNat, List.length_map]
  cases n with
  | ofNat n =>
    have hspells : SpellsNumber (.int (signed false _)) _ := .int (isWhole_ofNat n) hlength
    rwa [natOfDigits_ofNat] at hspells
  | negSucc n =>
    have hspells : SpellsNumber (.int (signed true _)) _ := .int (isWhole_ofNat (n + 1)) hlength
    rwa [natOfDigits_ofNat] at hspells

section Decimals

variable {d : Decimal} {rank : Nat}

/-- The digits of a decimal as a text, without zeros at its end. -/
def digitsOfText (d : Decimal) : Text := Text.ofChars d.digitsOf

theorem exists_zeros (d : Decimal) :
    ∃ k, Text.ofNat d.digits = digitsOfText d ++ List.replicate k (.scalar '0') := by
  let zeros := (Nat.toDigits 10 d.digits).reverse.takeWhile (· == '0')
  have hzeros : zeros = List.replicate zeros.length '0' := by
    refine List.eq_replicate_of_mem fun c hc => ?_
    simpa using List.mem_takeWhile_imp hc
  have hsplit : Nat.toDigits 10 d.digits = d.digitsOf ++ zeros.reverse := by
    rw [Decimal.digitsOf, ← List.reverse_append, List.takeWhile_append_dropWhile,
      List.reverse_reverse]
  refine ⟨zeros.length, ?_⟩
  rw [hzeros, List.reverse_replicate] at hsplit
  rw [Text.ofNat, hsplit, List.map_append, List.map_replicate]
  rfl

/-- What the digits of a positive decimal are without the zeros at its end. -/
theorem digitsOf_spec (hd : d.digits ≠ 0) :
    IsDigits (digitsOfText d) ∧ (digitsOfText d).head? ≠ some (.scalar '0') ∧
      ∃ k, natOfDigits (digitsOfText d) * 10 ^ k = d.digits ∧
        digitCount d.digits = (digitsOfText d).length + k := by
  obtain ⟨k, hk⟩ := exists_zeros d
  have hvalue := natOfDigits_ofNat d.digits
  have hall := (isDigits_ofNat d.digits).2
  have hhead := head_ofNat hd
  have hlength : (Text.ofNat d.digits).length = digitCount d.digits := List.length_map ..
  rw [hk, natOfDigits_append, natOfDigits_replicate, List.length_replicate, Nat.add_zero] at hvalue
  rw [hk, List.length_append, List.length_replicate] at hlength
  rw [hk] at hall hhead
  have hne : digitsOfText d ≠ [] := by
    intro hnil
    rw [hnil] at hvalue
    exact hd (hvalue.symm.trans (Nat.zero_mul _))
  refine ⟨⟨hne, fun p hp => hall p (List.mem_append_left _ hp)⟩, ?_, k, hvalue, hlength.symm⟩
  rwa [List.head?_append_of_ne_nil _ hne] at hhead

theorem signText_eq (negative : Bool) :
    signText negative = Text.ofChars (if negative then ['-'] else []) := by
  cases negative <;> rfl

theorem spellsNumber_of_rank (negative : Bool) (hpos : 0 < rank)
    (hfinite : rank < 2047 * significands) {whole places fraction exponent : Text}
    {power : Option Int} (hwhole : IsWhole whole) (hfraction : SpellsFraction places fraction)
    (hexponent : SpellsExponent power exponent) (h : places ≠ [] ∨ power ≠ none)
    (hrank : (⟨natOfDigits (whole ++ places), power.getD 0 - places.length⟩ : Decimal).rank =
      rank) :
    SpellsNumber (.float (.finite negative ⟨rank, hfinite⟩))
      (signText negative ++ whole ++ fraction ++ exponent) := by
  rw [← ofDecimal_of_rank negative hrank hpos hfinite]
  exact .float hwhole hfraction hexponent h

theorem spellsExponent_exponentChars (e : Int) :
    SpellsExponent (some e) (Text.ofChars ('e' :: exponentChars e)) := by
  obtain ⟨digits, hdigits, hvalue, htext⟩ : ∃ digits, IsDigits digits ∧
      natOfDigits digits = e.natAbs ∧ Text.ofChars ('e' :: exponentChars e) =
        .scalar 'e' :: (if e < 0 then [.scalar '-'] else [.scalar '+']) ++ digits := by
    have hofNat := isDigits_ofNat e.natAbs
    have hvalue := natOfDigits_ofNat e.natAbs
    by_cases hshort : (Nat.toDigits 10 e.natAbs).length < 2
    · refine ⟨.scalar '0' :: Text.ofNat e.natAbs, ⟨by simp, ?_⟩, ?_, ?_⟩
      · exact List.forall_mem_cons.mpr ⟨rfl, hofNat.2⟩
      · have hzero : natOfDigits [.scalar '0'] = 0 := rfl
        rw [← List.singleton_append, natOfDigits_append, hzero, hvalue, Nat.zero_mul, Nat.zero_add]
      · unfold exponentChars
        split <;> simp [Text.ofChars, Text.ofNat, hshort]
    · refine ⟨Text.ofNat e.natAbs, hofNat, hvalue, ?_⟩
      unfold exponentChars
      split <;> simp [Text.ofChars, Text.ofNat, hshort]
  rw [htext]
  by_cases hneg : e < 0
  · have hpower : e = signed true (natOfDigits digits) := by
      rw [hvalue, signed, if_pos rfl]
      omega
    rw [if_pos hneg]
    conv => arg 1; rw [hpower]
    exact .power (.inl rfl) (.inr (.inr rfl)) hdigits
  · have hpower : e = signed false (natOfDigits digits) := by
      rw [hvalue, signed, if_neg (by simp)]
      omega
    rw [if_neg hneg]
    conv => arg 1; rw [hpower]
    exact .power (.inl rfl) (.inr (.inl rfl)) hdigits

section Forms

variable (negative : Bool) (hpos : 0 < rank) (hfinite : rank < 2047 * significands)
  {cs : List Char} (hdigits : IsDigits (Text.ofChars cs)) {point : Int}
  (hrank : (⟨natOfDigits (Text.ofChars cs), point - cs.length⟩ : Decimal).rank = rank)

include hpos hdigits hrank

theorem spells_below (hpoint : point ≤ 0) :
    SpellsNumber (.float (.finite negative ⟨rank, hfinite⟩)) (signText negative ++
      Text.ofChars ('0' :: '.' :: (List.replicate (-point).toNat '0' ++ cs))) := by
  have hplaces : IsDigits (List.replicate (-point).toNat (.scalar '0') ++ Text.ofChars cs) := by
    refine ⟨by simp [hdigits.1], List.forall_mem_append.mpr ⟨fun p hp => ?_, hdigits.2⟩⟩
    rw [List.eq_of_mem_replicate hp]
    rfl
  have hzero : natOfDigits [.scalar '0'] = 0 := rfl
  have hvalue : natOfDigits ([.scalar '0'] ++
      (List.replicate (-point).toNat (.scalar '0') ++ Text.ofChars cs)) =
        natOfDigits (Text.ofChars cs) := by
    rw [natOfDigits_append, natOfDigits_append, natOfDigits_replicate, hzero]
    simp
  have hspells := spellsNumber_of_rank negative hpos hfinite (.inl rfl)
    (.digits hplaces) .absent (.inl hplaces.1) (by
      rw [hvalue, ← hrank]
      congr 2
      simp [Text.ofChars]
      omega)
  simpa [Text.ofChars] using hspells

theorem spells_whole (hhead : (Text.ofChars cs).head? ≠ some (.scalar '0'))
    (hpoint : cs.length ≤ point) :
    SpellsNumber (.float (.finite negative ⟨rank, hfinite⟩)) (signText negative ++
      Text.ofChars (cs ++ List.replicate (point.toNat - cs.length) '0' ++ ['.', '0'])) := by
  generalize hzeros : point.toNat - cs.length = zeros
  have hwhole : IsWhole (Text.ofChars cs ++ List.replicate zeros (.scalar '0')) := by
    refine .inr ⟨⟨by simp [hdigits.1], List.forall_mem_append.mpr ⟨hdigits.2, fun p hp => ?_⟩⟩, ?_⟩
    · rw [List.eq_of_mem_replicate hp]
      rfl
    · rwa [List.head?_append_of_ne_nil _ hdigits.1]
  have hplaces : IsDigits [.scalar '0'] := ⟨by simp, by decide⟩
  have hzero : natOfDigits [.scalar '0'] = 0 := rfl
  have hvalue : natOfDigits (Text.ofChars cs ++ List.replicate zeros (.scalar '0') ++
      [.scalar '0']) = natOfDigits (Text.ofChars cs) * 10 ^ (zeros + 1) := by
    rw [natOfDigits_append, natOfDigits_append, natOfDigits_replicate, hzero, Nat.pow_succ]
    simp [Nat.mul_assoc]
  have hspells := spellsNumber_of_rank negative hpos hfinite hwhole
    (.digits hplaces) .absent (.inl hplaces.1) (by
      rw [hvalue, Decimal.rank_mul_pow, ← hrank]
      congr 2
      simp
      omega)
  simpa [Text.ofChars] using hspells

omit hpos hrank in
theorem isWhole_take (hhead : (Text.ofChars cs).head? ≠ some (.scalar '0')) {whole : Nat}
    (hwhole : 0 < whole) : IsWhole (Text.ofChars (cs.take whole)) := by
  have htake : Text.ofChars (cs.take whole) = (Text.ofChars cs).take whole := List.map_take
  rw [htake]
  refine .inr ⟨⟨?_, fun p hp => hdigits.2 p (List.mem_of_mem_take hp)⟩, ?_⟩
  · simp [hdigits.1, Nat.ne_of_gt hwhole]
  · rwa [List.head?_take, if_neg (Nat.ne_of_gt hwhole)]

omit hpos hrank in
theorem isDigits_drop (whole : Nat) (h : cs.drop whole ≠ []) :
    IsDigits (Text.ofChars (cs.drop whole)) := by
  refine ⟨by simpa [Text.ofChars] using h, fun p hp => hdigits.2 p ?_⟩
  have hdrop : Text.ofChars (cs.drop whole) = (Text.ofChars cs).drop whole := List.map_drop
  rw [hdrop] at hp
  exact List.mem_of_mem_drop hp

omit hpos hrank hdigits in
theorem ofChars_take_drop (whole : Nat) :
    Text.ofChars (cs.take whole) ++ Text.ofChars (cs.drop whole) = Text.ofChars cs := by
  rw [Text.ofChars, Text.ofChars, ← List.map_append, List.take_append_drop]
  rfl

/-- The form of a decimal with the point between its digits. -/
theorem spells_between (hhead : (Text.ofChars cs).head? ≠ some (.scalar '0'))
    {whole : Nat} (hwhole : 0 < whole) (hless : whole < cs.length) (hpoint : point = whole) :
    SpellsNumber (.float (.finite negative ⟨rank, hfinite⟩)) (signText negative ++
      Text.ofChars (cs.take whole ++ '.' :: cs.drop whole)) := by
  have hplaces := isDigits_drop hdigits whole (by simpa using hless)
  have hspells := spellsNumber_of_rank negative hpos hfinite
    (isWhole_take hdigits hhead hwhole) (.digits hplaces) .absent (.inl hplaces.1) (by
      rw [ofChars_take_drop, ← hrank]
      congr 2
      simp [Text.ofChars]
      omega)
  simpa [Text.ofChars] using hspells

theorem spells_scientific (hhead : (Text.ofChars cs).head? ≠ some (.scalar '0')) :
    SpellsNumber (.float (.finite negative ⟨rank, hfinite⟩)) (signText negative ++
      Text.ofChars (cs.take 1 ++ (if (cs.drop 1).isEmpty then [] else '.' :: cs.drop 1) ++
        'e' :: exponentChars (point - 1))) := by
  have hfraction : SpellsFraction (Text.ofChars (cs.drop 1))
      (Text.ofChars (if (cs.drop 1).isEmpty then [] else '.' :: cs.drop 1)) := by
    cases h : cs.drop 1 with
    | nil => exact .absent
    | cons c rest => exact .digits (h ▸ isDigits_drop hdigits 1 (by simp [h]))
  have hlength : 0 < cs.length := by simpa [Text.ofChars] using List.length_pos_of_ne_nil hdigits.1
  have hspells := spellsNumber_of_rank negative hpos hfinite
    (isWhole_take hdigits hhead Nat.one_pos) hfraction (spellsExponent_exponentChars (point - 1))
    (.inr (by simp)) (by
      rw [ofChars_take_drop, ← hrank]
      congr 2
      simp [Text.ofChars]
      omega)
  simpa [Text.ofChars] using hspells

end Forms

/-- A positive finite number is written as its shortest decimal, which is read back as it. -/
theorem spellsNumber_shortest (negative : Bool) (hpos : 0 < rank)
    (hfinite : rank < 2047 * significands) :
    SpellsNumber (.float (.finite negative ⟨rank, hfinite⟩))
      (signText negative ++ Text.ofChars (shortest rank).chars) := by
  have hshortest := rank_shortest rank
  generalize shortest rank = d at *
  have hd : d.digits ≠ 0 := Decimal.ne_zero_of_rank_pos (e := d.exponent) (hshortest ▸ hpos)
  obtain ⟨hdigits, hhead, k, hvalue, hcount⟩ := digitsOf_spec hd
  have hlength : (digitsOfText d).length = d.digitsOf.length := List.length_map ..
  unfold Decimal.chars
  -- Where the point stands, counted from the first digit: it decides on the form.
  generalize hpoint : (digitCount d.digits + d.exponent : Int) = point
  have hrank : (⟨natOfDigits (digitsOfText d), point - d.digitsOf.length⟩ : Decimal).rank =
      rank := by
    have hexponent : point - d.digitsOf.length = d.exponent + k := by omega
    rw [hexponent, ← Decimal.rank_mul_pow, hvalue]
    exact hshortest
  unfold digitsOfText at *
  dsimp only
  split
  · next hnear =>
    split
    · next hbelow => exact spells_below negative hpos hfinite hdigits hrank hbelow
    · next habove =>
      by_cases hwhole : (d.digitsOf.length : Int) ≤ point
      · have hdrop : d.digitsOf.drop point.toNat = [] := List.drop_eq_nil_of_le (by omega)
        have htake : d.digitsOf.take point.toNat = d.digitsOf := List.take_of_length_le (by omega)
        rw [hdrop, htake]
        exact spells_whole negative hpos hfinite hdigits hrank hhead hwhole
      · have hless : point.toNat < d.digitsOf.length := by omega
        have hdrop : (d.digitsOf.drop point.toNat).isEmpty = false := by simpa using hless
        have hzeros : point.toNat - d.digitsOf.length = 0 := by omega
        rw [hdrop, hzeros, List.replicate_zero, List.append_nil]
        exact spells_between negative hpos hfinite hdigits hrank hhead (by omega) hless (by omega)
  · exact spells_scientific negative hpos hfinite hdigits hrank hhead

end Decimals

theorem spellsNumber_finite (negative : Bool) (rank : Fin 9218868437227405312) :
    SpellsNumber (.float (.finite negative rank))
      (Text.ofChars ((Binary64.finite negative rank).chars specialNames)) := by
  have hchars : Text.ofChars ((Binary64.finite negative rank).chars specialNames) =
      signText negative ++ Text.ofChars
        (if rank.val = 0 then ['0', '.', '0'] else (shortest rank).chars) := by
    rw [signText_eq, Text.ofChars, Text.ofChars, Text.ofChars, ← List.map_append]
    rfl
  rw [hchars]
  split
  · next hzero =>
    obtain rfl : rank = ⟨0, by decide⟩ := Fin.ext hzero
    have hplaces : IsDigits [.scalar '0'] := ⟨by simp, by decide⟩
    have hspells : SpellsNumber (.float (.ofDecimal negative _ _)) _ :=
      .float (.inl rfl) (.digits hplaces) .absent (.inl hplaces.1)
    cases negative <;> exact hspells
  · next hnonzero => exact spellsNumber_shortest negative (Nat.pos_of_ne_zero hnonzero) rank.isLt

end Proceedings.Json
