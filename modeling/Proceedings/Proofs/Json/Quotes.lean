import Proceedings.Proofs.Json.Grammar

/-! # Reading what stands between quotes

A text is read up to the first quote that is no part of an escape. A first half of a surrogate pair
takes the escape of a second half with it, so it stands alone only if none follows.
-/

namespace Proceedings.Json

variable {start rest t s w : Text} {p q : CodePoint} {n : Nat}

section Hex

theorem hexFour?_append {digits : Text} (h : SpellsHex n digits) (rest : Text) :
    hexFour? (digits ++ rest) = some n := by
  obtain ⟨hlength, hn⟩ := h
  match digits, hlength with
  | [a, b, c, d], _ => exact hn

theorem hexFour?_eq_some (h : hexFour? t = some n) :
    ∃ digits rest, SpellsHex n digits ∧ t = digits ++ rest := by
  match t, h with
  | a :: b :: c :: d :: rest, h => exact ⟨[a, b, c, d], rest, ⟨rfl, h⟩, rfl⟩

theorem lowSurrogate?_eq_some (h : lowSurrogate? t = .ok (some n)) :
    ∃ digits rest, SpellsHex n digits ∧ IsLow n ∧ t = hexEscape digits ++ rest := by
  unfold lowSurrogate? at h
  split at h
  · next after =>
    split at h
    · cases h
    · split at h
      · cases h
      · next m hm =>
        simp only [Except.ok.injEq] at h
        split at h
        · next hlow =>
          obtain rfl := Option.some.inj h
          obtain ⟨digits, rest, hhex, rfl⟩ := hexFour?_eq_some hm
          exact ⟨digits, rest, hhex, by simpa [IsLow] using hlow, rfl⟩
        · cases h
  · cases h

theorem lowSurrogate?_hexEscape {digits : Text} (h : SpellsHex n digits) (hrest : rest ≠ []) :
    lowSurrogate? (hexEscape digits ++ rest) =
      .ok (if 0xDC00 ≤ n && n < 0xE000 then some n else none) := by
  have hlength : 0 < rest.length := List.length_pos_iff.mpr hrest
  have hlong : ¬ (hexEscape digits ++ rest).length ≤ 6 := by
    simp [hexEscape, h.1]
    omega
  simp only [hexEscape, List.cons_append] at hlong ⊢
  simp only [lowSurrogate?, hlong, if_false, hexFour?_append h]

theorem lowSurrogate?_of_startsLow (h : StartsLow w) (rest : Text) :
    ∃ low, lowSurrogate? (w ++ .scalar '"' :: rest) = .ok (some low) := by
  obtain ⟨n, digits, after, hhex, hlow, rfl⟩ := h
  refine ⟨n, ?_⟩
  rw [List.append_assoc, lowSurrogate?_hexEscape hhex (by simp)]
  simp [hlow.1, hlow.2]

theorem lowSurrogate?_eq_none (h : SpellsText s w) (hlow : ¬ StartsLow w) (rest : Text) :
    lowSurrogate? (w ++ .scalar '"' :: rest) = .ok none := by
  have hhexEscape {n : Nat} {digits after : Text} (hhex : SpellsHex n digits)
      (hw : w = hexEscape digits ++ after) :
      lowSurrogate? (w ++ .scalar '"' :: rest) = .ok none := by
    have hn : ¬ IsLow n := fun hn => hlow ⟨n, digits, after, hhex, hn, hw⟩
    rw [hw, List.append_assoc, lowSurrogate?_hexEscape hhex (by simp)]
    simpa [IsLow] using hn
  cases h with
  | nil => rfl
  | plain _ hbackslash =>
    unfold lowSurrogate?
    split
    · next ht => exact absurd (List.cons.inj ht).1 hbackslash
    · rfl
  | simple hescape =>
    unfold lowSurrogate?
    split
    · next ht =>
      obtain rfl := (List.cons.inj (List.cons.inj ht).2).1
      cases hescape
    · rfl
  | point hhex => exact hhexEscape hhex rfl
  | pair hfirst => exact hhexEscape hfirst (List.append_assoc _ _ _)

end Hex

section Complete

theorem stringFrom_append (u t : Text) :
    stringFrom start u.length (u ++ t) = stringFrom start 0 t := by
  induction u with
  | nil => rfl
  | cons p u ih => exact ih

theorem stringFrom_cons {u : Text}
    (hpiece : piece start p (u ++ t) = .ok (.point q u.length))
    (h : stringFrom start 0 t = .ok (s, rest)) :
    stringFrom start 0 (p :: (u ++ t)) = .ok (q :: s, rest) := by
  simp only [stringFrom, hpiece, stringFrom_append, h]

theorem escape_point {digits : Text} (hhex : SpellsHex n digits) (hpair : IsHigh n → ¬ StartsLow w)
    (h : SpellsText s w) :
    escape start p (.scalar 'u' :: digits ++ (w ++ .scalar '"' :: rest)) =
      .ok (.point (.ofNat n) 5) := by
  have hlength : (digits ++ (w ++ .scalar '"' :: rest)).length ≠ 4 := by
    simp [hhex.1]
  have hdrop : (digits ++ (w ++ .scalar '"' :: rest)).drop 4 = w ++ .scalar '"' :: rest := by
    rw [← hhex.1, List.drop_left]
  simp only [List.cons_append, escape, hexFour?_append hhex, hlength, if_false, hdrop]
  split
  · next hhigh =>
    have hnone := lowSurrogate?_eq_none h (hpair (by simpa [IsHigh] using hhigh)) rest
    simp only [hnone]
  · rfl

theorem escape_pair {high low : Nat} {first second : Text} (hfirst : SpellsHex high first)
    (hhigh : IsHigh high) (hsecond : SpellsHex low second) (hlow : IsLow low) :
    escape start p (.scalar 'u' :: first ++ (hexEscape second ++ (w ++ .scalar '"' :: rest))) =
      .ok (.point (.ofNat (0x10000 + (high - 0xD800) * 0x400 + (low - 0xDC00))) 11) := by
  have hlength : (first ++ (hexEscape second ++ (w ++ .scalar '"' :: rest))).length ≠ 4 := by
    simp [hfirst.1, hexEscape]
  have hdrop : (first ++ (hexEscape second ++ (w ++ .scalar '"' :: rest))).drop 4 =
      hexEscape second ++ (w ++ .scalar '"' :: rest) := by
    rw [← hfirst.1, List.drop_left]
  have hcond : (0xD800 ≤ high && high < 0xDC00) = true := by simpa [IsHigh] using hhigh
  have hlow' : (0xDC00 ≤ low && low < 0xE000) = true := by simpa [IsLow] using hlow
  have hrest : w ++ .scalar '"' :: rest ≠ [] := by simp
  simp only [List.cons_append, escape, hexFour?_append hfirst, hlength, if_false, hdrop, hcond,
    if_true, lowSurrogate?_hexEscape hsecond hrest, hlow']

theorem piece_backslash (rest : Text) :
    piece start (.scalar '\\') rest = escape start (.scalar '\\') rest := rfl

theorem stringFrom_of_spells (h : SpellsText s w) (start rest : Text) :
    stringFrom start 0 (w ++ .scalar '"' :: rest) = .ok (s, rest) := by
  induction h with
  | nil => rfl
  | plain hquote hbackslash hcontrol _ ih =>
    refine stringFrom_cons (u := []) ?_ ih
    simp [piece, hquote, hbackslash, Nat.not_lt.mpr hcontrol]
  | @simple p q t w hescape _ ih =>
    refine stringFrom_cons (u := [q]) ?_ ih
    rw [piece_backslash, List.singleton_append, escape]
    · rw [hescape]
      rfl
    · rintro rfl
      cases hescape
  | @point n digits t w hhex hpair h ih =>
    rw [hexEscape, List.cons_append, List.cons_append, List.append_assoc]
    refine stringFrom_cons (u := .scalar 'u' :: digits) ?_ ih
    rw [piece_backslash, escape_point hhex hpair h, List.length_cons, hhex.1]
  | @pair high low first second t w hfirst hhigh hsecond hlow h ih =>
    have hlength : (.scalar 'u' :: first ++ hexEscape second).length = 11 := by
      simp [hexEscape, hfirst.1, hsecond.1]
    rw [hexEscape, List.cons_append, List.cons_append, List.cons_append, List.cons_append,
      List.append_assoc]
    refine stringFrom_cons (u := .scalar 'u' :: first ++ hexEscape second) ?_ ih
    rw [piece_backslash, hlength, List.append_assoc, escape_pair hfirst hhigh hsecond hlow]

end Complete

section Sound

theorem stringFrom_eq_drop (start : Text) (n : Nat) (t : Text) :
    stringFrom start n t = stringFrom start 0 (t.drop n) := by
  induction n generalizing t with
  | zero => rfl
  | succ n ih =>
    cases t with
    | nil => rfl
    | cons p t => exact ih t

/-- What is read for one code point spells it, whatever text follows up to the quote. -/
def SpellsPoint (q : CodePoint) (n : Nat) (t : Text) : Prop :=
  ∃ u t', t = u ++ t' ∧ u.length = n ∧
    ∀ s w rest, SpellsText s w → t' = w ++ .scalar '"' :: rest → SpellsText (q :: s) (u ++ w)

theorem spellsPoint_hex {digits : Text} (hhex : SpellsHex n digits)
    (hpair : IsHigh n → lowSurrogate? t = .ok none) :
    SpellsPoint (.ofNat n) 6 (.scalar '\\' :: .scalar 'u' :: (digits ++ t)) := by
  refine ⟨hexEscape digits, t, rfl, by simp [hexEscape, hhex.1], ?_⟩
  rintro s w rest hs rfl
  refine .point hhex ?_ hs
  intro hhigh hlow
  obtain ⟨low, hsome⟩ := lowSurrogate?_of_startsLow hlow rest
  rw [hpair hhigh] at hsome
  cases hsome

theorem spellsPoint_pair {high low : Nat} {first second : Text} (hfirst : SpellsHex high first)
    (hhigh : IsHigh high) (hsecond : SpellsHex low second) (hlow : IsLow low) :
    SpellsPoint (.ofNat (0x10000 + (high - 0xD800) * 0x400 + (low - 0xDC00))) 12
      (.scalar '\\' :: .scalar 'u' :: (first ++ (hexEscape second ++ t))) := by
  refine ⟨hexEscape first ++ hexEscape second, t, ?_, ?_, ?_⟩
  · simp [hexEscape]
  · simp [hexEscape, hfirst.1, hsecond.1]
  · intro s w rest hs _
    exact .pair hfirst hhigh hsecond hlow hs

theorem escape_eq (h : escape start p t = .ok (.point q n)) :
    SpellsPoint q (n + 1) (.scalar '\\' :: t) := by
  unfold escape at h
  split at h
  · cases h
  · next after =>
    split at h
    · cases h
    · next m hm =>
      obtain ⟨digits, t, hhex, rfl⟩ := hexFour?_eq_some hm
      have hdrop : (digits ++ t).drop 4 = t := by rw [← hhex.1, List.drop_left]
      rw [hdrop] at h
      split at h
      · cases h
      · split at h
        · next hhigh =>
          split at h
          · cases h
          · next hnone =>
            obtain ⟨rfl, rfl⟩ := Piece.point.inj (Except.ok.inj h)
            exact spellsPoint_hex hhex fun _ => hnone
          · next low hsome =>
            obtain ⟨rfl, rfl⟩ := Piece.point.inj (Except.ok.inj h)
            obtain ⟨second, rest, hsecond, hlow, rfl⟩ := lowSurrogate?_eq_some hsome
            exact spellsPoint_pair hhex (by simpa [IsHigh] using hhigh) hsecond hlow
        · next hhigh =>
          obtain ⟨rfl, rfl⟩ := Piece.point.inj (Except.ok.inj h)
          refine spellsPoint_hex hhex fun h => absurd ?_ hhigh
          simpa [IsHigh] using h
  · split at h
    · next r hescape =>
      obtain ⟨rfl, rfl⟩ := Piece.point.inj (Except.ok.inj h)
      refine ⟨[_, _], _, rfl, rfl, ?_⟩
      intro s w rest hs _
      exact .simple hescape hs
    · cases h

theorem escape_ne_close : escape start p t ≠ .ok .close := by
  unfold escape
  intro h
  repeat' split at h
  all_goals cases h

theorem piece_eq (h : piece start p t = .ok (.point q n)) : SpellsPoint q (n + 1) (p :: t) := by
  unfold piece at h
  split at h
  · cases h
  · next hquote =>
    split at h
    · next hbackslash =>
      rw [hbackslash]
      exact escape_eq h
    · next hbackslash =>
      split at h
      · cases h
      · next hcontrol =>
        obtain ⟨rfl, rfl⟩ := Piece.point.inj (Except.ok.inj h)
        refine ⟨[p], t, rfl, rfl, ?_⟩
        intro s w rest hs _
        exact .plain hquote hbackslash (Nat.not_lt.mp hcontrol) hs

theorem piece_close (h : piece start p t = .ok .close) : p = .scalar '"' := by
  unfold piece at h
  split at h
  · assumption
  · split at h
    · exact absurd h escape_ne_close
    · split at h <;> cases h

/-- What is read between quotes spells the text that it is read as. -/
theorem spells_of_stringFrom (h : stringFrom start 0 t = .ok (s, rest)) :
    ∃ w, SpellsText s w ∧ t = w ++ .scalar '"' :: rest := by
  induction hlength : t.length using Nat.strong_induction_on generalizing t s with
  | _ n ih =>
    cases t with
    | nil => cases h
    | cons p t =>
      rw [stringFrom] at h
      split at h
      · cases h
      · next hpiece =>
        obtain ⟨rfl, rfl⟩ := Prod.mk.inj (Except.ok.inj h)
        exact ⟨[], .nil, by rw [piece_close hpiece]; rfl⟩
      · next q following hpiece =>
        split at h
        · cases h
        · next s' rest' hread =>
          obtain ⟨rfl, rfl⟩ := Prod.mk.inj (Except.ok.inj h)
          obtain ⟨u, t', hu, hn, hspells⟩ := piece_eq hpiece
          rw [stringFrom_eq_drop] at hread
          have ht' : t.drop following = t' := by
            have := congrArg (List.drop (following + 1)) hu
            rwa [List.drop_succ_cons, ← hn, List.drop_left] at this
          rw [ht'] at hread
          have hshorter : t'.length < n := by
            have := congrArg List.length hu
            simp only [List.length_append] at this
            omega
          obtain ⟨w, hw, rfl⟩ := ih _ hshorter hread rfl
          exact ⟨u ++ w, hspells _ _ _ hw rfl, by rw [hu, List.append_assoc]⟩

end Sound

end Proceedings.Json
