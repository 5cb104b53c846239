import Proceedings.Proofs.Json.Grammar

/-! # Reading numbers and names

A number is read from the front of a text exactly if the front spells it and nothing behind it could
go on. Names start otherwise than numbers do.
-/

namespace Proceedings.Json

def openers : Text := [.scalar '"', .scalar '[', .scalar '\x7b']

def canStart (p : CodePoint) : Bool :=
  p.isAsciiDigit || (Text.ofString "-ntfNI").contains p || openers.contains p

def NoDigit (t : Text) : Prop := ∀ p, t.head? = some p → p.isAsciiDigit = false

def Stops (t : Text) : Prop :=
  NoDigit t ∧ ∀ p, t.head? = some p → p ≠ .scalar '.' ∧ p ≠ .scalar 'e' ∧ p ≠ .scalar 'E'

section Digits

variable {t rest digits : Text} {p : CodePoint}

theorem noDigit_cons (h : p.isAsciiDigit = false) : NoDigit (p :: t) := by
  intro q hq
  obtain rfl := Option.some.inj hq
  exact h

theorem IsDigits.exists_cons (h : IsDigits digits) :
    ∃ p t, digits = p :: t ∧ p.isAsciiDigit = true := by
  obtain ⟨hne, hall⟩ := h
  obtain ⟨p, t, rfl⟩ := List.exists_cons_of_ne_nil hne
  exact ⟨p, t, rfl, hall p List.mem_cons_self⟩

theorem spanDigits_append (h : ∀ p ∈ digits, p.isAsciiDigit = true) (hrest : NoDigit rest) :
    spanDigits (digits ++ rest) = (digits, rest) := by
  have htake : rest.takeWhile CodePoint.isAsciiDigit = [] := by
    cases rest with
    | nil => rfl
    | cons p rest => simp [hrest p rfl]
  have hdrop : rest.dropWhile CodePoint.isAsciiDigit = rest := by
    cases rest with
    | nil => rfl
    | cons p rest => simp [hrest p rfl]
  rw [spanDigits, List.takeWhile_append_of_pos h, List.dropWhile_append_of_pos h, htake, hdrop,
    List.append_nil]

theorem spanDigits_eq (h : spanDigits t = (digits, rest)) :
    t = digits ++ rest ∧ ∀ p ∈ digits, p.isAsciiDigit = true := by
  obtain ⟨rfl, rfl⟩ := Prod.mk.inj h
  refine ⟨List.takeWhile_append_dropWhile.symm, ?_⟩
  intro p hp
  exact List.mem_takeWhile_imp hp

end Digits

section Whole

variable {t rest whole : Text}

theorem IsWhole.exists_cons (h : IsWhole whole) :
    ∃ p t, whole = p :: t ∧ p.isAsciiDigit = true := by
  rcases h with rfl | ⟨h, -⟩
  · exact ⟨_, _, rfl, rfl⟩
  · exact h.exists_cons

theorem wholeDigits_append (h : IsWhole whole) (hrest : NoDigit rest) :
    wholeDigits (whole ++ rest) = (whole, rest) := by
  rcases h with rfl | ⟨h, hzero⟩
  · rfl
  · have hspan := spanDigits_append h.2 hrest
    unfold wholeDigits
    split
    · next t ht =>
      obtain ⟨p, u, rfl, -⟩ := h.exists_cons
      obtain rfl := (List.cons.inj ht).1
      exact absurd rfl hzero
    · exact hspan

theorem wholeDigits_eq (h : wholeDigits t = (whole, rest)) (hne : whole ≠ []) :
    t = whole ++ rest ∧ IsWhole whole := by
  unfold wholeDigits at h
  split at h
  · obtain ⟨rfl, rfl⟩ := Prod.mk.inj h
    exact ⟨rfl, .inl rfl⟩
  · next hzero =>
    obtain ⟨rfl, hall⟩ := spanDigits_eq h
    refine ⟨rfl, .inr ⟨⟨hne, hall⟩, ?_⟩⟩
    obtain ⟨p, u, rfl⟩ := List.exists_cons_of_ne_nil hne
    intro hp
    obtain rfl := Option.some.inj hp
    exact hzero _ rfl

end Whole

section Fraction

variable {t rest places w : Text}

theorem fraction_append (h : SpellsFraction places w) (hdigit : NoDigit rest)
    (hpoint : rest.head? ≠ some (.scalar '.')) : fraction (w ++ rest) = (places, rest) := by
  cases h with
  | absent =>
    unfold fraction
    split
    · next ht => exact absurd (congrArg List.head? ht) hpoint
    · rfl
  | digits h =>
    have hempty : places.isEmpty = false := by simpa using h.1
    simp only [fraction, List.cons_append, spanDigits_append h.2 hdigit, hempty,
      Bool.false_eq_true, if_false]

theorem fraction_eq (h : fraction t = (places, rest)) :
    ∃ w, SpellsFraction places w ∧ t = w ++ rest := by
  unfold fraction at h
  split at h
  · next after =>
    dsimp only at h
    split at h
    · obtain ⟨rfl, rfl⟩ := Prod.mk.inj h
      exact ⟨[], .absent, rfl⟩
    · next hempty =>
      obtain ⟨ht, hall⟩ := spanDigits_eq h
      have hne : places ≠ [] := by
        rw [(Prod.mk.inj h).1] at hempty
        simpa using hempty
      exact ⟨_, .digits ⟨hne, hall⟩, by rw [ht]; rfl⟩
  · obtain ⟨rfl, rfl⟩ := Prod.mk.inj h
    exact ⟨[], .absent, rfl⟩

theorem SpellsFraction.noDigit (h : SpellsFraction places w) (hrest : NoDigit rest) :
    NoDigit (w ++ rest) := by
  cases h with
  | absent => exact hrest
  | digits => exact noDigit_cons rfl

end Fraction

section Exponent

variable {t rest w : Text} {power : Option Int}

theorem exponent_append (h : SpellsExponent power w) (hrest : Stops rest) :
    exponent (w ++ rest) = (power, rest) := by
  cases h with
  | absent =>
    cases rest with
    | nil => rfl
    | cons p rest =>
      obtain ⟨-, he, hE⟩ := hrest.2 p rfl
      simp [exponent, he, hE]
  | @power mark sign digits hmark hsign h =>
    have hspan := spanDigits_append h.2 hrest.1
    have hempty : digits.isEmpty = false := by simpa using h.1
    rcases hsign with rfl | rfl | rfl
    · obtain ⟨p, t, rfl, hp⟩ := h.exists_cons
      have hplus : p ≠ .scalar '+' := by
        rintro rfl
        cases hp
      have hminus : p ≠ .scalar '-' := by
        rintro rfl
        cases hp
      simp only [List.cons_append] at hspan
      simp [exponent, hmark, hplus, hminus, hspan, signed]
    · simp [exponent, hmark, hspan, hempty, signed]
    · simp [exponent, hmark, hspan, hempty, signed]

theorem exists_sign (t : Text) :
    ∃ sign u, t = sign ++ u ∧
      (sign = [] ∨ sign = [.scalar '+'] ∨ sign = [.scalar '-']) ∧
      (if t.head?.any fun q => q == .scalar '+' || q == .scalar '-' then t.tail else t) = u ∧
      (t.head? = some (.scalar '-') ↔ sign = [.scalar '-']) := by
  cases t with
  | nil => exact ⟨[], [], rfl, .inl rfl, rfl, by simp⟩
  | cons p u =>
    by_cases hplus : p = .scalar '+'
    · subst hplus
      exact ⟨_, u, rfl, .inr (.inl rfl), by simp, by simp⟩
    by_cases hminus : p = .scalar '-'
    · subst hminus
      exact ⟨_, u, rfl, .inr (.inr rfl), by simp, by simp⟩
    · exact ⟨[], p :: u, rfl, .inl rfl, by simp [hplus, hminus], by simp [hminus]⟩

theorem exponent_eq (h : exponent t = (power, rest)) :
    ∃ w, SpellsExponent power w ∧ t = w ++ rest := by
  have habsent (h : (none, t) = (power, rest)) : ∃ w, SpellsExponent power w ∧ t = w ++ rest := by
    obtain ⟨rfl, rfl⟩ := Prod.mk.inj h
    exact ⟨[], .absent, rfl⟩
  cases t with
  | nil => exact habsent h
  | cons mark after =>
    simp only [exponent, Bool.or_eq_true, decide_eq_true_eq] at h
    split at h
    · next hmark =>
      obtain ⟨sign, u, hafter, hsign, htail, hminus⟩ := exists_sign after
      simp only [htail, hminus] at h
      cases hspan : spanDigits u with | mk digits behind
      simp only [hspan] at h
      split at h
      · exact habsent h
      · next hempty =>
        obtain ⟨rfl, rfl⟩ := Prod.mk.inj h
        obtain ⟨rfl, hall⟩ := spanDigits_eq hspan
        have hdigits : IsDigits digits := ⟨by simpa using hempty, hall⟩
        refine ⟨mark :: sign ++ digits, ?_, by simp [hafter]⟩
        convert SpellsExponent.power hmark hsign hdigits using 2
        simp [signed]
    · exact habsent h

theorem SpellsExponent.noDigit (h : SpellsExponent power w) (hrest : NoDigit rest) :
    NoDigit (w ++ rest) := by
  cases h with
  | absent => exact hrest
  | power hmark => rcases hmark with rfl | rfl <;> exact noDigit_cons rfl

theorem SpellsExponent.head_ne (h : SpellsExponent power w)
    (hrest : rest.head? ≠ some (.scalar '.')) : (w ++ rest).head? ≠ some (.scalar '.') := by
  cases h with
  | absent => exact hrest
  | power hmark => rcases hmark with rfl | rfl <;> simp

end Exponent

section Number

variable {t rest w : Text} {v : Value}

theorem signText_append (negative : Bool) {u : Text} (h : u.head? ≠ some (.scalar '-')) :
    ((signText negative ++ u).head? = some (.scalar '-') ↔ negative = true) ∧
      (if negative = true then (signText negative ++ u).tail else signText negative ++ u) = u := by
  cases negative <;> simp [signText, h]

theorem exists_signText (t : Text) :
    ∃ negative u, t = signText negative ++ u ∧
      (t.head? = some (.scalar '-') ↔ negative = true) ∧
      (if negative = true then t.tail else t) = u := by
  by_cases h : t.head? = some (.scalar '-')
  · cases t with
    | nil => cases h
    | cons p u =>
      obtain rfl := Option.some.inj h
      exact ⟨true, u, rfl, by simp, rfl⟩
  · exact ⟨false, t, rfl, by simp [h], rfl⟩

theorem IsWhole.head_ne {whole u : Text} (h : IsWhole whole) :
    (whole ++ u).head? ≠ some (.scalar '-') := by
  obtain ⟨p, t, rfl, hp⟩ := h.exists_cons
  intro hhead
  obtain rfl := Option.some.inj hhead
  cases hp

theorem number_append (h : SpellsNumber v w) (hrest : Stops rest) :
    number (w ++ rest) = .ok (v, rest) := by
  have hpoint : rest.head? ≠ some (.scalar '.') := fun hhead => (hrest.2 _ hhead).1 rfl
  cases h with
  | @int negative digits hwhole hlength =>
    obtain ⟨hhead, htail⟩ := signText_append negative (hwhole.head_ne (u := rest))
    have hfraction := fraction_append .absent hrest.1 hpoint
    have hexponent := exponent_append .absent hrest
    have hempty : digits.isEmpty = false := by
      obtain ⟨p, t, rfl, -⟩ := hwhole.exists_cons
      rfl
    rw [List.nil_append] at hfraction hexponent
    rw [List.append_assoc]
    simp only [number, hhead, htail, wholeDigits_append hwhole hrest.1, hfraction, hexponent,
      hempty, Nat.not_lt.mpr hlength, signed]
    rfl
  | @float negative whole places power fractionText exponentText hwhole hfraction hexponent
      hparts =>
    have hdigit := hexponent.noDigit hrest.1
    have hempty : whole.isEmpty = false := by
      obtain ⟨p, t, rfl, -⟩ := hwhole.exists_cons
      rfl
    have hfloat : (places.isEmpty && power.isNone) = false := by
      rcases hparts with h | h
      · simp [h]
      · simp [Option.isNone_eq_false_iff.mpr (Option.isSome_iff_ne_none.mpr h)]
    obtain ⟨hhead, htail⟩ := signText_append negative
      (hwhole.head_ne (u := fractionText ++ (exponentText ++ rest)))
    simp only [List.append_assoc]
    simp only [number, hhead, htail, wholeDigits_append hwhole (hfraction.noDigit hdigit),
      fraction_append hfraction hdigit (hexponent.head_ne hpoint),
      exponent_append hexponent hrest, hempty, hfloat, Bool.decide_eq_true]
    rfl

theorem number_eq (h : number t = .ok (v, rest)) :
    ∃ w, SpellsNumber v w ∧ t = w ++ rest := by
  obtain ⟨negative, u, ht, hhead, htail⟩ := exists_signText t
  cases hw : wholeDigits u with | mk whole t₁
  cases hf : fraction t₁ with | mk places t₂
  cases he : exponent t₂ with | mk power t₃
  obtain ⟨fractionText, hfraction, rfl⟩ := fraction_eq hf
  obtain ⟨exponentText, hexponent, rfl⟩ := exponent_eq he
  simp only [number, hhead, htail, hw, hf, he] at h
  split at h
  · cases h
  · next hempty =>
    obtain ⟨rfl, hwhole⟩ := wholeDigits_eq hw (by simpa using hempty)
    split at h
    · next hparts =>
      split at h
      · cases h
      · next hlength =>
        obtain ⟨rfl, rfl⟩ := Prod.mk.inj (Except.ok.inj h)
        obtain ⟨hplaces, hpower⟩ : places = [] ∧ power = none := by simpa using hparts
        subst hplaces hpower
        cases hexponent
        cases hfraction with
        | absent =>
          exact ⟨_, .int hwhole (Nat.not_lt.mp hlength), by rw [ht, List.append_assoc]; rfl⟩
        | digits hnone => exact absurd rfl hnone.1
    · next hparts =>
      obtain ⟨rfl, rfl⟩ := Prod.mk.inj (Except.ok.inj h)
      have hany : places ≠ [] ∨ power ≠ none := by
        by_contra hnone
        push Not at hnone
        exact hparts (by simp [hnone])
      refine ⟨_, .float hwhole hfraction hexponent hany, ?_⟩
      simp only [ht, List.append_assoc, Bool.decide_eq_true]

theorem SpellsNumber.exists_sign (h : SpellsNumber v w) :
    ∃ negative p u, w = signText negative ++ p :: u ∧ p.isAsciiDigit = true := by
  obtain ⟨negative, whole, u, hwhole, rfl⟩ : ∃ negative whole u, IsWhole whole ∧
      w = signText negative ++ (whole ++ u) := by
    cases h with
    | @int negative digits hwhole => exact ⟨negative, digits, [], hwhole, by simp⟩
    | float hwhole => exact ⟨_, _, _, hwhole, by rw [List.append_assoc, List.append_assoc]⟩
  obtain ⟨p, t, rfl, hp⟩ := hwhole.exists_cons
  exact ⟨negative, p, t ++ u, rfl, hp⟩

theorem SpellsNumber.canStart (h : SpellsNumber v w) :
    ∃ p u, w = p :: u ∧ canStart p = true ∧ p ∉ openers := by
  have hdigit {p : CodePoint} (hp : p.isAsciiDigit = true) :
      Json.canStart p = true ∧ p ∉ openers := by
    refine ⟨by simp [Json.canStart, hp], ?_⟩
    simp only [openers, List.mem_cons, List.not_mem_nil, or_false]
    rintro (rfl | rfl | rfl) <;> cases hp
  obtain ⟨negative, p, u, rfl, hp⟩ := h.exists_sign
  cases negative with
  | false => exact ⟨p, u, rfl, hdigit hp⟩
  | true => exact ⟨_, _, rfl, by decide⟩

end Number

section Names

variable {t rest w : Text} {v : Value}

theorem afterWord?_eq_some {word : String} :
    afterWord? word t = some rest ↔ t = Text.ofString word ++ rest := by
  simp only [afterWord?]
  split
  · next h =>
    obtain ⟨u, rfl⟩ := List.isPrefixOf_iff_prefix.mp h
    simp
  · next h =>
    refine iff_of_false (by simp) ?_
    rintro rfl
    exact h (List.isPrefixOf_iff_prefix.mpr (List.prefix_append _ _))

theorem words_start {name : String} (h : (name, v) ∈ words) :
    ∃ p q u, Text.ofString name = p :: q :: u ∧ (canStart p = true ∧ p ∉ openers) ∧
      p.isAsciiDigit = false ∧ q.isAsciiDigit = false := by
  simp only [words, List.mem_cons, Prod.mk.injEq, List.not_mem_nil, or_false] at h
  rcases h with ⟨rfl, -⟩ | ⟨rfl, -⟩ | ⟨rfl, -⟩ | ⟨rfl, -⟩ | ⟨rfl, -⟩ | ⟨rfl, -⟩ <;>
    exact ⟨_, _, _, rfl, by decide, rfl, rfl⟩

theorem scalar_name {name : String} (h : (name, v) ∈ words) (rest : Text) :
    scalar (Text.ofString name ++ rest) = .ok (v, rest) := by
  simp only [words, List.mem_cons, Prod.mk.injEq, List.not_mem_nil, or_false] at h
  rcases h with ⟨rfl, rfl⟩ | ⟨rfl, rfl⟩ | ⟨rfl, rfl⟩ | ⟨rfl, rfl⟩ | ⟨rfl, rfl⟩ | ⟨rfl, rfl⟩ <;> rfl

theorem scalar_number (h : SpellsNumber v w) (hrest : Stops rest) :
    scalar (w ++ rest) = .ok (v, rest) := by
  unfold scalar
  split
  · next found hfound =>
    obtain ⟨⟨name, value⟩, hname, hafter⟩ := List.exists_of_findSome?_eq_some hfound
    obtain ⟨behind, hbehind, -⟩ := Option.map_eq_some_iff.mp hafter
    obtain ⟨p, q, u, hpq, -, hp, hq⟩ := words_start hname
    obtain ⟨negative, p', u', rfl, hdigit⟩ := h.exists_sign
    rw [afterWord?_eq_some, hpq] at hbehind
    cases negative with
    | false =>
      obtain ⟨rfl, -⟩ := List.cons.inj hbehind
      rw [hp] at hdigit
      cases hdigit
    | true =>
      obtain ⟨rfl, -⟩ := List.cons.inj (List.cons.inj hbehind).2
      rw [hq] at hdigit
      cases hdigit
  · exact number_append h hrest

theorem scalar_eq (h : scalar t = .ok (v, rest)) :
    ∃ w, t = w ++ rest ∧ ((∃ name, (name, v) ∈ words ∧ w = Text.ofString name) ∨
      SpellsNumber v w) := by
  unfold scalar at h
  split at h
  · next found hfound =>
    obtain rfl := Except.ok.inj h
    obtain ⟨⟨name, value⟩, hname, hafter⟩ := List.exists_of_findSome?_eq_some hfound
    obtain ⟨behind, hbehind, hvalue⟩ := Option.map_eq_some_iff.mp hafter
    obtain ⟨rfl, rfl⟩ := Prod.mk.inj hvalue
    exact ⟨_, afterWord?_eq_some.mp hbehind, .inl ⟨name, hname, rfl⟩⟩
  · obtain ⟨w, hw, rfl⟩ := number_eq h
    exact ⟨w, rfl, .inr hw⟩

end Names

end Proceedings.Json
