import Proceedings.Proofs.Json.Reader
import Proceedings.Proofs.Text.Lines

/-! # What JSON texts are made of

A JSON text holds no control characters but tabs, line feeds and carriage returns, and these only
between its parts. So it may be cut only at a line end beyond ASCII between quotes, and what stands
before that is no JSON text.
-/

namespace Proceedings.Json

def IsPlain (p : CodePoint) : Prop := 0x20 ≤ p.toNat

instance : DecidablePred IsPlain := fun p => inferInstanceAs (Decidable (0x20 ≤ p.toNat))

section Plain

variable {t w : Text} {p : CodePoint} {v : Value}

theorem isPlain_of_isAsciiDigit (h : p.isAsciiDigit = true) : IsPlain p := by
  simp only [CodePoint.isAsciiDigit, Bool.and_eq_true, decide_eq_true_eq] at h
  unfold IsPlain
  omega

theorem IsDigits.isPlain (h : IsDigits w) : ∀ p ∈ w, IsPlain p :=
  fun p hp => isPlain_of_isAsciiDigit (h.2 p hp)

theorem isPlain_append {a b : Text} (ha : ∀ p ∈ a, IsPlain p) (hb : ∀ p ∈ b, IsPlain p) :
    ∀ p ∈ a ++ b, IsPlain p :=
  List.forall_mem_append.mpr ⟨ha, hb⟩

theorem isPlain_cons {a : Text} (hp : IsPlain p) (ha : ∀ q ∈ a, IsPlain q) :
    ∀ q ∈ p :: a, IsPlain q :=
  List.forall_mem_cons.mpr ⟨hp, ha⟩

theorem IsWhole.isPlain (h : IsWhole w) : ∀ p ∈ w, IsPlain p := by
  rcases h with rfl | ⟨h, -⟩
  · exact isPlain_cons (by decide) nofun
  · exact h.isPlain

theorem SpellsFraction.isPlain (h : SpellsFraction t w) : ∀ p ∈ w, IsPlain p := by
  cases h with
  | absent => nofun
  | digits h => exact isPlain_cons (by decide) h.isPlain

theorem SpellsExponent.isPlain {power : Option Int} (h : SpellsExponent power w) :
    ∀ p ∈ w, IsPlain p := by
  cases h with
  | absent => nofun
  | @power mark sign digits hmark hsign h =>
    have hsigned : ∀ p ∈ sign, IsPlain p := by
      rcases hsign with rfl | rfl | rfl <;> decide
    rcases hmark with rfl | rfl
    · exact isPlain_append (isPlain_cons (by decide) hsigned) h.isPlain
    · exact isPlain_append (isPlain_cons (by decide) hsigned) h.isPlain

theorem signText_isPlain (negative : Bool) : ∀ p ∈ signText negative, IsPlain p := by
  cases negative with
  | false => nofun
  | true => decide

theorem SpellsNumber.isPlain (h : SpellsNumber v w) : ∀ p ∈ w, IsPlain p := by
  cases h with
  | int h => exact isPlain_append (signText_isPlain _) h.isPlain
  | float hwhole hfraction hexponent =>
    exact isPlain_append (isPlain_append (isPlain_append (signText_isPlain _) hwhole.isPlain)
      hfraction.isPlain) hexponent.isPlain

theorem words_isPlain {name : String} (h : (name, v) ∈ words) :
    ∀ p ∈ Text.ofString name, IsPlain p := by
  simp only [words, List.mem_cons, Prod.mk.injEq, List.not_mem_nil, or_false] at h
  rcases h with ⟨rfl, -⟩ | ⟨rfl, -⟩ | ⟨rfl, -⟩ | ⟨rfl, -⟩ | ⟨rfl, -⟩ | ⟨rfl, -⟩ <;> decide

theorem isPlain_of_hexValue? {n : Nat} (h : p.hexValue? = some n) : IsPlain p := by
  unfold CodePoint.hexValue? at h
  split at h
  · next c =>
    have hdigit (start : Char) (hstart : 0x20 ≤ start.toNat) (hc : start ≤ c) :
        IsPlain (.scalar c) := hstart.trans hc
    split at h
    · next hc => exact hdigit '0' (by decide) (by simp at hc; exact hc.1)
    · split at h
      · next hc => exact hdigit 'a' (by decide) (by simp at hc; exact hc.1)
      · split at h
        · next hc => exact hdigit 'A' (by decide) (by simp at hc; exact hc.1)
        · cases h
  · cases h

theorem SpellsHex.isPlain {n : Nat} (h : SpellsHex n w) : ∀ p ∈ hexEscape w, IsPlain p := by
  obtain ⟨hlength, hn⟩ := h
  match w, hlength with
  | [a, b, c, d], _ =>
    simp only [hexFour?, Option.bind_eq_bind, Option.bind_eq_some_iff] at hn
    obtain ⟨_, ha, _, hb, _, hc, _, hd, -⟩ := hn
    refine isPlain_cons (by decide) (isPlain_cons (by decide) ?_)
    refine isPlain_cons (isPlain_of_hexValue? ha) (isPlain_cons (isPlain_of_hexValue? hb) ?_)
    exact isPlain_cons (isPlain_of_hexValue? hc) (isPlain_cons (isPlain_of_hexValue? hd) nofun)

theorem SpellsText.isPlain (h : SpellsText t w) : ∀ p ∈ w, IsPlain p := by
  induction h with
  | nil => nofun
  | plain _ _ hcontrol _ ih => exact isPlain_cons hcontrol ih
  | @simple p q _ _ hescape _ ih =>
    have hq : IsPlain q := by
      unfold simpleEscape? at hescape
      split at hescape <;> first | decide | cases hescape
    exact isPlain_cons (by decide) (isPlain_cons hq ih)
  | point hhex _ _ ih => exact isPlain_append hhex.isPlain ih
  | pair hfirst _ hsecond _ _ ih =>
    exact isPlain_append (isPlain_append hfirst.isPlain hsecond.isPlain) ih

theorem inQuotes_isPlain (h : SpellsText t w) : ∀ p ∈ inQuotes w, IsPlain p :=
  isPlain_append (isPlain_cons (by decide) h.isPlain) (by decide)

end Plain

/-- A code point that a JSON text may hold: a blank, or no control character. -/
def IsAllowed (p : CodePoint) : Prop := isSpace p = true ∨ IsPlain p

section Allowed

variable {names : List (String × Value)} {part : Part} {w sp t : Text} {p : CodePoint} {v : Value}

theorem isAllowed_append {a b : Text} (ha : ∀ p ∈ a, IsAllowed p) (hb : ∀ p ∈ b, IsAllowed p) :
    ∀ p ∈ a ++ b, IsAllowed p :=
  List.forall_mem_append.mpr ⟨ha, hb⟩

theorem isAllowed_cons {a : Text} (hp : IsPlain p) (ha : ∀ q ∈ a, IsAllowed q) :
    ∀ q ∈ p :: a, IsAllowed q :=
  List.forall_mem_cons.mpr ⟨.inr hp, ha⟩

theorem Spaces.isAllowed (h : Spaces sp) : ∀ p ∈ sp, IsAllowed p := fun p hp => .inl (h p hp)

theorem inQuotes_isAllowed (h : SpellsText t w) : ∀ p ∈ inQuotes w, IsAllowed p :=
  fun p hp => .inr (inQuotes_isPlain h p hp)

theorem isAllowed_opening {a : Text} (hp : IsPlain p) (hsp : Spaces sp)
    (ha : ∀ q ∈ a, IsAllowed q) : ∀ q ∈ p :: sp ++ a, IsAllowed q :=
  isAllowed_append (isAllowed_cons hp hsp.isAllowed) ha

theorem isAllowed_joint {a b : Text} (ha : ∀ q ∈ a, IsAllowed q) (hsp : Spaces sp) (hp : IsPlain p)
    (hb : ∀ q ∈ b, IsAllowed q) : ∀ q ∈ a ++ sp ++ p :: b, IsAllowed q :=
  isAllowed_append (isAllowed_append ha hsp.isAllowed) (isAllowed_cons hp hb)

theorem Spells.isAllowed (h : Spells words part w) : ∀ p ∈ w, IsAllowed p := by
  induction h with
  | name h => exact fun p hp => .inr (words_isPlain h p hp)
  | number h => exact fun p hp => .inr (h.isPlain p hp)
  | text h => exact inQuotes_isAllowed h
  | noItems hsp | noFields hsp =>
    exact isAllowed_opening (by decide) hsp (isAllowed_cons (by decide) nofun)
  | array hsp _ ih | object hsp _ ih => exact isAllowed_opening (by decide) hsp ih
  | lastItem _ hsp ih | lastField _ hsp ih => exact isAllowed_joint ih hsp (by decide) nofun
  | item _ hsp hsp' _ ih ihrest | field _ hsp hsp' _ ih ihrest =>
    exact isAllowed_append (isAllowed_joint ih hsp (by decide) hsp'.isAllowed) ihrest
  | entry hk hsp hsp' _ ih =>
    have hkey := inQuotes_isAllowed hk
    exact isAllowed_append (isAllowed_joint hkey hsp (by decide) hsp'.isAllowed) ih

theorem IsTextOf.isAllowed (h : IsTextOf words v t) : ∀ p ∈ t, IsAllowed p := by
  obtain ⟨sp, w, sp', hsp, hw, hsp', rfl⟩ := h
  exact isAllowed_append (isAllowed_append hsp.isAllowed hw.isAllowed) hsp'.isAllowed

/-- A JSON text on one line ends a line at most at a separator beyond ASCII. -/
theorem IsAllowed.isSeparator (h : IsAllowed p) (hfeed : p ≠ .scalar '\n')
    (hreturn : p ≠ .scalar '\r') (hend : p.isLineEnd = true) : p.IsSeparator := by
  rcases h with h | h
  · rcases isSpace_iff.mp h with rfl | rfl | rfl | rfl
    · cases hend
    · cases hend
    · exact absurd rfl hfeed
    · exact absurd rfl hreturn
  · simp only [CodePoint.isLineEnd, Bool.or_eq_true, Bool.and_eq_true, decide_eq_true_eq,
      beq_iff_eq] at hend
    unfold IsPlain at h
    unfold CodePoint.IsSeparator
    omega

end Allowed

section Cut

variable {a b sp w t : Text} {p : CodePoint} {v v' : Value}

theorem canStart_range (h : canStart p = true) : 0x20 < p.toNat ∧ p.toNat < 0x7F := by
  simp only [canStart, Bool.or_eq_true, List.contains_iff_mem] at h
  have hword : ∀ q ∈ Text.ofString "-ntfNI", 0x20 < q.toNat ∧ q.toNat < 0x7F := by decide
  have hopen : ∀ q ∈ openers, 0x20 < q.toNat ∧ q.toNat < 0x7F := by decide
  rcases h with (h | h) | h
  · simp only [CodePoint.isAsciiDigit, Bool.and_eq_true, decide_eq_true_eq] at h
    omega
  · exact hword p h
  · exact hopen p h

theorem isBlank_of_canStart (h : canStart p = true) : p.isBlank = false :=
  CodePoint.not_isBlank (canStart_range h).1 (canStart_range h).2

theorem Spaces.isBlank (h : Spaces sp) : sp.isBlank = true := by
  rw [Text.isBlank_iff]
  intro p hp
  rcases isSpace_iff.mp (h p hp) with rfl | rfl | rfl | rfl <;> rfl

theorem isSpace_beyond (h : 0x7F ≤ p.toNat) : isSpace p = false := by
  rw [Bool.eq_false_iff, ne_eq, isSpace_iff]
  rintro (rfl | rfl | rfl | rfl) <;> exact absurd h (by decide)

theorem stops_beyond (h : 0x7F ≤ p.toNat) : Stops (p :: t) := by
  refine stops_cons ?_ ⟨?_, ?_, ?_⟩
  · simp only [CodePoint.isAsciiDigit, Bool.and_eq_false_iff, decide_eq_false_iff_not]
    omega
  all_goals
    rintro rfl
    exact absurd h (by decide)

theorem not_isTextOf_before (h : IsTextOf words v (a ++ p :: b)) (hp : 0x7F ≤ p.toNat) :
    ¬ IsTextOf words v' a := by
  rintro ⟨sp, w, sp', hsp, hw, hsp', rfl⟩
  have hfollows : Follows (.value v') (sp' ++ p :: b) := stops_spaces hsp' (stops_beyond hp)
  have hfuel : 2 * w.length ≤ 2 * (sp ++ w ++ sp' ++ p :: b).length + 2 := by
    simp only [List.length_append]
    omega
  have hvalue : value _ (w ++ (sp' ++ p :: b)) = .ok (v', sp' ++ p :: b) :=
    reads_of_spells hw hfuel hfollows
  have hskip : skipSpace (sp ++ w ++ sp' ++ p :: b) = w ++ (sp' ++ p :: b) := by
    rw [List.append_assoc, List.append_assoc, skipSpace_spelled hw hsp]
  have hleft : skipSpace (sp' ++ p :: b) = p :: b := by
    rw [skipSpace_append hsp', skipSpace_cons (isSpace_beyond hp)]
  have hdocument := document_of_isTextOf h
  rw [document, if_neg (head_ne_mark h), hskip, hvalue, ok_bind] at hdocument
  simp only [hleft] at hdocument
  cases hdocument

theorem not_isBlank_before (h : IsTextOf words v (a ++ p :: b)) (hp : 0x7F ≤ p.toNat) :
    a.isBlank = false := by
  obtain ⟨sp, w, sp', hsp, hw, -, ht⟩ := h
  obtain ⟨q, u, rfl, hq⟩ := hw.canStart
  have hne : p ≠ q := by
    rintro rfl
    have hrange := canStart_range hq
    omega
  have hmem : q ∈ a := by
    rw [List.append_assoc, List.append_eq_append_iff] at ht
    rcases ht with ⟨c, rfl, hc⟩ | ⟨c, rfl, hc⟩
    · -- The code point would be among the blanks, or the first one behind them.
      cases c with
      | nil => exact absurd (List.cons.inj hc).1 hne
      | cons r c =>
        obtain ⟨rfl, -⟩ := List.cons.inj hc
        have hspace := hsp p (by simp)
        rw [isSpace_beyond hp] at hspace
        cases hspace
    · cases c with
      | nil => exact absurd (List.cons.inj hc).1.symm hne
      | cons r c =>
        obtain ⟨rfl, -⟩ := List.cons.inj hc
        simp
  rw [Bool.eq_false_iff]
  intro hblank
  have hqblank := Text.isBlank_iff.mp hblank q hmem
  rw [isBlank_of_canStart hq] at hqblank
  cases hqblank

theorem IsTextOf.not_isBlank (h : IsTextOf words v t) : t.isBlank = false := by
  obtain ⟨sp, w, sp', -, hw, -, rfl⟩ := h
  obtain ⟨q, u, rfl, hq⟩ := hw.canStart
  rw [Bool.eq_false_iff]
  intro hblank
  have hqblank := Text.isBlank_iff.mp hblank q (by simp)
  rw [isBlank_of_canStart hq] at hqblank
  cases hqblank

end Cut

section Newlines

variable {part : Part} {a b sp sp' w t : Text} {p : CodePoint} {v : Value}

theorem Spaces.unifyNewlines (h : Spaces sp) : Spaces sp.unifyNewlines := by
  fun_induction Text.unifyNewlines sp with
  | case1 => exact h
  | case2 rest ih =>
    refine List.forall_mem_cons.mpr ⟨rfl, ih ?_⟩
    intro p hp
    exact h p (by simp [hp])
  | case3 p rest _ ih =>
    obtain ⟨hp, hrest⟩ := List.forall_mem_cons.mp h
    refine List.forall_mem_cons.mpr ⟨?_, ih hrest⟩
    split
    · rfl
    · exact hp

theorem ne_return_of_isPlain (h : IsPlain p) : p ≠ .scalar '\r' := by
  rintro rfl
  exact absurd h (by decide)

theorem unifyNewlines_of_isPlain (h : ∀ p ∈ w, IsPlain p) : w.unifyNewlines = w := by
  refine Text.unifyNewlines_of_not_mem ?_
  intro hmem
  exact absurd (h _ hmem) (by decide)

theorem Spells.head_ne_lineFeed (h : Spells words part w) : w.head? ≠ some (.scalar '\n') := by
  obtain ⟨p, u, rfl, hp⟩ := h.canStart
  intro hhead
  obtain rfl := Option.some.inj hhead
  cases hp

theorem last_append {a b : Text} (hne : b ≠ []) (hb : b.getLast? ≠ some (.scalar '\r')) :
    (a ++ b).getLast? ≠ some (.scalar '\r') := by
  have hp := List.getLast?_eq_some_getLast hne
  rw [hp] at hb
  rwa [List.getLast?_append, hp, Option.some_or]

theorem Spells.ne_nil (h : Spells words part w) : w ≠ [] := by
  obtain ⟨p, u, rfl, -⟩ := h.canStart
  exact List.cons_ne_nil p u

theorem inQuotes_last_ne_return (w : Text) : (inQuotes w).getLast? ≠ some (.scalar '\r') :=
  last_append (by simp) (by simp)

theorem Spells.last_ne_return (h : Spells words part w) : w.getLast? ≠ some (.scalar '\r') := by
  have hplain {w : Text} (h : ∀ p ∈ w, IsPlain p) : w.getLast? ≠ some (.scalar '\r') := by
    intro hlast
    exact absurd (h _ (List.mem_of_getLast? hlast)) (by decide)
  induction h with
  | name h => exact hplain (words_isPlain h)
  | number h => exact hplain h.isPlain
  | text => exact inQuotes_last_ne_return _
  | noItems | noFields | lastItem | lastField => exact last_append (by simp) (by simp)
  | array _ h ih => exact last_append h.ne_nil ih
  | object _ h ih => exact last_append h.ne_nil ih
  | entry _ _ _ h ih => exact last_append h.ne_nil ih
  | item _ _ _ hrest _ ih => exact last_append hrest.ne_nil ih
  | field _ _ _ hrest _ ih => exact last_append hrest.ne_nil ih

theorem inQuotes_unifyNewlines (h : SpellsText t w) : (inQuotes w).unifyNewlines = inQuotes w :=
  unifyNewlines_of_isPlain (inQuotes_isPlain h)

theorem unifyNewlines_opening (hp : IsPlain p) (hb : b.head? ≠ some (.scalar '\n')) :
    Text.unifyNewlines (p :: sp ++ b) = p :: sp.unifyNewlines ++ b.unifyNewlines := by
  rw [Text.unifyNewlines_append (.inr hb), Text.unifyNewlines_cons (ne_return_of_isPlain hp)]

/-- A mark is no part of a line end, so it parts the line ends on its two sides. -/
theorem unifyNewlines_mark (ha : a.getLast? ≠ some (.scalar '\r')) (hp : IsPlain p) :
    Text.unifyNewlines (a ++ sp ++ p :: b) =
      a.unifyNewlines ++ sp.unifyNewlines ++ p :: b.unifyNewlines := by
  have hmark : (p :: b).head? ≠ some (.scalar '\n') := by
    intro hhead
    obtain rfl := Option.some.inj hhead
    exact absurd hp (by decide)
  rw [Text.unifyNewlines_append (.inr hmark), Text.unifyNewlines_append (.inl ha),
    Text.unifyNewlines_cons (ne_return_of_isPlain hp)]

theorem unifyNewlines_joint (ha : a.getLast? ≠ some (.scalar '\r')) (hp : IsPlain p)
    (hb : b.head? ≠ some (.scalar '\n')) :
    Text.unifyNewlines (a ++ sp ++ p :: sp' ++ b) =
      a.unifyNewlines ++ sp.unifyNewlines ++ p :: sp'.unifyNewlines ++ b.unifyNewlines := by
  rw [Text.unifyNewlines_append (.inr hb), unifyNewlines_mark ha hp]

/-- Line ends are only between the parts of a JSON text, and are blanks there. -/
theorem Spells.unifyNewlines (h : Spells words part w) : Spells words part w.unifyNewlines := by
  induction h with
  | name h =>
    rw [unifyNewlines_of_isPlain (words_isPlain h)]
    exact .name h
  | number h =>
    rw [unifyNewlines_of_isPlain h.isPlain]
    exact .number h
  | text h =>
    rw [inQuotes_unifyNewlines h]
    exact .text h
  | noItems hsp =>
    rw [unifyNewlines_opening (by decide) (by decide)]
    exact .noItems hsp.unifyNewlines
  | array hsp h ih =>
    rw [unifyNewlines_opening (by decide) h.head_ne_lineFeed]
    exact .array hsp.unifyNewlines ih
  | noFields hsp =>
    rw [unifyNewlines_opening (by decide) (by decide)]
    exact .noFields hsp.unifyNewlines
  | object hsp h ih =>
    rw [unifyNewlines_opening (by decide) h.head_ne_lineFeed]
    exact .object hsp.unifyNewlines ih
  | lastItem h hsp ih =>
    rw [unifyNewlines_mark h.last_ne_return (by decide)]
    exact .lastItem ih hsp.unifyNewlines
  | item h hsp hsp' hrest ih ihrest =>
    rw [unifyNewlines_joint h.last_ne_return (by decide) hrest.head_ne_lineFeed]
    exact .item ih hsp.unifyNewlines hsp'.unifyNewlines ihrest
  | @entry k u _ _ _ _ hk hsp hsp' h ih =>
    rw [unifyNewlines_joint (inQuotes_last_ne_return u) (by decide) h.head_ne_lineFeed,
      inQuotes_unifyNewlines hk]
    exact .entry hk hsp.unifyNewlines hsp'.unifyNewlines ih
  | lastField h hsp ih =>
    rw [unifyNewlines_mark h.last_ne_return (by decide)]
    exact .lastField ih hsp.unifyNewlines
  | field h hsp hsp' hrest ih ihrest =>
    rw [unifyNewlines_joint h.last_ne_return (by decide) hrest.head_ne_lineFeed]
    exact .field ih hsp.unifyNewlines hsp'.unifyNewlines ihrest

theorem IsTextOf.unifyNewlines (h : IsTextOf words v t) : IsTextOf words v t.unifyNewlines := by
  obtain ⟨sp, w, sp', hsp, hw, hsp', rfl⟩ := h
  refine ⟨_, _, _, hsp.unifyNewlines, hw.unifyNewlines, hsp'.unifyNewlines, ?_⟩
  rw [Text.unifyNewlines_append (.inl (last_append hw.ne_nil hw.last_ne_return)),
    Text.unifyNewlines_append (.inr hw.head_ne_lineFeed)]

end Newlines

end Proceedings.Json
