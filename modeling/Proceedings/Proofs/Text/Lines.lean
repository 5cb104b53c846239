import Mathlib
import Proceedings.Text.Blank

/-! # Blanks, line ends and newlines

A text is cut at all of its line ends, and only there. Reading its carriage returns as line feeds
goes part by part, unless a line feed follows a carriage return across the parts.
-/

namespace Proceedings

namespace CodePoint

variable {p : CodePoint}

/-- A line end beyond ASCII. -/
def IsSeparator (p : CodePoint) : Prop := p.toNat = 0x85 ∨ p.toNat = 0x2028 ∨ p.toNat = 0x2029

theorem IsSeparator.isLineEnd (h : p.IsSeparator) : p.isLineEnd = true := by
  rcases h with h | h | h <;> simp [CodePoint.isLineEnd, h]

theorem not_isBlank (h : 0x20 < p.toNat) (h' : p.toNat < 0x7F) : p.isBlank = false := by
  rw [Bool.eq_false_iff]
  intro hblank
  simp only [isBlank, Bool.or_eq_true, Bool.and_eq_true, decide_eq_true_eq, beq_iff_eq] at hblank
  omega

end CodePoint

namespace Text

variable {t a b line : Text} {p : CodePoint}

theorem lines_cons (hp : p.isLineEnd = false) (t : Text) :
    lines (p :: t) = match lines t with
      | [] => [[p]]
      | line :: others => (p :: line) :: others := by
  rw [lines]
  · cases lines t <;> simp [hp]
  · rintro _ rfl
    cases hp

theorem lines_cons_of_isLineEnd (hp : p.isLineEnd = true) (hreturn : p ≠ .scalar '\r') (t : Text) :
    lines (p :: t) = [] :: lines t := by
  rw [lines]
  · simp [hp]
  · rintro _ rfl
    exact absurd rfl hreturn

theorem exists_lines_cons (hp : p.isLineEnd = true) (t : Text) :
    ∃ u, lines (p :: t) = [] :: lines u := by
  by_cases h : ∃ rest, p = .scalar '\r' ∧ t = .scalar '\n' :: rest
  · obtain ⟨rest, rfl, rfl⟩ := h
    exact ⟨rest, by rw [lines]⟩
  · refine ⟨t, ?_⟩
    rw [lines]
    · simp [hp]
    · rintro rest rfl rfl
      exact h ⟨rest, rfl, rfl⟩

theorem exists_lines_append (ha : ∀ q ∈ a, q.isLineEnd = false) (hp : p.isLineEnd = true)
    (t : Text) : ∃ others, lines (a ++ p :: t) = a :: others := by
  induction a with
  | nil =>
    obtain ⟨u, hu⟩ := exists_lines_cons hp t
    exact ⟨lines u, hu⟩
  | cons q a ih =>
    obtain ⟨hq, ha⟩ := List.forall_mem_cons.mp ha
    obtain ⟨others, hothers⟩ := ih ha
    exact ⟨others, by rw [List.cons_append, lines_cons hq, hothers]⟩

theorem lines_append_lineFeed (ha : ∀ q ∈ a, q.isLineEnd = false) (t : Text) :
    lines (a ++ .scalar '\n' :: t) = a :: lines t := by
  induction a with
  | nil => rfl
  | cons q a ih =>
    obtain ⟨hq, ha⟩ := List.forall_mem_cons.mp ha
    rw [List.cons_append, lines_cons hq, ih ha]

/-- The lines of a part that ends with a line feed come before those of the rest. -/
theorem exists_lines_of_lineFeed (ha : .scalar '\r' ∉ a) (t : Text) :
    ∃ first before, lines (a ++ .scalar '\n' :: t) = first :: before ++ lines t ∧
      ∀ line ∈ first :: before, ∀ q ∈ line, q ∈ a := by
  induction a with
  | nil => exact ⟨[], [], rfl, by simp⟩
  | cons p a ih =>
    simp only [List.mem_cons, not_or] at ha
    obtain ⟨first, before, hlines, hmem⟩ := ih ha.2
    have hmem : ∀ line ∈ first :: before, ∀ q ∈ line, q ∈ p :: a := by
      intro line hline q hq
      exact List.mem_cons_of_mem _ (hmem line hline q hq)
    cases hp : p.isLineEnd with
    | true =>
      refine ⟨[], first :: before, ?_, ?_⟩
      · rw [List.cons_append, lines_cons_of_isLineEnd hp (Ne.symm ha.1), hlines]
        rfl
      · exact List.forall_mem_cons.mpr ⟨by simp, hmem⟩
    | false =>
      refine ⟨p :: first, before, ?_, ?_⟩
      · rw [List.cons_append, lines_cons hp, hlines]
        rfl
      · obtain ⟨hfirst, hbefore⟩ := List.forall_mem_cons.mp hmem
        refine List.forall_mem_cons.mpr ⟨?_, hbefore⟩
        exact List.forall_mem_cons.mpr ⟨List.mem_cons_self, hfirst⟩

theorem isBlank_iff : t.isBlank = true ↔ ∀ q ∈ t, q.isBlank = true := List.all_eq_true

theorem trimStart_append (h : a.isBlank = true) (t : Text) : trimStart (a ++ t) = trimStart t :=
  List.dropWhile_append_of_pos (isBlank_iff.mp h)

theorem trimStart_cons_of_isBlank (h : p.isBlank = true) (t : Text) :
    trimStart (p :: t) = trimStart t := by
  rw [trimStart, List.dropWhile_cons_of_pos h]
  rfl

theorem trimStart_cons (h : p.isBlank = false) (t : Text) : trimStart (p :: t) = p :: t := by
  rw [trimStart, List.dropWhile_cons_of_neg (by simp [h])]

section Newlines

theorem unifyNewlines_cons (hp : p ≠ .scalar '\r') (t : Text) :
    unifyNewlines (p :: t) = p :: unifyNewlines t := by
  rw [unifyNewlines]
  · simp [hp]
  · rintro _ rfl
    exact absurd rfl hp

theorem unifyNewlines_of_not_mem (h : .scalar '\r' ∉ t) : unifyNewlines t = t := by
  induction t with
  | nil => rfl
  | cons p t ih =>
    simp only [List.mem_cons, not_or] at h
    rw [unifyNewlines_cons (Ne.symm h.1), ih h.2]

theorem unifyNewlines_append
    (h : a.getLast? ≠ some (.scalar '\r') ∨ b.head? ≠ some (.scalar '\n')) :
    unifyNewlines (a ++ b) = unifyNewlines a ++ unifyNewlines b := by
  fun_induction unifyNewlines a with
  | case1 => rfl
  | case2 rest ih =>
    have hrest : rest.getLast? ≠ some (.scalar '\r') ∨ b.head? ≠ some (.scalar '\n') := by
      refine h.imp_left fun hlast hrest => hlast ?_
      simp [List.getLast?_cons, hrest]
    rw [List.cons_append, List.cons_append, unifyNewlines, ih hrest, List.cons_append]
  | case3 p rest hpair ih =>
    have hrest : rest.getLast? ≠ some (.scalar '\r') ∨ b.head? ≠ some (.scalar '\n') := by
      refine h.imp_left fun hlast hrest => hlast ?_
      simp [List.getLast?_cons, hrest]
    rw [List.cons_append, unifyNewlines, ih hrest, List.cons_append]
    rintro after rfl hafter
    cases rest with
    | nil =>
      rcases h with h | h
      · exact h rfl
      · exact h (congrArg List.head? hafter)
    | cons q rest =>
      obtain ⟨rfl, -⟩ := List.cons.inj hafter
      exact hpair _ rfl rfl

end Newlines

end Text

end Proceedings
