import Proceedings.Proofs.Json.Characters
import Proceedings.Proofs.Json.Content
import Proceedings.Replay

/-! # The two formats of a log

A log may hold its objects as one JSON array or on lines of their own. The array is always read as
those objects. The lines are, too, unless an object holds a line end beyond ASCII as it stands: then
its line is cut there, and what is left of it is no JSON.
-/

namespace Proceedings.Replay

open Json

def IsOnLine (t : Text) : Prop := .scalar '\n' ∉ t ∧ .scalar '\r' ∉ t

/-- Texts on lines of their own, in order, with blank lines between them. -/
inductive OnLines : List Text → Text → Prop
  | nil : OnLines [] []
  | blank {line texts t} (hline : IsOnLine line) (hblank : line.isBlank = true)
      (h : OnLines texts t) : OnLines texts (line ++ .scalar '\n' :: t)
  | text {w texts t} (hw : IsOnLine w) (h : OnLines texts t) :
      OnLines (w :: texts) (w ++ .scalar '\n' :: t)

/-- A text that no line end cuts: one on a line without the line ends beyond ASCII. -/
def IsUncut (t : Text) : Prop := ∀ p ∈ t, ¬ p.IsSeparator

variable {path : Path} {v : Value} {w t array : Text} {texts : List Text} {values : List Value}

section Lines

theorem isLineEnd_of_isUncut (h : IsTextOf words v w) (hw : IsOnLine w) (huncut : IsUncut w) :
    ∀ p ∈ w, p.isLineEnd = false := by
  intro p hp
  rw [Bool.eq_false_iff]
  intro hend
  refine huncut p hp ((h.isAllowed p hp).isSeparator ?_ ?_ hend)
  · rintro rfl
    exact hw.1 hp
  · rintro rfl
    exact hw.2 hp

theorem readLines_blank {blank : List Text} (h : ∀ line ∈ blank, line.isBlank = true) (n : Nat)
    (rest : List Text) :
    readLines path n (blank ++ rest) = readLines path (n + blank.length) rest := by
  induction blank generalizing n with
  | nil => rfl
  | cons line blank ih =>
    obtain ⟨hline, hblank⟩ := List.forall_mem_cons.mp h
    rw [List.cons_append, readLines, if_pos hline, ih hblank, List.length_cons, Nat.add_assoc,
      Nat.add_comm 1]

theorem readLines_text (h : IsTextOf words v w) (n : Nat) (rest : List Text) :
    readLines path n (w :: rest) = (v :: ·) <$> readLines path (n + 1) rest := by
  rw [readLines, if_neg (by simp [h.not_isBlank]), read_eq_ok_iff.mpr h]
  rfl

theorem exists_lineEnd (h : ∃ p ∈ w, p.isLineEnd = true) :
    ∃ a p b, w = a ++ p :: b ∧ (∀ q ∈ a, q.isLineEnd = false) ∧ p.isLineEnd = true := by
  induction w with
  | nil =>
    obtain ⟨p, hp, -⟩ := h
    cases hp
  | cons q w ih =>
    cases hq : q.isLineEnd with
    | true => exact ⟨[], q, w, rfl, nofun, hq⟩
    | false =>
      obtain ⟨p, hp, hend⟩ := h
      rcases List.mem_cons.mp hp with rfl | hp
      · rw [hq] at hend
        cases hend
      · obtain ⟨a, r, b, rfl, ha, hr⟩ := ih ⟨p, hp, hend⟩
        exact ⟨q :: a, r, b, rfl, List.forall_mem_cons.mpr ⟨hq, ha⟩, hr⟩

/-- What stands on the first line of an object that is cut cannot be read. -/
theorem exists_cut (h : IsTextOf words v w) (hw : IsOnLine w) (hcut : ¬ IsUncut w) (t : Text) :
    ∃ line others, (w ++ .scalar '\n' :: t).lines = line :: others ∧ line.isBlank = false ∧
      ∀ v', Json.read line ≠ .ok v' := by
  have hend : ∃ p ∈ w, p.isLineEnd = true := by
    by_contra hnone
    refine hcut fun p hp hseparator => hnone ⟨p, hp, hseparator.isLineEnd⟩
  obtain ⟨a, p, b, rfl, ha, hp⟩ := exists_lineEnd hend
  have hmem : p ∈ a ++ p :: b := by simp
  have hseparator : p.IsSeparator := by
    refine (h.isAllowed p hmem).isSeparator ?_ ?_ hp
    · rintro rfl
      exact hw.1 hmem
    · rintro rfl
      exact hw.2 hmem
  have hbeyond : 0x7F ≤ p.toNat := by
    unfold CodePoint.IsSeparator at hseparator
    omega
  obtain ⟨others, hothers⟩ := Text.exists_lines_append ha hp (b ++ .scalar '\n' :: t)
  refine ⟨a, others, ?_, not_isBlank_before h hbeyond, ?_⟩
  · rw [List.append_assoc, List.cons_append, hothers]
  · intro v' hread
    exact not_isTextOf_before h hbeyond (read_eq_ok_iff.mp hread)

theorem readLines_cut {line : Text} (hblank : line.isBlank = false)
    (hread : ∀ v', Json.read line ≠ .ok v') (n : Nat) (others : List Text) :
    readLines path n (line :: others) ≠ .ok values := by
  intro h
  rw [readLines, if_neg (by simp [hblank])] at h
  obtain ⟨v', hv', -⟩ := bind_eq_ok.mp h
  cases hline : Json.read line with
  | ok v => exact hread v hline
  | error e =>
    rw [hline] at hv'
    cases hv'

/-- Objects on lines are read as they stand exactly if none is cut. -/
theorem readLines_onLines (h : OnLines texts t)
    (htexts : List.Forall₂ (fun w v => IsTextOf words v w) texts values) (n : Nat) :
    readLines path n t.lines = .ok values ↔ ∀ w ∈ texts, IsUncut w := by
  induction h generalizing values n with
  | nil =>
    cases htexts
    simp [Text.lines, readLines]
  | @blank line texts t hline hblank _ ih =>
    obtain ⟨first, before, hlines, hmem⟩ := Text.exists_lines_of_lineFeed hline.2 t
    have hbefore : ∀ l ∈ first :: before, l.isBlank = true := by
      intro l hl
      rw [Text.isBlank_iff]
      intro q hq
      exact Text.isBlank_iff.mp hblank q (hmem l hl q hq)
    rw [hlines, readLines_blank hbefore, ih htexts]
  | @text w texts t hw _ ih =>
    cases htexts with
    | @cons _ v _ values htext htexts =>
      by_cases huncut : IsUncut w
      · rw [Text.lines_append_lineFeed (isLineEnd_of_isUncut htext hw huncut),
          readLines_text htext, map_eq_ok]
        simp [ih htexts, huncut]
      · obtain ⟨line, others, hlines, hblank, hread⟩ := exists_cut htext hw huncut t
        rw [hlines]
        refine iff_of_false (readLines_cut hblank hread n others) ?_
        intro hall
        exact huncut (hall w List.mem_cons_self)

end Lines

section Values

theorem trimStart_spelled {sp part} (hsp : Spaces sp) (hw : Spells words part w) (rest : Text) :
    (sp ++ (w ++ rest)).trimStart = w ++ rest := by
  obtain ⟨p, u, rfl, hp⟩ := hw.canStart
  rw [Text.trimStart_append hsp.isBlank, List.cons_append,
    Text.trimStart_cons (isBlank_of_canStart hp)]

theorem readValues_array (h : IsTextOf words (.list values) array) (path : Path) :
    readValues path array = .ok values := by
  obtain ⟨sp, w, sp', hsp, hw, hsp', rfl⟩ := h
  have htext : IsTextOf words (.list values) (w ++ sp') := ⟨[], w, sp', nofun, hw, hsp', rfl⟩
  have hhead : (w ++ sp').head? = some (.scalar '[') := by
    rw [List.head?_append, hw.head_eq_bracket.mpr ⟨values, rfl⟩, Option.some_or]
  rw [readValues, List.append_assoc, trimStart_spelled hsp hw, if_pos hhead,
    read_eq_ok_iff.mpr htext]
  rfl

def AreObjects (values : List Value) : Prop := ∀ v ∈ values, ∃ fields, v = .object fields

theorem head_onLines (h : OnLines texts t)
    (htexts : List.Forall₂ (fun w v => IsTextOf words v w) texts values)
    (hobjects : AreObjects values) : t.trimStart.head? ≠ some (.scalar '[') := by
  induction h generalizing values with
  | nil => simp [Text.trimStart]
  | blank hline hblank _ ih =>
    rw [Text.trimStart_append hblank, Text.trimStart_cons_of_isBlank rfl]
    exact ih htexts hobjects
  | text =>
    cases htexts with
    | cons htext htexts =>
      obtain ⟨⟨fields, rfl⟩, -⟩ := List.forall_mem_cons.mp hobjects
      obtain ⟨sp, w, sp', hsp, hw, -, rfl⟩ := htext
      rw [List.append_assoc, List.append_assoc, trimStart_spelled hsp hw]
      obtain ⟨p, u, rfl, -⟩ := hw.canStart
      intro hhead
      obtain ⟨vs, hvs⟩ := hw.head_eq_bracket.mp hhead
      cases hvs

theorem readValues_lines (h : OnLines texts t)
    (htexts : List.Forall₂ (fun w v => IsTextOf words v w) texts values)
    (hobjects : AreObjects values) (path : Path) :
    readValues path t = .ok values ↔ ∀ w ∈ texts, IsUncut w := by
  rw [readValues, if_neg (head_onLines h htexts hobjects), readLines_onLines h htexts]

theorem OnLines.unifyNewlines (h : OnLines texts t) : t.unifyNewlines = t := by
  refine Text.unifyNewlines_of_not_mem ?_
  induction h with
  | nil => exact List.not_mem_nil
  | blank hline _ _ ih => simp [hline.2, ih]
  | text hw _ ih => simp [hw.2, ih]

end Values

end Proceedings.Replay
