import Mathlib.Data.List.Basic
import Proceedings.Sorting.Search

/-! # What a search finds

A property of the first elements of a list only splits the list in two. Halving and leaping both
find how many elements have it, whatever the place from which the leaps start.
-/

namespace Proceedings.Sorting

variable {α : Type} {p : α → Bool} {l : List α} {i j : Nat}

/-- A property that, once it does not hold, holds of no later element. -/
def IsInitial (p : α → Bool) (l : List α) : Prop := l.Pairwise fun x y => p y = true → p x = true

namespace IsInitial

theorem sublist {l' : List α} (h : IsInitial p l) (hsub : l'.Sublist l) : IsInitial p l' :=
  List.Pairwise.sublist hsub h

theorem forall_mem_take (h : IsInitial p l) : ∀ x ∈ l.take (l.countP p), p x = true := by
  induction l with
  | nil => simp
  | cons y l ih =>
    obtain ⟨hy, hl⟩ := List.pairwise_cons.mp h
    by_cases hpy : p y = true
    · rw [List.countP_cons_of_pos hpy, List.take_succ_cons]
      exact List.forall_mem_cons.mpr ⟨hpy, ih hl⟩
    · have hnone : l.countP p = 0 := List.countP_eq_zero.mpr fun x hx hpx => hpy (hy x hx hpx)
      rw [List.countP_cons_of_neg hpy, hnone]
      nofun

theorem forall_mem_drop (h : IsInitial p l) : ∀ x ∈ l.drop (l.countP p), p x = false := by
  induction l with
  | nil => simp
  | cons y l ih =>
    obtain ⟨hy, hl⟩ := List.pairwise_cons.mp h
    by_cases hpy : p y = true
    · rw [List.countP_cons_of_pos hpy, List.drop_succ_cons]
      exact ih hl
    · have hnone : l.countP p = 0 := List.countP_eq_zero.mpr fun x hx hpx => hpy (hy x hx hpx)
      rw [List.countP_cons_of_neg hpy, hnone]
      refine List.forall_mem_cons.mpr ⟨eq_false_of_ne_true hpy, fun x hx => ?_⟩
      exact eq_false_of_ne_true fun hpx => hpy (hy x hx hpx)

variable {x : α}

theorem countP_take (h : IsInitial p l) (hi : l[i]? = some x) (hx : p x = true) :
    (l.take (i + 1)).countP p = i + 1 := by
  have hall : ∀ y ∈ l.take (i + 1), p y = true := by
    have hinitial := h.sublist (List.take_sublist (i + 1) l)
    rw [List.take_add_one, hi] at hinitial ⊢
    intro y hy
    rcases List.mem_append.mp hy with hy | hy
    · exact (List.pairwise_append.mp hinitial).2.2 y hy x List.mem_cons_self hx
    · rwa [List.mem_singleton.mp hy]
  obtain ⟨hlt, -⟩ := List.getElem?_eq_some_iff.mp hi
  rw [List.countP_eq_length.mpr hall, List.length_take]
  omega

theorem countP_drop (h : IsInitial p l) (hj : ∀ x ∈ l[j]?, p x = false) :
    (l.drop j).countP p = 0 := by
  rw [List.countP_eq_zero]
  intro y hy hpy
  have hinitial := h.sublist (List.drop_sublist j l)
  cases hdrop : l.drop j with
  | nil => rw [hdrop] at hy; cases hy
  | cons x rest =>
    have hx : p x = false := hj x (by rw [← List.head?_drop, hdrop]; rfl)
    rw [hdrop] at hy hinitial
    rcases List.mem_cons.mp hy with rfl | hy
    · rw [hx] at hpy
      cases hpy
    · rw [(List.pairwise_cons.mp hinitial).1 y hy hpy] at hx
      cases hx

/-- Between elements with the property and elements without it is left what is to be counted. -/
theorem countP_eq (hi : (l.take i).countP p = i) (hij : i ≤ j) (hj : (l.drop j).countP p = 0) :
    l.countP p = i + ((l.take j).drop i).countP p := by
  have htake : (l.take j).take i = l.take i := by rw [List.take_take, Nat.min_eq_left hij]
  calc l.countP p = (l.take j).countP p + (l.drop j).countP p := by
        rw [← List.countP_append, List.take_append_drop]
    _ = ((l.take j).take i).countP p + ((l.take j).drop i).countP p := by
        rw [hj, ← List.countP_append, List.take_append_drop, Nat.add_zero]
    _ = i + ((l.take j).drop i).countP p := by rw [htake, hi]

end IsInitial

theorem bisect_of_drop {y : α} {ys : List α} (h : l.drop (l.length / 2) = y :: ys) :
    bisect p l =
      if p y then l.length / 2 + 1 + bisect p ys else bisect p (l.take (l.length / 2)) := by
  rw [bisect]
  split
  · next hnil =>
    rw [h] at hnil
    cases hnil
  · next hcons =>
    obtain ⟨rfl, rfl⟩ := List.cons.inj (h.symm.trans hcons)
    rfl

theorem bisect_eq (h : IsInitial p l) : bisect p l = l.countP p := by
  fun_induction bisect p l with
  | case1 l hdrop =>
    have hlength := congrArg List.length hdrop
    rw [List.length_drop, List.length_nil] at hlength
    have hnil : l = [] := List.length_eq_zero_iff.mp (by omega)
    rw [hnil, List.countP_nil]
  | case2 l y ys hdrop hy ih =>
    have hmiddle : l[l.length / 2]? = some y := by rw [← List.head?_drop, hdrop]; rfl
    have htail : l.drop (l.length / 2 + 1) = ys := by rw [← List.tail_drop, hdrop, List.tail_cons]
    have hys := h.sublist (List.drop_sublist (l.length / 2 + 1) l)
    have hsplit := List.take_append_drop (l.length / 2 + 1) l
    rw [htail] at hys hsplit
    calc l.length / 2 + 1 + bisect p ys
        = (l.take (l.length / 2 + 1)).countP p + ys.countP p := by
          rw [ih hys, h.countP_take hmiddle hy]
      _ = l.countP p := by rw [← List.countP_append, hsplit]
  | case3 l y ys hdrop hy ih =>
    have hmiddle : l[l.length / 2]? = some y := by rw [← List.head?_drop, hdrop]; rfl
    have hnone : (l.drop (l.length / 2)).countP p = 0 := by
      refine h.countP_drop fun x hx => ?_
      obtain rfl := Option.some.inj (hmiddle.symm.trans hx)
      exact eq_false_of_ne_true hy
    rw [ih (h.sublist (List.take_sublist _ l)), IsInitial.countP_eq rfl (Nat.zero_le _) hnone,
      Nat.zero_add, List.drop_zero]

/-- Leaps end between a place with the property and the end of the list or a place without it. -/
theorem leap_spec {x : α} (hi : l[i]? = some x) (hx : p x = true) (hij : i < j) :
    let (last, next) := leap p l i j
    (∃ y, l[last]? = some y ∧ p y = true) ∧ last < next ∧ next ≤ l.length ∧
      ∀ y ∈ l[next]?, p y = false := by
  fun_induction leap p l i j generalizing x with
  | case1 i j hj =>
    obtain ⟨hlt, -⟩ := List.getElem?_eq_some_iff.mp hi
    exact ⟨⟨x, hi, hx⟩, hlt, Nat.le_refl _, by simp⟩
  | case2 i j y hj hy ih => exact ih hj hy (by omega)
  | case3 i j y hj hy =>
    obtain ⟨hlt, -⟩ := List.getElem?_eq_some_iff.mp hj
    refine ⟨⟨x, hi, hx⟩, hij, Nat.le_of_lt hlt, fun z hz => ?_⟩
    obtain rfl := Option.some.inj (hj.symm.trans hz)
    exact eq_false_of_ne_true hy

theorem getElem?_reverse_take (hi : i < l.length) (hij : j ≤ i) :
    (l.take (i + 1)).reverse[j]? = l[i - j]? := by
  have hlength : (l.take (i + 1)).length = i + 1 := by rw [List.length_take]; omega
  rw [List.getElem?_reverse (by omega), List.getElem?_take_of_lt (by omega), hlength,
    Nat.add_sub_cancel]

theorem gallop_of_pos (h : IsInitial p l) (hi : i < l.length) (hp : p l[i] = true) :
    gallop p l i = l.countP p := by
  have hx : l[i]? = some l[i] := List.getElem?_eq_getElem hi
  have hstart : (l.drop i)[0]? = some l[i] := by rw [List.getElem?_drop, Nat.add_zero, hx]
  have hleap := leap_spec hstart hp Nat.zero_lt_one
  rw [gallop, hx, Option.any_some, if_pos hp]
  generalize leap p (l.drop i) 0 1 = leaped at hleap ⊢
  obtain ⟨last, next⟩ := leaped
  obtain ⟨⟨y, hy, hpy⟩, hlt, -, hnext⟩ := hleap
  rw [List.getElem?_drop] at hy hnext
  have hpassed : ((l.drop i).take next).drop (last + 1) =
      (l.take (i + next)).drop (i + last + 1) := by
    rw [List.take_drop, List.drop_drop, Nat.add_assoc]
  dsimp only
  rw [hpassed, bisect_eq (h.sublist ((List.drop_sublist _ _).trans (List.take_sublist _ _))),
    ← IsInitial.countP_eq (h.countP_take hy hpy) (by omega) (h.countP_drop hnext)]

theorem gallop_of_neg (h : IsInitial p l) (hi : i < l.length) (hp : p l[i] = false) :
    gallop p l i = l.countP p := by
  have hx : l[i]? = some l[i] := List.getElem?_eq_getElem hi
  have hstart : (l.take (i + 1)).reverse[0]? = some l[i] := by
    rw [getElem?_reverse_take hi (Nat.zero_le i), Nat.sub_zero, hx]
  have hleap := leap_spec (p := (! p ·)) hstart (by simp [hp]) Nat.zero_lt_one
  have hlength : (l.take (i + 1)).reverse.length = i + 1 := by
    rw [List.length_reverse, List.length_take]
    omega
  rw [gallop, hx, Option.any_some, if_neg (by simp [hp])]
  rw [hlength] at hleap
  generalize leap (! p ·) (l.take (i + 1)).reverse 0 1 = leaped at hleap ⊢
  obtain ⟨last, next⟩ := leaped
  obtain ⟨⟨y, hy, hpy⟩, hlt, hle, hnext⟩ := hleap
  have hafter : (l.drop (i - last)).countP p = 0 := by
    refine h.countP_drop fun z hz => ?_
    rw [getElem?_reverse_take hi (by omega)] at hy
    obtain rfl := Option.some.inj (hy.symm.trans hz)
    simpa using hpy
  have hbefore : (l.take (i + 1 - next)).countP p = i + 1 - next := by
    rcases Nat.lt_or_eq_of_le hle with hlt' | rfl
    · have hplace : i + 1 - next = i - next + 1 := by omega
      have hin : i - next < l.length := by omega
      have hz : l[i - next]? = some (l.get ⟨i - next, hin⟩) := List.getElem?_eq_getElem hin
      rw [getElem?_reverse_take hi (by omega), hz] at hnext
      rw [hplace]
      exact h.countP_take hz (by simpa using hnext _ rfl)
    · simp
  dsimp only
  rw [bisect_eq (h.sublist ((List.drop_sublist _ _).trans (List.take_sublist _ _))),
    ← IsInitial.countP_eq hbefore (by omega) hafter]

/-- Wherever it starts, a search by leaps finds the place where a property ends. -/
theorem gallop_eq (h : IsInitial p l) (hi : i < l.length) : gallop p l i = l.countP p := by
  cases hp : p l[i] with
  | true => exact gallop_of_pos h hi hp
  | false => exact gallop_of_neg h hi hp

end Proceedings.Sorting
