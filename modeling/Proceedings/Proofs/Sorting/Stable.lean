import Mathlib.Logic.Basic
import Proceedings.Proofs.Sorting.Search
import Proceedings.Sorting.Basic

/-! # Stable sorting

A comparison orders some elements weakly if it never goes both ways and what is not before something
is not before anything that comes no earlier. A list of such elements has one stable order: that in
which no element comes before an earlier one, and ties stand as they stood. Putting one more element
behind those that do not come after it gives the stable order of the longer list.
-/

namespace Proceedings.Sorting

variable {α : Type}

structure IsWeakOrder (lt : α → α → Bool) (s : α → Prop) : Prop where
  asymm : ∀ {x y}, s x → s y → lt x y = true → lt y x = false
  trans_not : ∀ {x y z}, s x → s y → s z → lt x y = false → lt y z = false → lt x z = false

def tied (lt : α → α → Bool) (x y : α) : Bool := !lt x y && !lt y x

/-- A list in which no element comes before an earlier one. -/
def IsSorted (lt : α → α → Bool) (l : List α) : Prop := l.Pairwise fun x y => lt y x = false

def SameTies (lt : α → α → Bool) (s : α → Prop) (l r : List α) : Prop :=
  ∀ x, s x → r.filter (tied lt x) = l.filter (tied lt x)

/-- The elements of a list in order, with ties as they stood. -/
structure IsStableSort (lt : α → α → Bool) (s : α → Prop) (l r : List α) : Prop where
  perm : r.Perm l
  sorted : IsSorted lt r
  ties : SameTies lt s l r

namespace IsWeakOrder

variable {lt : α → α → Bool} {s : α → Prop} {x y z : α}

theorem irrefl (h : IsWeakOrder lt s) (hx : s x) : lt x x = false := by
  cases hxx : lt x x with
  | false => rfl
  | true => exact (h.asymm hx hx hxx).symm.trans hxx |>.symm

theorem lt_of_lt_of_not (h : IsWeakOrder lt s) (hx : s x) (hy : s y) (hz : s z)
    (hxy : lt x y = true) (hzy : lt z y = false) : lt x z = true := by
  by_contra hxz
  rw [h.trans_not hx hz hy (eq_false_of_ne_true hxz) hzy] at hxy
  cases hxy

theorem lt_of_not_of_lt (h : IsWeakOrder lt s) (hx : s x) (hy : s y) (hz : s z)
    (hyx : lt y x = false) (hyz : lt y z = true) : lt x z = true := by
  by_contra hxz
  rw [h.trans_not hy hx hz hyx (eq_false_of_ne_true hxz)] at hyz
  cases hyz

theorem trans (h : IsWeakOrder lt s) (hx : s x) (hy : s y) (hz : s z) (hxy : lt x y = true)
    (hyz : lt y z = true) : lt x z = true :=
  h.lt_of_lt_of_not hx hy hz hxy (h.asymm hy hz hyz)

theorem flip (h : IsWeakOrder lt s) : IsWeakOrder (fun x y => lt y x) s where
  asymm hx hy := h.asymm hy hx
  trans_not hx hy hz hyx hzy := h.trans_not hz hy hx hzy hyx

theorem congr {lt' : α → α → Bool} (h : IsWeakOrder lt s)
    (hsame : ∀ x y, s x → s y → lt' x y = lt x y) : IsWeakOrder lt' s where
  asymm hx hy := by
    rw [hsame _ _ hx hy, hsame _ _ hy hx]
    exact h.asymm hx hy
  trans_not hx hy hz := by
    rw [hsame _ _ hx hy, hsame _ _ hy hz, hsame _ _ hx hz]
    exact h.trans_not hx hy hz

theorem mono {t : α → Prop} (h : IsWeakOrder lt s) (ht : ∀ x, t x → s x) : IsWeakOrder lt t where
  asymm hx hy := h.asymm (ht _ hx) (ht _ hy)
  trans_not hx hy hz := h.trans_not (ht _ hx) (ht _ hy) (ht _ hz)

end IsWeakOrder

theorem tied_iff {lt : α → α → Bool} {x y : α} :
    tied lt x y = true ↔ lt x y = false ∧ lt y x = false := by
  simp [tied]

theorem tied_flip (lt : α → α → Bool) : tied (fun x y => lt y x) = tied lt := by
  funext x y
  exact Bool.and_comm _ _

section

variable {lt : α → α → Bool} {s : α → Prop} {l r t : List α}

theorem SameTies.refl (l : List α) : SameTies lt s l l := fun _ _ => rfl

theorem SameTies.trans (h : SameTies lt s l r) (h' : SameTies lt s r t) : SameTies lt s l t :=
  fun x hx => (h' x hx).trans (h x hx)

theorem SameTies.append {l' r' : List α} (h : SameTies lt s l r) (h' : SameTies lt s l' r') :
    SameTies lt s (l ++ l') (r ++ r') := by
  intro x hx
  rw [List.filter_append, List.filter_append, h x hx, h' x hx]

theorem SameTies.reverse (h : SameTies (fun x y => lt y x) s l r) :
    SameTies lt s l.reverse r.reverse := by
  intro x hx
  have hl := h x hx
  rw [tied_flip] at hl
  rw [List.filter_reverse, List.filter_reverse, hl]

theorem isSorted_reverse : IsSorted lt l.reverse ↔ IsSorted (fun x y => lt y x) l :=
  List.pairwise_reverse

theorem IsStableSort.reverse (h : IsStableSort (fun x y => lt y x) s l r) :
    IsStableSort lt s l.reverse r.reverse where
  perm := (List.reverse_perm r).trans (h.perm.trans (List.reverse_perm l).symm)
  sorted := isSorted_reverse.mpr h.sorted
  ties := h.ties.reverse

theorem IsStableSort.congr {lt' : α → α → Bool} (h : IsStableSort lt s l r)
    (hsame : ∀ x y, s x → s y → lt x y = lt' x y) (hs : ∀ x ∈ l, s x) :
    IsStableSort lt' s l r := by
  have hr : ∀ x ∈ r, s x := fun x hx => hs x (h.perm.mem_iff.mp hx)
  refine ⟨h.perm, h.sorted.imp_of_mem fun hx hy hyx => ?_, fun x hx => ?_⟩
  · rw [← hsame _ _ (hr _ hy) (hr _ hx)]
    exact hyx
  · have htied : ∀ y, s y → tied lt' x y = tied lt x y := fun y hy => by
      rw [tied, tied, hsame x y hx hy, hsame y x hy hx]
    rw [List.filter_congr fun y hy => htied y (hr y hy),
      List.filter_congr fun y hy => htied y (hs y hy)]
    exact h.ties x hx

/-- If the elements of a list come before all of another one, it does not matter for ties which of
the two stands first. -/
theorem sameTies_swap (hw : IsWeakOrder lt s) (hl : ∀ x ∈ l, s x) (hr : ∀ y ∈ r, s y)
    (h : ∀ x ∈ l, ∀ y ∈ r, lt x y = true) : SameTies lt s (r ++ l) (l ++ r) := by
  intro z hz
  rw [List.filter_append, List.filter_append]
  -- An element that ties with one of the first list comes before all of the second.
  by_cases hnone : l.filter (tied lt z) = []
  · rw [hnone, List.nil_append, List.append_nil]
  · obtain ⟨x, hx⟩ := List.exists_mem_of_ne_nil _ hnone
    obtain ⟨hx, hzx⟩ := List.mem_filter.mp hx
    have hempty : r.filter (tied lt z) = [] := by
      rw [List.filter_eq_nil_iff]
      intro y hy hzy
      have hlt := hw.lt_of_not_of_lt hz (hl x hx) (hr y hy) (tied_iff.mp hzx).2 (h x hx y hy)
      rw [(tied_iff.mp hzy).1] at hlt
      cases hlt
    rw [hempty, List.nil_append, List.append_nil]

end

section Unique

variable {lt : α → α → Bool} {s : α → Prop} {l r₁ r₂ : List α} {x y : α}

theorem IsStableSort.head_eq (hw : IsWeakOrder lt s) (hs : ∀ z ∈ x :: r₁, s z)
    (hsorted : IsSorted lt (x :: r₁)) (h : IsStableSort lt s (x :: r₁) (y :: r₂)) : x = y := by
  have hx : x ∈ y :: r₂ := h.perm.mem_iff.mpr List.mem_cons_self
  have hy : y ∈ x :: r₁ := h.perm.mem_iff.mp List.mem_cons_self
  rcases List.mem_cons.mp hx with rfl | hx
  · rfl
  rcases List.mem_cons.mp hy with rfl | hy'
  · rfl
  -- Neither is before the other, so they tie, and both are first among those that tie.
  have hxs := hs x List.mem_cons_self
  have hxy : tied lt x y = true :=
    tied_iff.mpr ⟨(List.pairwise_cons.mp h.sorted).1 x hx, (List.pairwise_cons.mp hsorted).1 y hy'⟩
  have hxx : tied lt x x = true := tied_iff.mpr ⟨hw.irrefl hxs, hw.irrefl hxs⟩
  have hties := h.ties x hxs
  rw [List.filter_cons_of_pos hxy, List.filter_cons_of_pos hxx] at hties
  exact (List.cons.inj hties).1.symm

theorem IsStableSort.tail (h : IsStableSort lt s (x :: r₁) (x :: r₂)) :
    IsStableSort lt s r₁ r₂ := by
  refine ⟨h.perm.cons_inv, (List.pairwise_cons.mp h.sorted).2, ?_⟩
  intro z hz
  have hties := h.ties z hz
  rw [List.filter_cons, List.filter_cons] at hties
  split at hties
  · exact (List.cons.inj hties).2
  · exact hties

theorem IsStableSort.eq_of_sorted (hw : IsWeakOrder lt s) (hs : ∀ z ∈ r₁, s z)
    (hsorted : IsSorted lt r₁) (h : IsStableSort lt s r₁ r₂) : r₁ = r₂ := by
  induction r₁ generalizing r₂ with
  | nil => exact h.perm.symm.nil_eq
  | cons x r₁ ih =>
    cases r₂ with
    | nil => exact absurd h.perm.symm.eq_nil (List.cons_ne_nil x r₁)
    | cons y r₂ =>
      obtain rfl := h.head_eq hw hs hsorted
      rw [ih (List.forall_mem_cons.mp hs).2 (List.pairwise_cons.mp hsorted).2 h.tail]

/-- Elements have one stable order. -/
theorem IsStableSort.unique (hw : IsWeakOrder lt s) (hs : ∀ z ∈ l, s z)
    (h₁ : IsStableSort lt s l r₁) (h₂ : IsStableSort lt s l r₂) : r₁ = r₂ := by
  refine IsStableSort.eq_of_sorted hw (fun z hz => hs z (h₁.perm.mem_iff.mp hz)) h₁.sorted ?_
  refine ⟨h₂.perm.trans h₁.perm.symm, h₂.sorted, fun z hz => ?_⟩
  exact (h₂.ties z hz).trans (h₁.ties z hz).symm

end Unique

section Insertion

variable {lt : α → α → Bool} {s : α → Prop} {l r : List α} {x : α}

theorem IsSorted.isInitial_not (h : IsSorted lt r) (hw : IsWeakOrder lt s) (hr : ∀ y ∈ r, s y)
    (hx : s x) : IsInitial (fun y => !lt x y) r := by
  refine List.Pairwise.imp_of_mem ?_ h
  intro y z hy hz hzy hxz
  simp only [Bool.not_eq_true'] at hxz ⊢
  exact hw.trans_not hx (hr z hz) (hr y hy) hxz hzy

theorem IsSorted.isInitial_lt (h : IsSorted lt r) (hw : IsWeakOrder lt s) (hr : ∀ y ∈ r, s y)
    (hx : s x) : IsInitial (fun y => lt y x) r := by
  refine List.Pairwise.imp_of_mem ?_ h
  intro y z hy hz hzy hzx
  exact hw.lt_of_not_of_lt (hr y hy) (hr z hz) hx hzy hzx

theorem sublist_insert (lt : α → α → Bool) (r : List α) (x : α) : r.Sublist (insert lt r x) := by
  unfold Sorting.insert
  generalize bisect (fun y => !lt x y) r = k
  have hsub := (List.Sublist.refl (r.take k)).append (List.sublist_cons_self x (r.drop k))
  rwa [List.take_append_drop] at hsub

/-- An element put behind those that do not come after it. -/
theorem IsStableSort.insert (h : IsStableSort lt s l r) (hw : IsWeakOrder lt s)
    (hl : ∀ y ∈ l, s y) (hx : s x) : IsStableSort lt s (l ++ [x]) (insert lt r x) := by
  have hr : ∀ y ∈ r, s y := fun y hy => hl y (h.perm.mem_iff.mp hy)
  have hinitial := h.sorted.isInitial_not hw hr hx
  unfold Sorting.insert
  rw [bisect_eq hinitial]
  generalize hk : r.countP (fun y => !lt x y) = k
  have hbefore := hinitial.forall_mem_take
  have hafter := hinitial.forall_mem_drop
  rw [hk] at hbefore hafter
  have hsorted := h.sorted
  rw [← List.take_append_drop k r] at hsorted
  obtain ⟨htake, hdrop, hcross⟩ := List.pairwise_append.mp hsorted
  refine ⟨?_, ?_, ?_⟩
  · refine List.perm_middle.trans (.trans (.cons x ?_) (List.perm_append_singleton x l).symm)
    rw [List.take_append_drop]
    exact h.perm
  · refine List.pairwise_append.mpr ⟨htake, List.pairwise_cons.mpr ⟨?_, hdrop⟩, ?_⟩
    · intro y hy
      exact hw.asymm hx (hr y (List.mem_of_mem_drop hy)) (by simpa using hafter y hy)
    · intro y hy z hz
      rcases List.mem_cons.mp hz with rfl | hz
      · simpa using hbefore y hy
      · exact hcross y hy z hz
  · have hswap : SameTies lt s (r.drop k ++ [x]) ([x] ++ r.drop k) := by
      refine sameTies_swap hw (List.forall_mem_singleton.mpr hx)
        (fun y hy => hr y (List.mem_of_mem_drop hy)) ?_
      intro y hy z hz
      rw [List.mem_singleton.mp hy]
      simpa using hafter z hz
    have happend := (SameTies.refl (r.take k)).append hswap
    rw [← List.append_assoc, List.take_append_drop] at happend
    exact (h.ties.append (.refl [x])).trans happend

end Insertion

end Proceedings.Sorting
