import Proceedings.Proofs.Sorting.Stable

/-! # What a merge gives

A merge neither loses nor adds elements, whatever it compares by. If the comparison orders the
elements weakly, each part of a merge only takes elements that come next in the stable order of the
two runs, whether it takes them one by one or in leaps, from the front or from the back. So the
merge ends with that order.
-/

namespace Proceedings.Sorting

variable {α : Type}

namespace Merging

variable {d : Direction α} {m : Merging α}

def contents (m : Merging α) : List α := m.merged ++ m.held ++ m.other

theorem contents_takeHeld (n : Nat) : (m.takeHeld n).contents = m.contents := by
  rw [contents, takeHeld, List.append_assoc m.merged, List.take_append_drop, contents]

theorem contents_takeOther (n : Nat) : (m.takeOther n).contents.Perm m.contents := by
  simp only [contents, takeOther, List.append_assoc]
  refine .append_left _ ((List.perm_append_comm_assoc _ _ _).trans ?_)
  rw [List.take_append_drop]

theorem contents_leapHeld : (m.leapHeld d).1.contents.Perm m.contents := by
  unfold leapHeld
  split
  · dsimp only
    split
    · rw [contents_takeHeld]
    · exact (contents_takeOther 1).trans (.of_eq (contents_takeHeld _))
  · exact .refl _

theorem contents_leapOther : (m.leapOther d).1.contents.Perm m.contents := by
  unfold leapOther
  split
  · dsimp only
    split
    · exact contents_takeOther _
    · rw [contents_takeHeld]
      exact contents_takeOther _
  · exact .refl _

theorem contents_leapBoth : (m.leapBoth d).1.contents.Perm m.contents := by
  unfold leapBoth
  split
  · exact contents_leapOther.trans contents_leapHeld
  · exact contents_leapHeld.trans contents_leapOther

theorem contents_step (patience : Nat) (pace : Pace) :
    (m.step d patience pace).1.contents.Perm m.contents := by
  cases pace with
  | steps i j =>
    simp only [step]
    split
    · split
      · exact contents_takeOther 1
      · rw [contents_takeHeld]
    · exact .refl _
  | leaps =>
    rw [step_leaps_fst]
    exact contents_leapBoth

theorem result_perm : m.result.Perm m.contents := by
  rw [result, contents, List.append_assoc, List.append_assoc]
  exact .append_left _ List.perm_append_comm

theorem run_perm (pace : Pace) (patience : Nat) : (m.run d pace patience).1.Perm m.contents := by
  fun_induction run d m pace patience with
  | case1 => exact result_perm
  | case2 m pace patience h s ih => exact ih.trans (contents_step patience pace)

end Merging

structure Direction.IsSound (d : Direction α) (lt : α → α → Bool) (s : α → Prop) : Prop where
  comesFirst : ∀ y x, d.comesFirst y x = lt y x
  heldBefore : ∀ {y held}, s y → (∀ x ∈ held, s x) → IsSorted lt held → held ≠ [] →
    d.heldBefore y held = held.countP fun x => !lt y x
  otherBefore : ∀ {x other}, s x → (∀ y ∈ other, s y) → IsSorted lt other → other ≠ [] →
    d.otherBefore x other = other.countP fun y => lt y x

section

variable {lt : α → α → Bool} {s : α → Prop}

theorem forward_isSound (hw : IsWeakOrder lt s) : (Direction.forward lt).IsSound lt s where
  comesFirst _ _ := rfl
  heldBefore hy hs hsorted hne :=
    gallop_eq (hsorted.isInitial_not hw hs hy) (List.length_pos_iff.mpr hne)
  otherBefore hx hs hsorted hne :=
    gallop_eq (hsorted.isInitial_lt hw hs hx) (List.length_pos_iff.mpr hne)

theorem length_sub_gallop {p : α → Bool} {l : List α} (h : IsInitial p l.reverse) (hne : l ≠ []) :
    l.length - gallop p l.reverse (l.length - 1) = l.countP fun x => !p x := by
  have hpos := List.length_pos_iff.mpr hne
  have hcount := List.length_eq_countP_add_countP p (l := l)
  rw [gallop_eq h (by rw [List.length_reverse]; omega), List.countP_reverse, hcount,
    Nat.add_sub_cancel_left]
  exact List.countP_congr fun x _ => by simp

theorem backward_isSound (hw : IsWeakOrder lt s) :
    (Direction.backward lt).IsSound (fun x y => lt y x) s where
  comesFirst _ _ := rfl
  heldBefore := by
    intro y held hy hs hsorted hne
    have hinitial := (isSorted_reverse.mpr hsorted).isInitial_lt hw (by simpa using hs) hy
    exact length_sub_gallop hinitial hne
  otherBefore := by
    intro x other hx hs hsorted hne
    have hinitial := (isSorted_reverse.mpr hsorted).isInitial_not hw (by simpa using hs) hx
    have hcount := length_sub_gallop hinitial hne
    simp only [Bool.not_not] at hcount
    exact hcount

end

namespace Merging

variable {d : Direction α} {m : Merging α}

/-- A merge of a list's elements, so far in order and with ties as they stood: what is left of
either run follows in order, and the last element of the run set aside comes after all of the
other. -/
structure IsSound (lt : α → α → Bool) (s : α → Prop) (l : List α) (m : Merging α) : Prop where
  mem : ∀ x ∈ m.contents, s x
  ties : SameTies lt s l m.contents
  held : IsSorted lt (m.merged ++ m.held)
  other : IsSorted lt (m.merged ++ m.other)
  last : ∀ y ∈ m.other, ∀ x ∈ m.held.getLast?, lt y x = true

namespace IsSound

variable {lt : α → α → Bool} {s : α → Prop} {l : List α}

theorem mem_held (h : m.IsSound lt s l) : ∀ x ∈ m.held, s x := fun x hx =>
  h.mem x (by simp [contents, hx])

theorem mem_other (h : m.IsSound lt s l) : ∀ x ∈ m.other, s x := fun x hx =>
  h.mem x (by simp [contents, hx])

theorem sorted_held (h : m.IsSound lt s l) : IsSorted lt m.held :=
  (List.pairwise_append.mp h.held).2.1

theorem sorted_other (h : m.IsSound lt s l) : IsSorted lt m.other :=
  (List.pairwise_append.mp h.other).2.1

/-- Elements of the run set aside may be taken if nothing of the other run comes before them. -/
theorem takeHeld (h : m.IsSound lt s l) {n : Nat}
    (hn : ∀ x ∈ m.held.take n, ∀ y ∈ m.other, lt y x = false) : (m.takeHeld n).IsSound lt s l := by
  have hheld := h.held
  rw [← List.take_append_drop n m.held, ← List.append_assoc] at hheld
  obtain ⟨hmerged, hother, hcross⟩ := List.pairwise_append.mp h.other
  refine ⟨?_, ?_, hheld, ?_, ?_⟩
  · rw [contents_takeHeld]
    exact h.mem
  · rw [contents_takeHeld]
    exact h.ties
  · refine List.pairwise_append.mpr ⟨(List.pairwise_append.mp hheld).1, hother, ?_⟩
    intro x hx y hy
    rcases List.mem_append.mp hx with hx | hx
    · exact hcross x hx y hy
    · exact hn x hx y hy
  · intro y hy x hx
    refine h.last y hy x ?_
    simp only [Merging.takeHeld, List.getLast?_drop] at hx
    split at hx
    · cases hx
    · exact hx

/-- Elements of the other run may be taken if they come before all of the run set aside. -/
theorem takeOther (h : m.IsSound lt s l) (hw : IsWeakOrder lt s) {n : Nat}
    (hn : ∀ y ∈ m.other.take n, ∀ x ∈ m.held, lt y x = true) : (m.takeOther n).IsSound lt s l := by
  have hother := h.other
  rw [← List.take_append_drop n m.other, ← List.append_assoc] at hother
  obtain ⟨hmerged, hheld, hcross⟩ := List.pairwise_append.mp h.held
  have htake : ∀ y ∈ m.other.take n, s y := fun y hy => h.mem_other y (List.mem_of_mem_take hy)
  refine ⟨?_, ?_, ?_, hother, ?_⟩
  · intro x hx
    exact h.mem x ((contents_takeOther n).mem_iff.mp hx)
  · have hswap := ((SameTies.refl m.merged).append (sameTies_swap hw htake h.mem_held hn)).append
      (.refl (m.other.drop n))
    have hties := h.ties
    rw [contents, ← List.take_append_drop n m.other] at hties
    simp only [contents, Merging.takeOther, List.append_assoc] at hties hswap ⊢
    exact hties.trans hswap
  · refine List.pairwise_append.mpr ⟨(List.pairwise_append.mp hother).1, hheld, ?_⟩
    intro y hy x hx
    rcases List.mem_append.mp hy with hy | hy
    · exact hcross y hy x hx
    · exact hw.asymm (htake y hy) (h.mem_held x hx) (hn y hy x hx)
  · intro y hy x hx
    exact h.last y (List.mem_of_mem_drop hy) x hx

theorem result (h : m.IsSound lt s l) (hw : IsWeakOrder lt s) (hover : m.isOver = true)
    (hperm : m.contents.Perm l) : IsStableSort lt s l m.result := by
  have hall : ∀ y ∈ m.other.take m.other.length, ∀ x ∈ m.held, lt y x = true := by
    rw [List.take_length]
    intro y hy x hx
    rcases isOver_eq_true_iff.mp hover with hnil | hshort
    · rw [hnil] at hy
      cases hy
    · match hheld : m.held with
      | [] => rw [hheld] at hx; cases hx
      | [z] =>
        rw [hheld, List.mem_singleton] at hx
        exact h.last y hy x (by rw [hheld, hx]; rfl)
      | z :: z' :: rest => rw [hheld] at hshort; simp at hshort
  have hend := h.takeOther hw hall
  have hresult : m.result = (m.takeOther m.other.length).contents := by
    simp [Merging.result, contents, Merging.takeOther]
  rw [hresult]
  refine ⟨(contents_takeOther _).trans hperm, ?_, hend.ties⟩
  simpa [contents, Merging.takeOther] using hend.held

theorem leapHeld (h : m.IsSound lt s l) (hw : IsWeakOrder lt s) (hd : d.IsSound lt s) :
    (m.leapHeld d).1.IsSound lt s l := by
  unfold Merging.leapHeld
  split
  · next y ys hover hys =>
    have hy : s y := h.mem_other y (by rw [hys]; exact List.mem_cons_self)
    have hne : m.held ≠ [] := List.ne_nil_of_length_pos
      (Nat.zero_lt_of_lt (isOver_eq_false_iff.mp hover).2)
    have hinitial := h.sorted_held.isInitial_not hw h.mem_held hy
    have hbefore := hinitial.forall_mem_take
    have hafter := hinitial.forall_mem_drop
    dsimp only
    rw [hd.heldBefore hy h.mem_held h.sorted_held hne]
    generalize m.held.countP (fun x => !lt y x) = n at hbefore hafter ⊢
    have hfirst : ∀ y' ∈ m.other, lt y' y = false := by
      have hsorted := h.sorted_other
      rw [hys] at hsorted ⊢
      exact List.forall_mem_cons.mpr ⟨hw.irrefl hy, (List.pairwise_cons.mp hsorted).1⟩
    have hheld : (m.takeHeld n).IsSound lt s l := by
      refine h.takeHeld fun x hx y' hy' => ?_
      exact hw.trans_not (h.mem_other y' hy') hy (h.mem_held x (List.mem_of_mem_take hx))
        (hfirst y' hy') (by simpa using hbefore x hx)
    split
    · exact hheld
    · refine hheld.takeOther hw fun y' hy' x hx => ?_
      rw [Merging.takeHeld, hys, List.take_one, List.head?_cons, Option.toList_some,
        List.mem_singleton] at hy'
      rw [hy']
      simpa using hafter x hx
  · exact h

theorem leapOther (h : m.IsSound lt s l) (hw : IsWeakOrder lt s) (hd : d.IsSound lt s) :
    (m.leapOther d).1.IsSound lt s l := by
  unfold Merging.leapOther
  split
  · next x xs hover hxs =>
    have hx : s x := h.mem_held x (by rw [hxs]; exact List.mem_cons_self)
    have hinitial := h.sorted_other.isInitial_lt hw h.mem_other hx
    have hbefore := hinitial.forall_mem_take
    have hafter := hinitial.forall_mem_drop
    dsimp only
    rw [hd.otherBefore hx h.mem_other h.sorted_other (isOver_eq_false_iff.mp hover).1]
    generalize m.other.countP (fun y => lt y x) = n at hbefore hafter ⊢
    have hfirst : ∀ x' ∈ m.held, lt x' x = false := by
      have hsorted := h.sorted_held
      rw [hxs] at hsorted ⊢
      exact List.forall_mem_cons.mpr ⟨hw.irrefl hx, (List.pairwise_cons.mp hsorted).1⟩
    have hother : (m.takeOther n).IsSound lt s l := by
      refine h.takeOther hw fun y hy x' hx' => ?_
      exact hw.lt_of_lt_of_not (h.mem_other y (List.mem_of_mem_take hy)) hx (h.mem_held x' hx')
        (hbefore y hy) (hfirst x' hx')
    split
    · exact hother
    · refine hother.takeHeld fun x' hx' y hy => ?_
      rw [Merging.takeOther, hxs, List.take_one, List.head?_cons, Option.toList_some,
        List.mem_singleton] at hx'
      rw [hx']
      exact hafter y hy
  · exact h

theorem leapBoth (h : m.IsSound lt s l) (hw : IsWeakOrder lt s) (hd : d.IsSound lt s) :
    (m.leapBoth d).1.IsSound lt s l := by
  unfold Merging.leapBoth
  split
  · exact (h.leapHeld hw hd).leapOther hw hd
  · exact (h.leapOther hw hd).leapHeld hw hd

theorem step (h : m.IsSound lt s l) (hw : IsWeakOrder lt s) (hd : d.IsSound lt s)
    (patience : Nat) (pace : Pace) : (m.step d patience pace).1.IsSound lt s l := by
  cases pace with
  | leaps =>
    rw [step_leaps_fst]
    exact h.leapBoth hw hd
  | steps i j =>
    simp only [Merging.step]
    split
    · next x xs y ys hxs hys =>
      have hx : s x := h.mem_held x (by rw [hxs]; exact List.mem_cons_self)
      have hy : s y := h.mem_other y (by rw [hys]; exact List.mem_cons_self)
      have hsorted := And.intro h.sorted_held h.sorted_other
      rw [hxs, hys] at hsorted
      split
      · next hfirst =>
        rw [hd.comesFirst] at hfirst
        refine h.takeOther hw ?_
        rw [hys, hxs, List.take_one, List.head?_cons]
        refine List.forall_mem_singleton.mpr (List.forall_mem_cons.mpr ⟨hfirst, fun x' hx' => ?_⟩)
        exact hw.lt_of_lt_of_not hy hx (h.mem_held x' (by simp [hxs, hx'])) hfirst
          ((List.pairwise_cons.mp hsorted.1).1 x' hx')
      · next hfirst =>
        rw [hd.comesFirst] at hfirst
        have hnot := eq_false_of_ne_true hfirst
        refine h.takeHeld ?_
        rw [hxs, hys, List.take_one, List.head?_cons]
        refine List.forall_mem_singleton.mpr (List.forall_mem_cons.mpr ⟨hnot, fun y' hy' => ?_⟩)
        exact hw.trans_not (h.mem_other y' (by simp [hys, hy'])) hy hx
          ((List.pairwise_cons.mp hsorted.2).1 y' hy') hnot
    · exact h

/-- From any point on, a merge ends with the stable order. -/
theorem run (h : m.IsSound lt s l) (hw : IsWeakOrder lt s) (hd : d.IsSound lt s)
    (hperm : m.contents.Perm l) (pace : Pace) (patience : Nat) :
    IsStableSort lt s l (m.run d pace patience).1 := by
  fun_induction Merging.run d m pace patience with
  | case1 m pace patience hover => exact h.result hw hover hperm
  | case2 m pace patience hover t ih =>
    exact ih (h.step hw hd patience pace) ((contents_step patience pace).trans hperm)

end IsSound

end Merging

section

variable {d : Direction α} {lt : α → α → Bool} {s : α → Prop} {a b : List α} {patience : Nat}

theorem merge_perm (held other : List α) : (merge d patience held other).1.Perm (held ++ other) :=
  Merging.run_perm _ _ |>.trans (Merging.contents_takeOther 1)

/-- Two runs, of which the other one's first element comes before all of the run set aside, and the
last element of that one after all of the other. -/
theorem merge_isStableSort (hw : IsWeakOrder lt s) (hd : d.IsSound lt s)
    (hs : ∀ x ∈ a ++ b, s x) (ha : IsSorted lt a) (hb : IsSorted lt b)
    (hfirst : ∀ y ∈ b.head?, ∀ x ∈ a, lt y x = true)
    (hlast : ∀ y ∈ b, ∀ x ∈ a.getLast?, lt y x = true) :
    IsStableSort lt s (a ++ b) (merge d patience a b).1 := by
  have hstart : Merging.IsSound lt s (a ++ b) ⟨[], a, b⟩ := ⟨hs, .refl _, ha, hb, hlast⟩
  refine (hstart.takeOther hw ?_).run hw hd (Merging.contents_takeOther 1) _ _
  intro y hy x hx
  rw [List.take_one] at hy
  exact hfirst y (by simpa using hy) x hx

theorem mergeRest_perm (lt : α → α → Bool) (patience : Nat) (a b : List α) :
    (mergeRest lt patience a b).1.Perm (a ++ b) := by
  unfold mergeRest
  split
  · exact merge_perm a b
  · refine (List.reverse_perm _).trans ((merge_perm b.reverse a.reverse).trans ?_)
    rw [← List.reverse_append]
    exact List.reverse_perm _

theorem mergeRest_isStableSort (hw : IsWeakOrder lt s) (hs : ∀ x ∈ a ++ b, s x)
    (ha : IsSorted lt a) (hb : IsSorted lt b) (hfirst : ∀ y ∈ b.head?, ∀ x ∈ a, lt y x = true)
    (hlast : ∀ y ∈ b, ∀ x ∈ a.getLast?, lt y x = true) :
    IsStableSort lt s (a ++ b) (mergeRest lt patience a b).1 := by
  unfold mergeRest
  split
  · exact merge_isStableSort hw (forward_isSound hw) hs ha hb hfirst hlast
  · have hmerged : IsStableSort (fun x y => lt y x) s (b.reverse ++ a.reverse)
        (merge (.backward lt) patience b.reverse a.reverse).1 := by
      refine merge_isStableSort hw.flip (backward_isSound hw) ?_ (List.pairwise_reverse.mpr hb)
        (List.pairwise_reverse.mpr ha) ?_ ?_
      · intro x hx
        rw [← List.reverse_append, List.mem_reverse] at hx
        exact hs x hx
      · intro x hx y hy
        rw [List.head?_reverse] at hx
        exact hlast y (List.mem_reverse.mp hy) x hx
      · intro x hx y hy
        rw [List.getLast?_reverse] at hy
        exact hfirst y hy x (List.mem_reverse.mp hx)
    have hreverse := hmerged.reverse
    rw [← List.reverse_append, List.reverse_reverse] at hreverse
    exact hreverse

theorem take_append_drop_append (a b : List α) (i j : Nat) :
    a.take i ++ (a.drop i ++ b.take j) ++ b.drop j = a ++ b := by
  rw [← List.append_assoc, List.take_append_drop, List.append_assoc, List.take_append_drop]

theorem mergeRuns_perm (a b : List α) : (mergeRuns lt patience a b).1.Perm (a ++ b) := by
  unfold mergeRuns
  split
  · rw [List.append_nil]
  · next y b =>
    dsimp only
    split
    · exact .refl _
    · generalize gallop _ a 0 = i
      generalize gallop _ (y :: b) b.length = j
      have hrest := mergeRest_perm lt patience (a.drop i) ((y :: b).take j)
      have hall := (hrest.append_left (a.take i)).append_right ((y :: b).drop j)
      rwa [take_append_drop_append] at hall

/-- Elements that are in their places already stay there. -/
theorem IsStableSort.between {l r pre post : List α} (h : IsStableSort lt s l r)
    (hpre : IsSorted lt pre) (hpost : IsSorted lt post) (hl : ∀ x ∈ pre, ∀ y ∈ l, lt y x = false)
    (hr : ∀ x ∈ pre ++ l, ∀ y ∈ post, lt y x = false) :
    IsStableSort lt s (pre ++ l ++ post) (pre ++ r ++ post) where
  perm := (h.perm.append_left pre).append_right post
  ties := ((SameTies.refl pre).append h.ties).append (.refl post)
  sorted := by
    have hmem : ∀ x, x ∈ pre ++ r → x ∈ pre ++ l := fun x hx =>
      ((h.perm.append_left pre).mem_iff).mp hx
    refine List.pairwise_append.mpr ⟨List.pairwise_append.mpr ⟨hpre, h.sorted, ?_⟩, hpost, ?_⟩
    · exact fun x hx y hy => hl x hx y (h.perm.mem_iff.mp hy)
    · exact fun x hx y hy => hr x (hmem x hx) y hy

theorem IsSorted.isStableSort (h : IsSorted lt a) : IsStableSort lt s a a := ⟨.refl a, h, .refl a⟩

theorem IsSorted.le_getLast (h : IsSorted lt a) (hw : IsWeakOrder lt s) (hs : ∀ x ∈ a, s x)
    {x z : α} (hz : a.getLast? = some z) (hx : x ∈ a) : lt z x = false := by
  obtain ⟨pre, rfl⟩ := List.getLast?_eq_some_iff.mp hz
  rcases List.mem_append.mp hx with hpre | hlast
  · exact (List.pairwise_append.mp h).2.2 x hpre z List.mem_cons_self
  · rw [List.mem_singleton.mp hlast]
    exact hw.irrefl (hs z (by simp))

theorem IsSorted.head_le {y : α} (h : IsSorted lt (y :: b)) (hw : IsWeakOrder lt s) (hy : s y) :
    ∀ z ∈ y :: b, lt z y = false :=
  List.forall_mem_cons.mpr ⟨hw.irrefl hy, (List.pairwise_cons.mp h).1⟩

theorem append_isStableSort {y : α} (hw : IsWeakOrder lt s) (hs : ∀ x ∈ a ++ y :: b, s x)
    (ha : IsSorted lt a) (hb : IsSorted lt (y :: b)) (h : ∀ x ∈ a, lt y x = false) :
    IsStableSort lt s (a ++ y :: b) (a ++ y :: b) := by
  obtain ⟨hsa, hsb⟩ := List.forall_mem_append.mp hs
  refine IsSorted.isStableSort (List.pairwise_append.mpr ⟨ha, hb, fun x hx z hz => ?_⟩)
  exact hw.trans_not (hsb z hz) (hsb y List.mem_cons_self) (hsa x hx)
    (hb.head_le hw (hsb y List.mem_cons_self) z hz) (h x hx)

theorem mergeRest_drop_take_isStableSort {y z : α} {i j : Nat} (hw : IsWeakOrder lt s)
    (hs : ∀ x ∈ a ++ y :: b, s x) (ha : IsSorted lt a) (hb : IsSorted lt (y :: b))
    (hz : (a.drop i).getLast? = some z) (hafter : ∀ x ∈ a.drop i, lt y x = true)
    (hbefore' : ∀ x ∈ (y :: b).take j, lt x z = true) :
    IsStableSort lt s (a.drop i ++ (y :: b).take j)
      (mergeRest lt patience (a.drop i) ((y :: b).take j)).1 := by
  obtain ⟨hsa, hsb⟩ := List.forall_mem_append.mp hs
  have hmem : ∀ x ∈ a.drop i ++ (y :: b).take j, s x := fun x hx => by
    rcases List.mem_append.mp hx with hx | hx
    · exact hsa x (List.mem_of_mem_drop hx)
    · exact hsb x (List.mem_of_mem_take hx)
  refine mergeRest_isStableSort hw hmem (ha.sublist (List.drop_sublist i a))
    (hb.sublist (List.take_sublist j _)) ?_ ?_
  · intro y' hy' x hx
    cases j with
    | zero => cases hy'
    | succ j =>
      obtain rfl := Option.some.inj hy'
      exact hafter x hx
  · intro x hx z' hz'
    obtain rfl := Option.some.inj (hz.symm.trans hz')
    exact hbefore' x hx

/-- Runs are merged into their stable order if what stays in its place of the first comes before the
second, and what stays of the second after the first. -/
theorem mergeRest_between {y z : α} {i j : Nat} (hw : IsWeakOrder lt s)
    (hs : ∀ x ∈ a ++ y :: b, s x) (ha : IsSorted lt a) (hb : IsSorted lt (y :: b))
    (hz : (a.drop i).getLast? = some z) (hbefore : ∀ x ∈ a.take i, lt y x = false)
    (hafter : ∀ x ∈ a.drop i, lt y x = true) (hbefore' : ∀ x ∈ (y :: b).take j, lt x z = true)
    (hafter' : ∀ x ∈ (y :: b).drop j, lt x z = false) :
    IsStableSort lt s (a ++ y :: b)
      (a.take i ++ (mergeRest lt patience (a.drop i) ((y :: b).take j)).1 ++ (y :: b).drop j) := by
  obtain ⟨hsa, hsb⟩ := List.forall_mem_append.mp hs
  have hy : s y := hsb y List.mem_cons_self
  have hlast : a.getLast? = some z := by
    rw [List.getLast?_drop] at hz
    split at hz
    · cases hz
    · exact hz
  have hmiddle : IsStableSort lt s (a.drop i ++ (y :: b).take j)
      (mergeRest lt patience (a.drop i) ((y :: b).take j)).1 :=
    mergeRest_drop_take_isStableSort hw hs ha hb hz hafter hbefore'
  rw [← take_append_drop_append a (y :: b) i j]
  refine hmiddle.between (ha.sublist (List.take_sublist i a)) (hb.sublist (List.drop_sublist j _))
    ?_ ?_
  · intro x hx x' hx'
    rcases List.mem_append.mp hx' with hx' | hx'
    · rw [← List.take_append_drop i a] at ha
      exact (List.pairwise_append.mp ha).2.2 x hx x' hx'
    · have hmem' := List.mem_of_mem_take hx'
      exact hw.trans_not (hsb x' hmem') hy (hsa x (List.mem_of_mem_take hx))
        (hb.head_le hw hy x' hmem') (hbefore x hx)
  · intro x hx x' hx'
    rw [← List.append_assoc, List.take_append_drop] at hx
    rcases List.mem_append.mp hx with hx | hx
    · exact hw.trans_not (hsb x' (List.mem_of_mem_drop hx')) (hsa z (List.mem_of_getLast? hlast))
        (hsa x hx) (hafter' x' hx') (ha.le_getLast hw hsa hlast hx)
    · rw [← List.take_append_drop j (y :: b)] at hb
      exact (List.pairwise_append.mp hb).2.2 x hx x' hx'

theorem mergeRuns_isStableSort (patience : Nat) (hw : IsWeakOrder lt s)
    (hs : ∀ x ∈ a ++ b, s x) (ha : IsSorted lt a) (hb : IsSorted lt b) :
    IsStableSort lt s (a ++ b) (mergeRuns lt patience a b).1 := by
  obtain ⟨hsa, hsb⟩ := List.forall_mem_append.mp hs
  cases b with
  | nil =>
    rw [mergeRuns, List.append_nil]
    exact ha.isStableSort
  | cons y b =>
    have hy : s y := hsb y List.mem_cons_self
    have hinitial := ha.isInitial_not hw hsa hy
    have hgallop : a ≠ [] → gallop (fun x => !lt y x) a 0 = a.countP fun x => !lt y x := fun hne =>
      gallop_eq hinitial (List.length_pos_iff.mpr hne)
    rw [mergeRuns]
    split
    · next hnone =>
      refine append_isStableSort hw hs ha hb fun x hx => ?_
      rw [List.getLast?_eq_none_iff, hgallop (List.ne_nil_of_mem hx)] at hnone
      rw [← List.take_append_drop (a.countP fun x => !lt y x) a, hnone, List.append_nil] at hx
      simpa using hinitial.forall_mem_take x hx
    · next z hz =>
      have hmem : z ∈ a := List.mem_of_mem_drop (List.mem_of_getLast? hz)
      rw [hgallop (List.ne_nil_of_mem hmem)] at hz ⊢
      have hinitial' := hb.isInitial_lt hw hsb (hsa z hmem)
      rw [gallop_eq hinitial' (by simp)]
      refine mergeRest_between hw hs ha hb hz ?_ ?_ hinitial'.forall_mem_take
        hinitial'.forall_mem_drop
      · intro x hx
        simpa using hinitial.forall_mem_take x hx
      · intro x hx
        simpa using hinitial.forall_mem_drop x hx

end

end Proceedings.Sorting
