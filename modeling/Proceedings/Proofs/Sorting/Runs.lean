import Mathlib.Data.List.Chain
import Proceedings.Proofs.Sorting.Merge

/-! # What sorting gives

Sorting gives a permutation of the list, whatever it compares by. If the comparison orders the
elements weakly it is their stable order. A list that is a run already stays as it is; and a list of
fewer than 64 elements is sorted by insertion only, so that one more element leaves the others in
their order.
-/

namespace Proceedings.Sorting

variable {α : Type} {lt : α → α → Bool} {s : α → Prop}

section FirstRun

theorem extend_isChain (r : α → α → Bool) (x : α) (l : List α) :
    (extend r x l).1.IsChain (fun x y => r x y = true) ∧ (extend r x l).1.head? = some x := by
  induction l generalizing x with
  | nil => exact ⟨.singleton x, rfl⟩
  | cons y l ih =>
    rw [extend]
    split
    · next h =>
      obtain ⟨hchain, hhead⟩ := ih y
      refine ⟨List.isChain_cons.mpr ⟨fun z hz => ?_, hchain⟩, rfl⟩
      obtain rfl := Option.some.inj (hhead.symm.trans hz)
      exact h
    · exact ⟨.singleton x, rfl⟩

theorem extend_of_isChain {r : α → α → Bool} {x : α} {l : List α}
    (h : (x :: l).IsChain (fun x y => r x y = true)) : extend r x l = (x :: l, []) := by
  induction l generalizing x with
  | nil => rfl
  | cons y l ih =>
    obtain ⟨hxy, hl⟩ := List.isChain_cons_cons.mp h
    rw [extend, if_pos hxy, ih hl]

theorem pairwise_of_isChain {r : α → α → Prop} {l : List α} (h : l.IsChain r)
    (htrans : ∀ x ∈ l, ∀ y ∈ l, ∀ z ∈ l, r x y → r y z → r x z) : l.Pairwise r := by
  induction l with
  | nil => exact .nil
  | cons x l ih =>
    have hl : l.Pairwise r := by
      refine ih h.tail fun a ha b hb c hc => ?_
      exact htrans a (List.mem_cons_of_mem x ha) b (List.mem_cons_of_mem x hb) c
        (List.mem_cons_of_mem x hc)
    refine List.pairwise_cons.mpr ⟨?_, hl⟩
    cases l with
    | nil => nofun
    | cons y l =>
      have hxy := (List.isChain_cons_cons.mp h).1
      refine List.forall_mem_cons.mpr ⟨hxy, fun z hz => ?_⟩
      exact htrans x (by simp) y (by simp) z (by simp [hz]) hxy ((List.pairwise_cons.mp hl).1 z hz)

/-- A strictly sorted list has no ties, so it may be turned around. -/
theorem sameTies_reverse {l : List α} (h : l.Pairwise fun x y => lt y x = true)
    (hw : IsWeakOrder lt s) (hs : ∀ x ∈ l, s x) : SameTies lt s l l.reverse := by
  induction l with
  | nil => exact .refl []
  | cons x l ih =>
    obtain ⟨hx, hl⟩ := List.pairwise_cons.mp h
    obtain ⟨hsx, hsl⟩ := List.forall_mem_cons.mp hs
    rw [List.reverse_cons]
    have hswap : SameTies lt s ([x] ++ l) (l ++ [x]) := by
      refine sameTies_swap hw hsl (List.forall_mem_singleton.mpr hsx) fun y hy z hz => ?_
      rw [List.mem_singleton.mp hz]
      exact hx y hy
    exact hswap.trans ((ih hl hsl).append (.refl [x]))

theorem firstRun_isStableSort (hw : IsWeakOrder lt s) {l : List α} (hs : ∀ x ∈ l, s x) :
    ∃ pre, l = pre ++ (firstRun lt l).2 ∧ IsStableSort lt s pre (firstRun lt l).1 := by
  match l with
  | [] => exact ⟨[], rfl, IsSorted.isStableSort .nil⟩
  | [x] => exact ⟨[x], rfl, IsSorted.isStableSort (List.pairwise_singleton _ x)⟩
  | x :: y :: l =>
    rw [firstRun]
    split
    · have hsplit := extend_append (fun x y => lt y x) x (y :: l)
      have hmem : ∀ z ∈ (extend (fun x y => lt y x) x (y :: l)).1, s z := by
        intro z hz
        exact hs z (by rw [← hsplit]; exact List.mem_append_left _ hz)
      have hdown : (extend (fun x y => lt y x) x (y :: l)).1.Pairwise fun x y => lt y x = true := by
        refine pairwise_of_isChain (extend_isChain _ _ _).1 fun a ha b hb c hc hba hcb => ?_
        exact hw.trans (hmem c hc) (hmem b hb) (hmem a ha) hcb hba
      refine ⟨_, hsplit.symm, List.reverse_perm _, ?_, sameTies_reverse hdown hw hmem⟩
      refine List.pairwise_reverse.mpr (hdown.imp_of_mem fun ha hb hba => ?_)
      exact hw.asymm (hmem _ hb) (hmem _ ha) hba
    · have hsplit := extend_append (fun x y => !lt y x) x (y :: l)
      have hmem : ∀ z ∈ (extend (fun x y => !lt y x) x (y :: l)).1, s z := by
        intro z hz
        exact hs z (by rw [← hsplit]; exact List.mem_append_left _ hz)
      refine ⟨_, hsplit.symm, IsSorted.isStableSort ?_⟩
      have hchain := (extend_isChain (fun x y => !lt y x) x (y :: l)).1
      simp only [Bool.not_eq_true'] at hchain
      refine pairwise_of_isChain hchain fun a ha b hb c hc hba hcb => ?_
      exact hw.trans_not (hmem c hc) (hmem b hb) (hmem a ha) hcb hba

theorem foldl_insert_isStableSort (hw : IsWeakOrder lt s) {pre run l : List α}
    (h : IsStableSort lt s pre run) (hs : ∀ x ∈ pre ++ l, s x) :
    IsStableSort lt s (pre ++ l) (l.foldl (insert lt) run) := by
  induction l generalizing pre run with
  | nil => rwa [List.append_nil]
  | cons x l ih =>
    rw [← List.singleton_append, ← List.append_assoc] at hs ⊢
    obtain ⟨hpre, hl⟩ := List.forall_mem_append.mp hs
    obtain ⟨hpre, hx⟩ := List.forall_mem_append.mp hpre
    exact ih (h.insert hw hpre (hx x List.mem_cons_self)) hs

theorem nextRun_isStableSort (hw : IsWeakOrder lt s) {l : List α} (hs : ∀ x ∈ l, s x)
    (length : Nat) :
    ∃ pre, l = pre ++ (nextRun lt length l).2 ∧ IsStableSort lt s pre (nextRun lt length l).1 := by
  obtain ⟨pre, hsplit, hrun⟩ := firstRun_isStableSort hw hs
  let missing := length - (firstRun lt l).1.length
  have hall : l = pre ++ (firstRun lt l).2.take missing ++ (firstRun lt l).2.drop missing := by
    rw [List.append_assoc, List.take_append_drop]
    exact hsplit
  refine ⟨pre ++ (firstRun lt l).2.take missing, hall, ?_⟩
  refine foldl_insert_isStableSort hw hrun fun x hx => hs x ?_
  rw [hall]
  exact List.mem_append_left _ hx

end FirstRun

section Pending

def flat : List (Pending α) → List α
  | [] => []
  | p :: rest => flat rest ++ p.run

theorem flat_cons_append_perm (patience : Nat) (p : Pending α) (rest : List (Pending α))
    (run : List α) :
    (flat rest ++ (mergeRuns lt patience p.run run).1).Perm (flat (p :: rest) ++ run) := by
  rw [flat, List.append_assoc]
  exact (mergeRuns_perm p.run run).append_left _

def Runs.elements (r : Runs α) : List α := flat r.pending ++ r.last

theorem elements_collapse (depth patience : Nat) (run : List α) (pending : List (Pending α)) :
    (collapse lt depth patience run pending).elements.Perm (flat pending ++ run) := by
  induction pending generalizing run patience with
  | nil => exact .refl _
  | cons p rest ih =>
    rw [collapse]
    split
    · exact (ih _ _).trans (flat_cons_append_perm patience p rest run)
    · exact .refl _

theorem collapseAll_perm (patience : Nat) (run : List α) (pending : List (Pending α)) :
    (collapseAll lt patience run pending).Perm (flat pending ++ run) := by
  fun_induction collapseAll lt patience run pending with
  | case1 => exact .refl _
  | case2 patience run p => exact mergeRuns_perm p.run run
  | case3 patience run p q rest _ merged ih =>
    exact ih.trans ((flat_cons_append_perm patience q rest p.run).append_right run)
  | case4 patience run p q rest _ merged ih =>
    exact ih.trans (flat_cons_append_perm patience p (q :: rest) run)

theorem sortRest_perm (n : Nat) (r : Runs α) (l : List α) :
    (sortRest lt n r l).Perm (r.elements ++ l) := by
  fun_induction sortRest lt n r l with
  | case1 r =>
    rw [List.append_nil]
    exact collapseAll_perm r.patience r.last r.pending
  | case2 r x l ih =>
    refine ih.trans ?_
    rw [Runs.elements, Runs.push, flat, List.append_assoc]
    exact (elements_collapse _ _ _ _).append (nextRun_perm lt (minRun n) (x :: l))

theorem sort_perm (l : List α) : (sort lt l).Perm l :=
  (sortRest_perm _ _ _).trans (nextRun_perm lt _ l)

/-- The runs found so far in a list: each is sorted, and ties stand as they stood. -/
structure AreRuns (lt : α → α → Bool) (s : α → Prop) (l : List α) (pending : List (Pending α))
    (run : List α) : Prop where
  mem : ∀ x ∈ flat pending ++ run, s x
  ties : SameTies lt s l (flat pending ++ run)
  pending : ∀ p ∈ pending, IsSorted lt p.run
  run : IsSorted lt run

namespace AreRuns

variable {l run : List α} {p q : Pending α} {rest pending : List (Pending α)} {patience : Nat}

theorem merge_last (h : AreRuns lt s l (p :: rest) run) (hw : IsWeakOrder lt s)
    (patience : Nat) :
    AreRuns lt s l rest (mergeRuns lt patience p.run run).1 := by
  obtain ⟨hp, hrest⟩ := List.forall_mem_cons.mp h.pending
  have hmem := h.mem
  have hties := h.ties
  rw [flat, List.append_assoc] at hmem hties
  have hmerged := mergeRuns_isStableSort patience hw
    (List.forall_mem_append.mp hmem).2 hp h.run
  refine ⟨?_, hties.trans ((SameTies.refl _).append hmerged.ties), hrest, hmerged.sorted⟩
  intro x hx
  exact h.mem x ((flat_cons_append_perm patience p rest run).mem_iff.mp hx)

theorem merge_before_last (h : AreRuns lt s l (p :: q :: rest) run) (hw : IsWeakOrder lt s)
    (depth patience : Nat) :
    AreRuns lt s l (⟨(mergeRuns lt patience q.run p.run).1, depth⟩ :: rest) run := by
  obtain ⟨hp, hq⟩ := List.forall_mem_cons.mp h.pending
  obtain ⟨hmem, hrun⟩ := List.forall_mem_append.mp h.mem
  have hbefore : AreRuns lt s (flat (q :: rest) ++ p.run) (q :: rest) p.run :=
    ⟨hmem, .refl _, hq, hp⟩
  have hmerged := hbefore.merge_last hw patience
  refine ⟨List.forall_mem_append.mpr ⟨hmerged.mem, hrun⟩, ?_, ?_, h.run⟩
  · exact h.ties.trans (hmerged.ties.append (.refl run))
  · exact List.forall_mem_cons.mpr ⟨hmerged.run, hmerged.pending⟩

theorem collapse (h : AreRuns lt s l pending run) (hw : IsWeakOrder lt s)
    (depth patience : Nat) :
    let collapsed := collapse lt depth patience run pending
    AreRuns lt s l collapsed.pending collapsed.last := by
  induction pending generalizing run patience with
  | nil => exact h
  | cons p rest ih =>
    rw [Sorting.collapse]
    split
    · exact ih (h.merge_last hw patience) _
    · exact h

theorem collapseAll (h : AreRuns lt s l pending run) (hw : IsWeakOrder lt s) :
    IsSorted lt (collapseAll lt patience run pending) ∧
      SameTies lt s l (Sorting.collapseAll lt patience run pending) := by
  fun_induction Sorting.collapseAll lt patience run pending with
  | case1 => exact ⟨h.run, h.ties⟩
  | case2 patience run p =>
    have hlast := h.merge_last hw patience
    exact ⟨hlast.run, hlast.ties⟩
  | case3 patience run p q rest _ merged ih => exact ih (h.merge_before_last hw _ patience)
  | case4 patience run p q rest _ merged ih => exact ih (h.merge_last hw patience)

theorem push {r : Runs α} {pre next : List α} (h : AreRuns lt s l r.pending r.last)
    (hw : IsWeakOrder lt s) (n : Nat) (hpre : ∀ x ∈ pre, s x)
    (hnext : IsStableSort lt s pre next) :
    AreRuns lt s (l ++ pre) (r.push lt n next).pending (r.push lt n next).last := by
  have hcollapsed := h.collapse hw (r.nextDepth n next) r.patience
  refine ⟨List.forall_mem_append.mpr ⟨hcollapsed.mem, fun y hy => ?_⟩, ?_, ?_, hnext.sorted⟩
  · exact hpre y (hnext.perm.mem_iff.mp hy)
  · exact hcollapsed.ties.append hnext.ties
  · exact List.forall_mem_cons.mpr ⟨hcollapsed.run, hcollapsed.pending⟩

theorem sortRest {r : Runs α} {n : Nat} {rest : List α} (h : AreRuns lt s l r.pending r.last)
    (hw : IsWeakOrder lt s) (hs : ∀ x ∈ rest, s x) :
    IsSorted lt (sortRest lt n r rest) ∧
      SameTies lt s (l ++ rest) (Sorting.sortRest lt n r rest) := by
  fun_induction Sorting.sortRest lt n r rest generalizing l with
  | case1 r =>
    rw [List.append_nil]
    exact h.collapseAll hw
  | case2 r x rest ih =>
    obtain ⟨pre, hsplit, hnext⟩ := nextRun_isStableSort hw hs (minRun n)
    rw [hsplit] at hs
    obtain ⟨hpre, hs⟩ := List.forall_mem_append.mp hs
    have hlast := ih (h.push hw n hpre hnext) hs
    rwa [List.append_assoc, ← hsplit] at hlast

end AreRuns

/-- If the comparison orders the elements of a list weakly, sorting gives their stable order. -/
theorem sort_isStableSort {l : List α} (hw : IsWeakOrder lt s) (hs : ∀ x ∈ l, s x) :
    IsStableSort lt s l (sort lt l) := by
  obtain ⟨pre, hsplit, hfirst⟩ := nextRun_isStableSort hw hs (minRun l.length)
  have hmem : ∀ x ∈ pre ++ (nextRun lt (minRun l.length) l).2, s x := by
    rw [← hsplit]
    exact hs
  obtain ⟨hpre, hrest⟩ := List.forall_mem_append.mp hmem
  have hruns : AreRuns lt s pre [] (nextRun lt (minRun l.length) l).1 :=
    ⟨fun x hx => hpre x (hfirst.perm.mem_iff.mp hx), hfirst.ties, nofun, hfirst.sorted⟩
  have hall : IsSorted lt (sort lt l) ∧ SameTies lt s (pre ++ _) (sort lt l) :=
    AreRuns.sortRest (r := ⟨[], _, 7⟩) hruns hw hrest
  obtain ⟨hsorted, hties⟩ := hall
  rw [← hsplit] at hties
  exact ⟨sort_perm l, hsorted, hties⟩

end Pending

section Short

theorem sort_of_isChain {l : List α} (h : l.IsChain fun x y => lt y x = false) : sort lt l = l := by
  have hfirst : firstRun lt l = (l, []) := by
    match l with
    | [] => rfl
    | [x] => rfl
    | x :: y :: l =>
      obtain ⟨hxy, -⟩ := List.isChain_cons_cons.mp h
      rw [firstRun, if_neg (by simp [hxy])]
      exact extend_of_isChain (by simpa using h)
  simp [sort, nextRun, hfirst, sortRest, collapseAll]

theorem nextRun_of_length_le {length : Nat} {l : List α} (h : l.length ≤ length) :
    nextRun lt length l = ((firstRun lt l).2.foldl (insert lt) (firstRun lt l).1, []) := by
  have hlength := (firstRun_perm lt l).length_eq
  rw [List.length_append] at hlength
  rw [nextRun, List.take_of_length_le (by omega), List.drop_of_length_le (by omega)]

theorem sort_of_length_lt {l : List α} (h : l.length < 64) :
    sort lt l = (firstRun lt l).2.foldl (insert lt) (firstRun lt l).1 := by
  have hrun : minRun l.length = l.length := by
    rw [minRun, if_pos h]
    rfl
  rw [sort, hrun, nextRun_of_length_le le_rfl, sortRest, collapseAll]

theorem extend_concat (r : α → α → Bool) (x y : α) (l : List α) :
    extend r x (l ++ [y]) = ((extend r x l).1, (extend r x l).2 ++ [y]) ∨
      (extend r x l).2 = [] ∧ extend r x (l ++ [y]) = ((extend r x l).1 ++ [y], []) := by
  induction l generalizing x with
  | nil =>
    rw [List.nil_append, extend, extend]
    split
    · exact .inr ⟨rfl, rfl⟩
    · exact .inl rfl
  | cons z l ih =>
    rw [List.cons_append, extend, extend]
    split
    · rcases ih z with h | ⟨hnil, h⟩
      · exact .inl (by rw [h])
      · exact .inr ⟨hnil, by rw [h, List.cons_append]⟩
    · exact .inl rfl

/-- The first run of a list with one more element: it does not change, or the element is put at one
of its ends. -/
theorem firstRun_concat (lt : α → α → Bool) (l : List α) (x : α) :
    firstRun lt (l ++ [x]) = ((firstRun lt l).1, (firstRun lt l).2 ++ [x]) ∨
      (firstRun lt l).2 = [] ∧ (firstRun lt (l ++ [x]) = ((firstRun lt l).1 ++ [x], []) ∨
        firstRun lt (l ++ [x]) = (x :: (firstRun lt l).1, [])) := by
  match l with
  | [] => exact .inr ⟨rfl, .inl rfl⟩
  | [a] =>
    refine .inr ⟨rfl, ?_⟩
    by_cases h : lt x a = true
    · exact .inr (by simp [firstRun, extend, h])
    · exact .inl (by simp [firstRun, extend, h])
  | a :: b :: l =>
    rw [List.cons_append, List.cons_append, firstRun, firstRun, ← List.cons_append]
    split
    · rcases extend_concat (fun x y => lt y x) a x (b :: l) with h | ⟨hnil, h⟩
      · exact .inl (by rw [h])
      · exact .inr ⟨hnil, .inr (by rw [h]; simp)⟩
    · rcases extend_concat (fun x y => !lt y x) a x (b :: l) with h | ⟨hnil, h⟩
      · exact .inl h
      · exact .inr ⟨hnil, .inl h⟩

/-- One more element of a short list is put between the others, whatever the comparison. -/
theorem sort_concat {l : List α} {x : α} (h : l.length + 1 < 64) :
    ∃ pre post, sort lt l = pre ++ post ∧ sort lt (l ++ [x]) = pre ++ x :: post := by
  rw [sort_of_length_lt (Nat.lt_of_succ_lt h), sort_of_length_lt (by simpa using h)]
  rcases firstRun_concat lt l x with hrun | ⟨hnil, hrun | hrun⟩
  · rw [hrun, List.foldl_append]
    exact ⟨_, _, (List.take_append_drop _ _).symm, rfl⟩
  · rw [hrun, hnil]
    exact ⟨_, [], (List.append_nil _).symm, rfl⟩
  · rw [hrun, hnil]
    exact ⟨[], _, rfl, rfl⟩

end Short

end Proceedings.Sorting
