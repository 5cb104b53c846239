import Proceedings.Proofs.Files.Content
import Proceedings.Proofs.Recorder.Chronology
import Proceedings.Proofs.Replay.Loading
import Proceedings.Proofs.Replay.Record
import Proceedings.Proofs.Text.Utf8
import Proceedings.Proofs.Wire.Input

/-! # The order of arrival

Events whose times are in step can be recorded in any order, as long as those of one instant keep
theirs: what is frozen is the same. Those of a log are in step. A replay also starts and ends at the
same times, since the first of the earliest events and the first of the latest stay what they are.
-/

namespace Proceedings

open Wire DateTime

def Value.isEventAt (n : Int) : Value → Bool
  | .event e => e.isAt n
  | _ => false

namespace Recorder

/-- The same events in another order, in which those of one instant stand as before. -/
structure Reordering (l l' : List Event) : Prop where
  perm : l'.Perm l
  ties : ∀ n, l'.filter (Event.isAt n) = l.filter (Event.isAt n)

variable {l l' : List Event} {r r' : Recorder} {c : Clock}

theorem Reordering.append_left (h : Reordering l l') (front : List Event) :
    Reordering (front ++ l) (front ++ l') := by
  refine ⟨h.perm.append_left front, ?_⟩
  intro n
  rw [List.filter_append, List.filter_append, h.ties n]

theorem Reordering.append_right (h : Reordering l l') (rest : List Event) :
    Reordering (l ++ rest) (l' ++ rest) := by
  refine ⟨h.perm.append_right rest, fun n => ?_⟩
  rw [List.filter_append, List.filter_append, h.ties n]

theorem Reordering.swap
    (h : ∀ e ∈ l, ∀ f ∈ l', e.timestamp.instant? ≠ f.timestamp.instant?) :
    Reordering (l ++ l') (l' ++ l) := by
  refine ⟨List.perm_append_comm, fun n => ?_⟩
  rw [List.filter_append, List.filter_append]
  by_cases hnone : l.filter (Event.isAt n) = []
  · rw [hnone, List.append_nil, List.nil_append]
  · obtain ⟨e, hmem⟩ := List.exists_mem_of_ne_nil _ hnone
    obtain ⟨he, hen⟩ := List.mem_filter.mp hmem
    have hnone' : l'.filter (Event.isAt n) = [] := by
      refine List.filter_eq_nil_iff.mpr fun f hf hfn => h e he f hf ?_
      rw [eq_of_beq hen, eq_of_beq hfn]
    rw [hnone', List.append_nil, List.nil_append]

theorem Reordering.areInStep (h : Reordering l l')
    (hl : AreInStep (l.map (·.timestamp))) : AreInStep (l'.map (·.timestamp)) :=
  hl.subset fun _ hd => (h.perm.map _).mem_iff.mp hd

theorem Reordering.chronological_eq (h : Reordering l l')
    (hl : AreInStep (l.map (·.timestamp))) : chronological l = chronological l' := by
  have hl' := isChronological_chronological (h.areInStep hl)
  refine (isChronological_chronological hl).unique (List.forall_mem_map.mp hl.isAware)
    ⟨hl'.perm.trans h.perm, hl'.sorted, fun n => ?_⟩
  rw [hl'.stable n, h.ties n]

/-- Events of which no two are at one instant can be reordered in any way. -/
theorem Reordering.of_nodup (hperm : l'.Perm l)
    (hnodup : (l.map fun e => e.timestamp.instant?).Nodup) : Reordering l l' := by
  refine ⟨hperm, ?_⟩
  intro n
  have hfilter := hperm.filter (Event.isAt n)
  have hsome (e : Event) (he : e ∈ l.filter (Event.isAt n)) : e.timestamp.instant? = some n := by
    simpa [Event.isAt] using (List.mem_filter.mp he).2
  -- at most one event is at the instant
  have hsub : ((l.filter (Event.isAt n)).map fun e => e.timestamp.instant?).Nodup :=
    hnodup.sublist (List.filter_sublist.map _)
  rcases hl : l.filter (Event.isAt n) with _ | ⟨e, _ | ⟨f, rest⟩⟩
  · rw [hl] at hfilter
    exact hfilter.eq_nil
  · rw [hl] at hfilter
    exact List.perm_singleton.mp hfilter
  · rw [hl] at hsub hsome
    have he := hsome e (by simp)
    have hf := hsome f (by simp)
    simp [he, hf] at hsub

theorem freeze_of_reordering (h : r' = { r with events := r'.events })
    (hevents : Reordering r.events r'.events)
    (hstep : AreInStep (r.events.map (·.timestamp))) : r.freeze = r'.freeze := by
  rw [h, freeze, freeze, hevents.chronological_eq hstep]

section Adding

def taken (vs : List Value) : List Event :=
  vs.filterMap fun
    | .event e => if e.timestamp.isAware then some e else none
    | _ => none

theorem performAll_addEvent (vs : List Value) (x : Recorder × Clock) :
    performAll (vs.map .addEvent) x = ({ x.1 with events := x.1.events ++ taken vs }, x.2) := by
  obtain ⟨r, c⟩ := x
  induction vs generalizing r with
  | nil => simp [performAll, taken]
  | cons v vs ih =>
    rw [List.map_cons, performAll]
    cases v
    case event e =>
      by_cases he : e.timestamp.isAware = true
      · rw [perform_addEvent he, Outcome.done, ih]
        simp [taken, he]
      · simp only [perform, addEvent, append_eq, he, Outcome.failed, Outcome.within, Outcome.map,
          Bool.false_eq_true, if_false, ih]
        simp [taken, he]
    all_goals exact ih r

theorem isAware_taken (vs : List Value) : ∀ e ∈ taken vs, e.timestamp.isAware = true := by
  intro e he
  obtain ⟨v, -, hv⟩ := List.mem_filterMap.mp he
  split at hv
  · split at hv
    · obtain rfl := Option.some.inj hv
      assumption
    · cases hv
  · cases hv

theorem filter_taken (n : Int) (vs : List Value) :
    (taken vs).filter (Event.isAt n) = taken (vs.filter (Value.isEventAt n)) := by
  induction vs with
  | nil => rfl
  | cons v vs ih =>
    cases v
    case event e =>
      cases haware : e.timestamp.isAware <;> cases hat : e.isAt n <;>
        simp_all [taken, Value.isEventAt]
    all_goals simpa [taken, Value.isEventAt] using ih

theorem reordering_taken {vs vs' : List Value} (hperm : vs'.Perm vs)
    (hties : ∀ n, vs'.filter (Value.isEventAt n) = vs.filter (Value.isEventAt n)) :
    Reordering (taken vs) (taken vs') := by
  refine ⟨hperm.filterMap _, ?_⟩
  intro n
  rw [filter_taken, filter_taken, hties n]

theorem freeze_performAll_of_perm {vs vs' : List Value} {x : Recorder × Clock}
    (hx : AreInStep ((x.1.events ++ taken vs).map (·.timestamp))) (hperm : vs'.Perm vs)
    (hties : ∀ n, vs'.filter (Value.isEventAt n) = vs.filter (Value.isEventAt n)) :
    (performAll (vs'.map .addEvent) x).1.freeze = (performAll (vs.map .addEvent) x).1.freeze := by
  rw [performAll_addEvent, performAll_addEvent]
  exact (freeze_of_reordering rfl ((reordering_taken hperm hties).append_left _) hx).symm

/-- Whether what is frozen of events at certain times, and at times outside of any zone, does not
depend on the order in which they are added, if those of one instant keep theirs. -/
def ArrivesInAnyOrder (times : DateTime → Prop) : Prop :=
  ∀ (room : Value) (c : Clock) (setup : List RecorderCall) (vs vs' : List Value),
    let start := performAll setup (.new room, c)
    (∀ e, e ∈ start.1.events ∨ .event e ∈ vs → times e.timestamp ∨ e.timestamp.place = none) →
    vs'.Perm vs → (∀ n, vs'.filter (Value.isEventAt n) = vs.filter (Value.isEventAt n)) →
    (performAll (vs'.map .addEvent) start).1.freeze = (performAll (vs.map .addEvent) start).1.freeze

theorem mem_of_mem_taken {vs : List Value} {e : Event} (h : e ∈ taken vs) : .event e ∈ vs := by
  obtain ⟨v, hv, he⟩ := List.mem_filterMap.mp h
  split at he
  · split at he
    · rwa [← Option.some.inj he]
    · cases he
  · cases he

theorem arrivesInAnyOrder_of_inStep {times : DateTime → Prop}
    (h : ∀ d e, times d → times e → d.InStep e) : ArrivesInAnyOrder times := by
  intro room c setup vs vs' start htimes hperm hties
  have haware : ∀ e ∈ start.1.events ++ taken vs, e.timestamp.isAware = true :=
    List.forall_mem_append.mpr ⟨(performAll_isAware room c setup).events, isAware_taken vs⟩
  have hmem : ∀ e ∈ start.1.events ++ taken vs, times e.timestamp ∨ e.timestamp.place = none := by
    intro e he
    exact htimes e ((List.mem_append.mp he).imp_right mem_of_mem_taken)
  have hstep : AreInStep ((start.1.events ++ taken vs).map (·.timestamp)) := by
    refine Event.areInStep_timestamps haware fun e he f hf => ?_
    rcases hmem e he with hte | hplace
    · rcases hmem f hf with htf | hplace
      · exact h _ _ hte htf
      · exact inStep_of_place_eq_none_right hplace
    · exact inStep_of_place_eq_none hplace
  exact freeze_performAll_of_perm hstep hperm hties

theorem ArrivesInAnyOrder.chronological_eq {times : DateTime → Prop} (h : ArrivesInAnyOrder times)
    (haware : ∀ e ∈ l, e.timestamp.isAware = true)
    (htimes : ∀ e ∈ l, times e.timestamp ∨ e.timestamp.place = none) (hl : Reordering l l') :
    chronological l' = chronological l := by
  have htaken (l : List Event) (hl : ∀ e ∈ l, e.timestamp.isAware = true) :
      taken (l.map .event) = l := by
    rw [taken, List.filterMap_map]
    refine (List.filterMap_congr fun e he => ?_).trans List.filterMap_some
    exact if_pos (hl e he)
  have hfilter (n : Int) (l : List Event) :
      (l.map Value.event).filter (Value.isEventAt n) = (l.filter (Event.isAt n)).map .event := by
    rw [List.filter_map]
    rfl
  have hfreeze := h .null (.ofList []) [] (l.map .event) (l'.map .event) ?_ (hl.perm.map _) ?_
  · have hevents := congrArg Transcript.events hfreeze
    rw [performAll_addEvent, performAll_addEvent, htaken l haware,
      htaken l' fun e he => haware e (hl.perm.mem_iff.mp he)] at hevents
    exact List.map_injective_iff.mpr (fun _ _ => Value.event.inj) hevents
  · rintro e (he | he)
    · cases he
    · obtain ⟨f, hf, hfe⟩ := List.mem_map.mp he
      exact Value.event.inj hfe ▸ htimes f hf
  · intro n
    rw [hfilter, hfilter, hl.ties n]

/-- The last of four is put before the first only, since it is compared with the third no more. -/
theorem sort_four {α : Type} {lt : α → α → Bool} {a b c x : α} (hba : lt b a = true)
    (hca : lt c a = false) (hcb : lt c b = false) (hxa : lt x a = true) (hxb : lt x b = false) :
    Sorting.sort lt [a, b, c, x] = [b, x, a, c] := by
  have hfirst : Sorting.firstRun lt [a, b, c, x] = ([b, a], [c, x]) := by
    simp [Sorting.firstRun, Sorting.extend, hba, hcb]
  have hthird : Sorting.insert lt [b, a] c = [b, a, c] := by
    rw [Sorting.insert, Sorting.bisect_eq (by simp [Sorting.IsInitial, hca, hcb])]
    simp [hca, hcb]
  have hfourth : Sorting.insert lt [b, a, c] x = [b, x, a, c] := by
    have hfront : Sorting.bisect (fun y => !lt x y) [b] = 1 := by
      rw [Sorting.bisect_eq (List.pairwise_singleton _ _)]
      simp [hxb]
    have hhalf : [b, a, c].drop ([b, a, c].length / 2) = [a, c] := by simp
    rw [Sorting.insert, Sorting.bisect_of_drop hhalf,
      if_neg (by simp [hxa])]
    simp [hfront]
  rw [Sorting.sort_of_length_lt (by simp), hfirst, List.foldl_cons, hthird, List.foldl_cons,
    hfourth]
  rfl

section InStep

variable {times : DateTime → Prop} {d e : DateTime} {m n : Int}

/-- If an earlier time is not before a later one, events at them stay in either order behind or
before another at the earlier instant. -/
theorem ArrivesInAnyOrder.before_of_lt (h : ArrivesInAnyOrder times) (hd : times d) (he : times e)
    (hm : d.instant? = some m) (hn : e.instant? = some n) (hlt : m < n) : d.before e = true := by
  by_contra hnot
  let g : DateTime := { d with place := none }
  have hg : g.instant? = some m := hm
  have hgd : g.before d = false := by simp [inStep_of_place_eq_none (d := g) rfl m hg m hm]
  have heg : e.before g = false := by
    rw [inStep_of_place_eq_none_right (e := g) rfl n hn m hg]
    exact decide_eq_false (not_lt.mpr hlt.le)
  have hde : d.before e = false := Bool.eq_false_of_not_eq_true hnot
  have hfirst : chronological [joinAt d, joinAt g, joinAt e] = [joinAt d, joinAt g, joinAt e] :=
    Sorting.sort_of_isChain (.cons_cons hgd (.cons_cons heg (.singleton _)))
  have hsecond : chronological [joinAt e, joinAt d, joinAt g] = [joinAt e, joinAt d, joinAt g] :=
    Sorting.sort_of_isChain (.cons_cons hde (.cons_cons hgd (.singleton _)))
  have hswap :
      Reordering ([joinAt d, joinAt g] ++ [joinAt e]) ([joinAt e] ++ [joinAt d, joinAt g]) :=
    .swap (by simp [joinAt, hm, hg, hn, hlt.ne])
  have hsame := h.chronological_eq ?_ ?_ hswap
  · rw [List.singleton_append, hsecond, List.cons_append, List.singleton_append, hfirst] at hsame
    have hed : e = d := congrArg Event.timestamp (List.cons.inj hsame).1
    rw [hed, hm] at hn
    exact hlt.ne (Option.some.inj hn)
  · simp [joinAt, isAware_iff, hm, hg, hn]
  · simp [joinAt, hd, he, g]

/-- If one of two times of one instant is before the other, its event is put before the other only
if it is compared with it. -/
theorem ArrivesInAnyOrder.not_before_of_eq (h : ArrivesInAnyOrder times) (hd : times d)
    (he : times e) (hm : d.instant? = some m) (hn : e.instant? = some m) : d.before e = false := by
  by_contra hnot
  have hde : d.before e = true := Bool.eq_true_of_not_eq_false hnot
  have hshares : d.sharesZone e = true := by
    by_contra hshares
    rw [inStep_of_not_sharesZone (Bool.eq_false_of_not_eq_true hshares) m hm m hn] at hde
    simp at hde
  have hlt : d.reading < e.reading := by simpa [before, hshares] using hde
  let g : DateTime := { e with place := none }
  let k : DateTime := ⟨⟨e.reading.val - 1, by omega⟩, e.offset, none⟩
  have hg : g.instant? = some m := hn
  have hk : k.instant? = some (m - 1) := by
    obtain ⟨o, ho, hom⟩ := Option.map_eq_some_iff.mp hn
    simp only [DateTime.instant?, k, ho, Option.map_some, Option.some.injEq]
    have hpos : d.reading.val < e.reading.val := hlt
    omega
  have hke : k.before e = true := by simp [inStep_of_place_eq_none (d := k) rfl _ hk _ hn]
  have hge : g.before e = false := by simp [inStep_of_place_eq_none (d := g) rfl _ hg _ hn]
  have hgk : g.before k = false := by simp [inStep_of_place_eq_none (d := g) rfl _ hg _ hk]
  have hdk : d.before k = false := by simp [inStep_of_place_eq_none_right (e := k) rfl _ hm _ hk]
  have hdg : d.before g = false := by simp [inStep_of_place_eq_none_right (e := g) rfl _ hm _ hg]
  have hek : e.before k = false := before_asymm hke
  have hfirst : chronological [joinAt e, joinAt k, joinAt g, joinAt d] =
      [joinAt k, joinAt d, joinAt e, joinAt g] := sort_four hke hge hgk hde hdk
  have hsecond : chronological [joinAt k, joinAt e, joinAt g, joinAt d] =
      [joinAt k, joinAt e, joinAt g, joinAt d] :=
    Sorting.sort_of_isChain (.cons_cons hek (.cons_cons hge (.cons_cons hdg (.singleton _))))
  have hswap : Reordering ([joinAt e] ++ [joinAt k]) ([joinAt k] ++ [joinAt e]) :=
    .swap (by simp [joinAt, hn, hk, (sub_one_lt m).ne'])
  have hsame := h.chronological_eq ?_ ?_ (hswap.append_right [joinAt g, joinAt d])
  · simp only [List.cons_append, List.nil_append, hfirst, hsecond] at hsame
    have hed : e = d := congrArg Event.timestamp (List.cons.inj (List.cons.inj hsame).2).1
    rw [hed, before_self] at hde
    cases hde
  · simp [joinAt, isAware_iff, hm, hn, hk, hg]
  · simp [joinAt, hd, he, g, k]

theorem ArrivesInAnyOrder.inStep (h : ArrivesInAnyOrder times) (hd : times d) (he : times e) :
    d.InStep e := by
  intro m hm n hn
  rcases lt_trichotomy m n with hlt | rfl | hgt
  · rw [h.before_of_lt hd he hm hn hlt, decide_eq_true hlt]
  · rw [h.not_before_of_eq hd he hm hn, decide_eq_false (lt_irrefl m)]
  · rw [before_asymm (h.before_of_lt he hd hn hm hgt), decide_eq_false hgt.not_gt]

end InStep

end Adding

end Recorder

namespace Replay

open Recorder

section Bounds

def least (key : DateTime → Int) (d : DateTime) (others : List DateTime) : DateTime :=
  others.foldl (fun best e => if key e < key best then e else best) d

theorem least_spec (key : DateTime → Int) (d : DateTime) (others : List DateTime) :
    (∀ x ∈ d :: others, key (least key d others) ≤ key x) ∧
      (d :: others).find? (fun x => key x == key (least key d others)) =
        some (least key d others) := by
  induction others generalizing d with
  | nil => simp [least]
  | cons e others ih =>
    obtain ⟨hle, hfind⟩ := ih (if key e < key d then e else d)
    rw [← show least key d (e :: others) = least key (if key e < key d then e else d) others
      from rfl] at hle hfind
    split at hle
    · next hlt =>
      rw [if_pos hlt] at hfind
      have hd : key (least key d (e :: others)) < key d :=
        (hle e List.mem_cons_self).trans_lt hlt
      refine ⟨List.forall_mem_cons.mpr ⟨hd.le, hle⟩, ?_⟩
      rwa [List.find?_cons_of_neg (by simp [hd.ne'])]
    · next hge =>
      rw [if_neg hge] at hfind
      obtain ⟨hd, hothers⟩ := List.forall_mem_cons.mp hle
      refine ⟨List.forall_mem_cons.mpr ⟨hd, List.forall_mem_cons.mpr ⟨by omega, hothers⟩⟩, ?_⟩
      -- the second is passed over: it could only be as early as the first
      by_cases hat : key d = key (least key d (e :: others))
      · rwa [List.find?_cons_of_pos (by simp [hat])] at hfind ⊢
      · rw [List.find?_cons_of_neg (by simp [hat])] at hfind ⊢
        rwa [List.find?_cons_of_neg (by simp; omega)]

/-- The first of the least is the same in any order that keeps those of one key as they stand. -/
theorem least_eq {key : DateTime → Int} {d d' : DateTime} {others others' : List DateTime}
    (hperm : (d' :: others').Perm (d :: others))
    (hties : ∀ n, (d' :: others').filter (fun x => key x == n) =
      (d :: others).filter (fun x => key x == n)) :
    least key d others = least key d' others' := by
  obtain ⟨hle, hfind⟩ := least_spec key d others
  obtain ⟨hle', hfind'⟩ := least_spec key d' others'
  have hmem := hperm.mem_iff.mpr (List.mem_of_find?_eq_some hfind)
  have hmem' := hperm.mem_iff.mp (List.mem_of_find?_eq_some hfind')
  have hkey : key (least key d others) = key (least key d' others') :=
    le_antisymm (hle _ hmem') (hle' _ hmem)
  rw [← List.head?_filter] at hfind hfind'
  rw [hties, ← hkey, hfind] at hfind'
  exact Option.some.inj hfind'

def instant (d : DateTime) : Int := d.instant?.getD 0

theorem before_eq_instant {d e : DateTime} {times : List DateTime} (h : AreInStep times)
    (hd : d ∈ times) (he : e ∈ times) : d.before e = decide (instant d < instant e) := by
  obtain ⟨m, hm⟩ := DateTime.isAware_iff.mp (h.isAware d hd)
  obtain ⟨n, hn⟩ := DateTime.isAware_iff.mp (h.isAware e he)
  rw [h.inStep d hd e he m hm n hn, instant, instant, hm, hn]
  rfl

theorem foldl_eq_least {key : DateTime → Int} (prefers : DateTime → DateTime → Bool) {d : DateTime}
    {others : List DateTime}
    (h : ∀ x ∈ d :: others, ∀ y ∈ d :: others, prefers x y = decide (key y < key x)) :
    others.foldl (fun best e => if prefers best e then e else best) d = least key d others := by
  induction others generalizing d with
  | nil => rfl
  | cons e others ih =>
    rw [least, List.foldl_cons, List.foldl_cons, h d (by simp) e (by simp)]
    simp only [decide_eq_true_eq]
    split
    · exact ih fun x hx y hy => h x (List.mem_cons_of_mem d hx) y (List.mem_cons_of_mem d hy)
    · have hsub : ∀ x ∈ d :: others, x ∈ d :: e :: others := by
        intro x hx
        exact (List.Sublist.cons_cons d (List.sublist_cons_self e others)).subset hx
      exact ih fun x hx y hy => h x (hsub x hx) y (hsub y hy)

theorem earliest_eq_least {d : DateTime} {others : List DateTime} (h : AreInStep (d :: others)) :
    earliest d others = least instant d others :=
  foldl_eq_least (fun best e => e.before best) fun _ hx _ hy => before_eq_instant h hy hx

theorem latest_eq_least {d : DateTime} {others : List DateTime} (h : AreInStep (d :: others)) :
    latest d others = least (fun x => -instant x) d others := by
  refine foldl_eq_least (fun best e => best.before e) fun x hx y hy => ?_
  simp only [before_eq_instant h hx hy, Int.neg_lt_neg_iff]

end Bounds

section Reordered

variable {e e' : Event} {rest rest' : List Event}

theorem least_of_reordering (h : Reordering (e :: rest) (e' :: rest'))
    (hstep : AreInStep ((e :: rest).map (·.timestamp))) {key : DateTime → Int}
    (index : Int → Int) (hkey : ∀ d n, (key d == n) = (instant d == index n)) :
    least key e.timestamp (rest.map (·.timestamp)) =
      least key e'.timestamp (rest'.map (·.timestamp)) := by
  have hfilter (n : Int) {l : List Event} (hl : AreInStep (l.map (·.timestamp))) :
      (l.map (·.timestamp)).filter (fun x => key x == n) =
        (l.filter (Event.isAt (index n))).map (·.timestamp) := by
    rw [List.filter_map]
    refine congrArg _ (List.filter_congr fun f hf => ?_)
    have haware := List.forall_mem_map.mp hl.isAware f hf
    rw [Function.comp_apply, hkey, Event.isAt, Event.instant?_eq haware]
    rfl
  refine least_eq (h.perm.map _) ?_
  intro n
  exact (hfilter n (h.areInStep hstep)).trans
    ((congrArg _ (h.ties _)).trans (hfilter n hstep).symm)

/-- A replay of the same events in another order starts and ends at the same readings. -/
theorem bounds_of_reordering (h : Reordering (e :: rest) (e' :: rest'))
    (hstep : AreInStep ((e :: rest).map (·.timestamp))) :
    earliest e.timestamp (rest.map (·.timestamp)) =
        earliest e'.timestamp (rest'.map (·.timestamp)) ∧
      latest e.timestamp (rest.map (·.timestamp)) =
        latest e'.timestamp (rest'.map (·.timestamp)) := by
  have hstep' := h.areInStep hstep
  rw [earliest_eq_least hstep, earliest_eq_least hstep', latest_eq_least hstep,
    latest_eq_least hstep']
  constructor
  · exact least_of_reordering h hstep id fun _ _ => rfl
  · refine least_of_reordering h hstep (fun n => -n) fun d n => ?_
    rw [Bool.eq_iff_iff]
    simp only [beq_iff_eq]
    omega

theorem freeze_record_of_reordering {es es' : List Event} (h : Reordering es es')
    (hstep : AreInStep (es.map (·.timestamp))) (room : Value) (initial : List Participant) :
    (record room es initial).freeze = (record room es' initial).freeze := by
  match es, es', h, hstep with
  | [], es', h, _ =>
    obtain rfl := h.perm.eq_nil
    rfl
  | e :: rest, [], h, _ => exact absurd h.perm.symm.eq_nil (List.cons_ne_nil e rest)
  | e :: rest, e' :: rest', h, hstep =>
    obtain ⟨hstart, hstop⟩ := bounds_of_reordering h hstep
    have hadded (l : List Event) (hl : AreInStep (l.map (·.timestamp))) (x) :
        performAll (l.map fun f => .addEvent (.event f)) x =
          ({ x.1 with events := x.1.events ++ l }, x.2) :=
      (accepts_addEvents (List.forall_mem_map.mp hl.isAware) x.1 x.2).performAll_eq
    -- A start records no events, so those added are all.
    have hnone : (perform (.new room) (.ofList []) (.started
        (.time (earliest e'.timestamp (rest'.map (·.timestamp))))
        (.list (initial.map .participant)))).state.1.events = [] := by
      rw [(grows_perform _ _ _).events, returned_started]
      rfl
    rw [record, record, calls, calls, List.cons_append, List.cons_append, performAll, performAll,
      performAll_append, performAll_append, hadded _ hstep, hadded _ (h.areInStep hstep),
      hstart, hstop]
    refine freeze_of_reordering rfl (h.append_left _) ?_
    rw [hnone]
    exact hstep

end Reordered

section Shuffled

variable {path path' : Path} {files files' : FileStore} {values values' : List Value}
  {events : List Event}

theorem exists_loadEvents_of_perm (hvalues : contents path files = .ok values)
    (hvalues' : contents path' files' = .ok values') (hperm : values'.Perm values)
    (h : loadEvents path files = .ok events) :
    ∃ events', loadEvents path' files' = .ok events' ∧ events'.Perm events := by
  rw [loadEvents_eq, hvalues, ok_bind, mapM_eq_ok_iff] at h
  obtain ⟨events', hevents', hshuffled⟩ := List.perm_comp_forall₂ hperm h
  refine ⟨events', ?_, hshuffled⟩
  rw [loadEvents_eq, hvalues', ok_bind, mapM_eq_ok_iff]
  exact hevents'

/-- What is frozen does not depend on the order in which events are added, if those of one instant
keep theirs, exactly if their times are in step. A log whose events are all at different instants
can be shuffled at will: it is still loaded, and its replay gives the same transcript. -/
theorem freeze_of_shuffled (times : DateTime → Prop) :
    (ArrivesInAnyOrder times ↔ ∀ d e, times d → times e → d.InStep e) ∧
    ∀ path path' files files' values values' events, contents path files = .ok values →
      contents path' files' = .ok values' → values'.Perm values →
      loadEvents path files = .ok events → (events.map fun e => e.timestamp.instant?).Nodup →
      ∃ events', loadEvents path' files' = .ok events' ∧ ∀ room initial,
        let t := (record room events initial).freeze
        let t' := (record room events' initial).freeze
        t' = t ∧ encodeTranscript (.transcript t') = encodeTranscript (.transcript t) ∧
          (formatTranscript (.transcript t') >>= serialize) =
            (formatTranscript (.transcript t) >>= serialize) := by
  constructor
  · exact ⟨fun h d e hd he => h.inStep hd he, arrivesInAnyOrder_of_inStep⟩
  · intro path path' files files' values values' events hvalues hvalues' hperm h hnodup
    obtain ⟨events', h', hshuffled⟩ := exists_loadEvents_of_perm hvalues hvalues' hperm h
    refine ⟨events', h', fun room initial => ?_⟩
    have ht := freeze_record_of_reordering (.of_nodup hshuffled hnodup) (areInStep_of_loadEvents h)
      room initial
    exact ⟨ht.symm, by rw [ht], by rw [ht]⟩

/-- On the night when the clocks of Berlin are set back, events at half past two, at the middle of
the time to ten past two by a clock that shows UTC, and at ten past two, are frozen as they
arrive. -/
theorem freeze_of_shuffled_berlin :
    let first := [joinAt .halfPastTwo, joinAt .betweenInUtc, joinAt .tenPastTwo]
    let second := [joinAt .betweenInUtc, joinAt .tenPastTwo, joinAt .halfPastTwo]
    let adds := List.map fun e => RecorderCall.addEvent (.event e)
    let snapshot := fun es => (performAll (adds es) (new .null, .ofList [])).1.freeze
    (first.map fun e => e.timestamp.instant?).Nodup ∧ second.Perm first ∧
      (snapshot first).events = first.map .event ∧
      (snapshot second).events = second.map .event ∧ snapshot second ≠ snapshot first := by
  intro first second adds snapshot
  have hperm : (second.take 2 ++ second.drop 2).Perm first := List.perm_append_comm
  have hfirst : (snapshot first).events = first.map .event :=
    (events_freeze_addEvents (by decide) _ _).trans
      (congrArg _ (Sorting.sort_of_isChain (by decide)))
  have hsecond : (snapshot second).events = second.map .event :=
    (events_freeze_addEvents (by decide) _ _).trans
      (congrArg _ (Sorting.sort_of_isChain (by decide)))
  refine ⟨by decide, hperm, hfirst, hsecond, fun h => ?_⟩
  have hevents : second.map Value.event = first.map .event :=
    hsecond.symm.trans ((congrArg Transcript.events h).trans hfirst)
  obtain ⟨hhead, -⟩ := List.cons.inj hevents
  have htime : DateTime.betweenInUtc = .halfPastTwo :=
    congrArg Event.timestamp (Value.event.inj hhead)
  exact absurd htime (by decide)

def host : Participant := ⟨.str "A", .str "p1", .null, .null⟩

/-- The host comes, asks for the floor at that instant by a clock an hour ahead, and leaves. -/
def coming : Event := ⟨morning, host, .join⟩

def asking : Event :=
  ⟨⟨⟨63844884000000000, by decide⟩, some ⟨3600000000, by decide, by decide⟩, none⟩, host,
    .raiseHand⟩

def leaving : Event := ⟨⟨⟨63844884000000000, by decide⟩, some .utc, none⟩, host, .leave⟩

def comingFields : Fields :=
  [(key "event", .str "JOIN"), (key "timestamp", .str "2024-03-01T09:00:00Z"),
    (key "participant", .object [(key "id", .str "p1"), (key "name", .str "A")])]

def leavingFields : Fields :=
  [(key "event", .str "LEAVE"), (key "timestamp", .str "2024-03-01T10:00:00Z"),
    (key "participant", .object [(key "id", .str "p1"), (key "name", .str "A")])]

def comingLine : Text := Text.ofString
  "\x7b\"event\":\"JOIN\",\"timestamp\":\"2024-03-01T09:00:00Z\",\"participant\":\x7b\"id\":\"p1\",\"name\":\"A\"\x7d\x7d\n"

def leavingLine : Text := Text.ofString
  "\x7b\"event\":\"LEAVE\",\"timestamp\":\"2024-03-01T10:00:00Z\",\"participant\":\x7b\"id\":\"p1\",\"name\":\"A\"\x7d\x7d\n"

def logOf (t : Text) : FileStore :=
  .sound [([.ofString "log"], .file (t.map fun p => p.toNat.toUInt8))] []

theorem contents_logOf {first second : Text} (hfirst : first.all (fun p => p.toNat < 0x80) = true)
    (hsecond : second.all (fun p => p.toNat < 0x80) = true)
    (hread : readValues (.ofString "log") (first ++ second).unifyNewlines = .ok values) :
    contents (.ofString "log") (logOf (first ++ second)) = .ok values := by
  have hascii : ∀ p ∈ first ++ second, p.toNat < 0x80 := by
    simpa [or_imp, forall_and] using And.intro hfirst hsecond
  have hplace : (logOf (first ++ second)).locate (.ofString "log") =
      .ok [.ofString "log"] :=
    (FileStore.locate_eq_walk (by cbv) (by decide)).trans rfl
  rw [contents_of_file hplace rfl (Utf8.decode_ascii hascii), hread]

theorem host_isReadFrom : host.IsReadFrom [(key "id", .str "p1"), (key "name", .str "A")] :=
  ⟨⟨_, rfl, nofun, rfl⟩, rfl, rfl, rfl⟩

theorem parse_comingFields : parseEvent (.object comingFields) = .ok coming :=
  Input.parseEvent_ok_iff.mpr ⟨comingFields, .bare rfl, ⟨_, rfl, rfl⟩, ⟨_, rfl, parse_morning⟩,
    ⟨_, rfl, _, rfl, host_isReadFrom⟩, nofun⟩

theorem parseInstant_leaving :
    parseInstant (.str "2024-03-01T10:00:00Z") = .ok leaving.timestamp :=
  parseInstant_of_canonical (DateTime.hasUtc_iff.mpr ⟨_, rfl, by decide⟩) rfl (by cbv)

theorem parse_leavingFields : parseEvent (.object leavingFields) = .ok leaving :=
  Input.parseEvent_ok_iff.mpr ⟨leavingFields, .bare rfl, ⟨_, rfl, rfl⟩,
    ⟨_, rfl, parseInstant_leaving⟩, ⟨_, rfl, _, rfl, host_isReadFrom⟩, nofun⟩

set_option maxRecDepth 4096 in
theorem readValues_lines_swapped :
    readValues (.ofString "log") (comingLine ++ leavingLine).unifyNewlines =
        .ok [.object comingFields, .object leavingFields] ∧
      readValues (.ofString "log") (leavingLine ++ comingLine).unifyNewlines =
        .ok [.object leavingFields, .object comingFields] :=
  ⟨by cbv, by cbv⟩

theorem filter_coming_leaving (n : Int) :
    [.null, .event leaving, .event coming, .event asking].filter (Value.isEventAt n) =
      [.event coming, .event asking, .null, .event leaving].filter (Value.isEventAt n) := by
  have hcoming : coming.timestamp.instant? = some 63844880400000000 := rfl
  have hasking : asking.timestamp.instant? = some 63844880400000000 := rfl
  have hleaving : leaving.timestamp.instant? = some 63844884000000000 := rfl
  by_cases h : 63844884000000000 = n
  · subst h
    simp [Value.isEventAt, Event.isAt, hcoming, hasking, hleaving]
  · simp [List.filter_cons, Value.isEventAt, Event.isAt, hcoming, hasking, hleaving, h]

/-- Someone leaves before coming, on record and in a log. -/
theorem freeze_of_shuffled_coming :
    let early := [.event coming, .event asking, .null, .event leaving]
    let late := [.null, .event leaving, .event coming, .event asking]
    let start := performAll [.started (.time leaving.timestamp) .null] (.new .null, .ofList [])
    let log := logOf (comingLine ++ leavingLine)
    let shuffled := logOf (leavingLine ++ comingLine)
    (∀ n, late.filter (Value.isEventAt n) = early.filter (Value.isEventAt n)) ∧
    (performAll (late.map .addEvent) start).1.freeze =
      (performAll (early.map .addEvent) start).1.freeze ∧
    loadEvents (.ofString "log") log = .ok [coming, leaving] ∧
    ∃ events', loadEvents (.ofString "log") shuffled = .ok events' ∧
      (record .null events' []).freeze = (record .null [coming, leaving] []).freeze := by
  intro early late start log shuffled
  obtain ⟨harrival, hloaded⟩ := freeze_of_shuffled (·.place = none)
  have hadded := harrival.mpr fun d e hd _ => inStep_of_place_eq_none hd
  have htimes : ∀ e, e ∈ start.1.events ∨ .event e ∈ early →
      e.timestamp.place = none ∨ e.timestamp.place = none := by
    rintro e (he | he)
    · cases he
    · simp only [early, List.mem_cons, Value.event.injEq, List.not_mem_nil, or_false, reduceCtorEq,
        false_or] at he
      rcases he with rfl | rfl | rfl <;> exact .inl rfl
  have hperm : late.Perm early := List.rotate_perm early 2
  obtain ⟨hlines, hswapped⟩ := readValues_lines_swapped
  have hcoming : comingLine.all (fun p => p.toNat < 0x80) = true := by cbv
  have hleaving : leavingLine.all (fun p => p.toNat < 0x80) = true := by cbv
  have hvalues := contents_logOf hcoming hleaving hlines
  have hload : loadEvents (.ofString "log") log = .ok [coming, leaving] := by
    rw [loadEvents_eq, hvalues, ok_bind, List.mapM_cons, parse_comingFields, ok_bind,
      List.mapM_cons, parse_leavingFields]
    rfl
  obtain ⟨events', hevents', hfreeze⟩ := hloaded _ _ _ _ _ _ _ hvalues
    (contents_logOf hleaving hcoming hswapped) (.swap _ _ _) hload (by decide)
  have hlate := hadded .null (.ofList []) [.started (.time leaving.timestamp) .null] early late htimes
    hperm filter_coming_leaving
  exact ⟨filter_coming_leaving, hlate, hload, events', hevents', (hfreeze .null []).1⟩

end Shuffled

end Replay

end Proceedings
