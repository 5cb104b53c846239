import Proceedings.Proofs.Recorder.Marks

/-! # Who was present at the start

A call offers the participants that it hands in before the first value that is none. Of all that
were ever offered, a recorder keeps one for each id: the first with that id. They stand in the order
in which their ids were first offered, whatever calls failed in between.
-/

namespace Proceedings

namespace Value

variable {v : Value} {t : Text}

theorem isNull_of_text? (h : v.text? = some t) : v.isNull = false := by
  cases v <;> first | rfl | cases h

theorem unhashable?_of_text? (h : v.text? = some t) : v.unhashable? = none := by
  cases v <;> first | rfl | cases h

theorem equals_of_text? (h : v.text? = some t) (w : Value) :
    v.equals w = (w.text? == some t) := by
  cases v with
  | text s | kind k =>
    obtain rfl := Option.some.inj h
    rw [equals]
  | _ => cases h

end Value

def Participant.idText (p : Participant) : Option Text := p.id.text?

def Participant.HasTextId (p : Participant) : Prop := p.id = .null ∨ ∃ t, p.idText = some t

namespace Participant.HasTextId

variable {p q : Participant}

theorem unhashable?_eq (h : p.HasTextId) : p.id.unhashable? = none := by
  rcases h with h | ⟨t, h⟩
  · rw [h]
    rfl
  · exact Value.unhashable?_of_text? h

theorem equals_iff (hp : p.HasTextId) (hq : q.HasTextId) :
    p.id.equals q.id = true ↔ p.idText = q.idText := by
  rcases hp with hp | ⟨t, ht⟩
  · have hnone : p.idText = none := by
      rw [idText, hp]
      rfl
    rw [hp, Value.equals, hnone]
    rcases hq with hq | ⟨u, hu⟩
    · simp [hq, idText, Value.isNull, Value.text?]
    · have hne : q.id.isNull = false := Value.isNull_of_text? hu
      simp [hne, hu]
  · rw [Value.equals_of_text? ht, ht, beq_iff_eq]
    exact eq_comm

end Participant.HasTextId

namespace Recorder

section Calls

theorem initial_perform (r : Recorder) (c : Clock) (call : RecorderCall) :
    (r.perform c call).state.1.initial = gather r.initial (r.presented c call) := by
  rw [state_perform]

theorem initial_performAll (calls : List RecorderCall) (r : Recorder) (c : Clock)
    (h : ∀ p ∈ offers calls (r, c), p.id.unhashable? = none) :
    (performAll calls (r, c)).1.initial = (offers calls (r, c)).foldl meet r.initial := by
  induction calls generalizing r c with
  | nil => rfl
  | cons call rest ih =>
    rw [offers] at h ⊢
    obtain ⟨hcall, hrest⟩ := List.forall_mem_append.mp h
    rw [List.foldl_append, ← gather_eq_foldl _ hcall, ← initial_perform]
    exact ih _ _ hrest

end Calls

section First

def firstPlace (offered : List Participant) (p : Participant) : Nat :=
  offered.findIdx fun q => q.idText == p.idText

/-- Participants kept out of those offered one after the other: one for each id that was offered,
namely the first with that id, in the order of these first offers. -/
structure KeepsFirst (offered kept : List Participant) : Prop where
  distinct : (kept.map Participant.idText).Nodup
  complete : ∀ p ∈ offered, p.idText ∈ kept.map Participant.idText
  first : ∀ p ∈ kept, offered.find? (fun q => q.idText == p.idText) = some p
  ordered : kept.Pairwise fun p q => firstPlace offered p < firstPlace offered q

variable {offered kept : List Participant} {p q : Participant}

theorem meet_eq (hkept : ∀ q ∈ kept, q.HasTextId) (hp : p.HasTextId) :
    meet kept p = if p.idText ∈ kept.map Participant.idText then kept else kept ++ [p] := by
  unfold meet
  refine if_congr ?_ rfl rfl
  rw [List.any_eq_true, List.mem_map]
  constructor
  · rintro ⟨q, hq, h⟩
    exact ⟨q, hq, ((hkept q hq).equals_iff hp).mp h⟩
  · rintro ⟨q, hq, h⟩
    exact ⟨q, hq, ((hkept q hq).equals_iff hp).mpr h⟩

theorem KeepsFirst.nil : KeepsFirst [] [] := ⟨.nil, nofun, nofun, .nil⟩

theorem KeepsFirst.mem (h : KeepsFirst offered kept) (hq : q ∈ kept) : q ∈ offered :=
  List.mem_of_find?_eq_some (h.first q hq)

theorem KeepsFirst.find?_append (h : KeepsFirst offered kept) (hq : q ∈ kept)
    (more : List Participant) :
    (offered ++ more).find? (fun p => p.idText == q.idText) = some q := by
  rw [List.find?_append, h.first q hq, Option.some_or]

theorem KeepsFirst.firstPlace_lt (h : KeepsFirst offered kept) (hq : q ∈ kept) :
    firstPlace offered q < offered.length :=
  List.findIdx_lt_length_of_exists ⟨q, h.mem hq, beq_self_eq_true _⟩

theorem KeepsFirst.firstPlace_append (h : KeepsFirst offered kept) (hq : q ∈ kept)
    (more : List Participant) : firstPlace (offered ++ more) q = firstPlace offered q := by
  rw [firstPlace, List.findIdx_append]
  exact if_pos (h.firstPlace_lt hq)

theorem KeepsFirst.ordered_append (h : KeepsFirst offered kept) (more : List Participant) :
    kept.Pairwise fun p q => firstPlace (offered ++ more) p < firstPlace (offered ++ more) q := by
  refine h.ordered.imp_of_mem ?_
  intro p q hp hq hlt
  rwa [h.firstPlace_append hp, h.firstPlace_append hq]

theorem KeepsFirst.known (h : KeepsFirst offered kept)
    (hp : p.idText ∈ kept.map Participant.idText) : KeepsFirst (offered ++ [p]) kept := by
  refine ⟨h.distinct, ?_, ?_, h.ordered_append [p]⟩
  · exact List.forall_mem_append.mpr ⟨h.complete, List.forall_mem_singleton.mpr hp⟩
  · intro q hq
    exact h.find?_append hq [p]

/-- A participant with an id that is not kept is the first with that id. -/
theorem KeepsFirst.new (h : KeepsFirst offered kept)
    (hp : p.idText ∉ kept.map Participant.idText) : KeepsFirst (offered ++ [p]) (kept ++ [p]) := by
  have hnone : ∀ q ∈ offered, ¬ (q.idText == p.idText) = true := by
    intro q hq heq
    exact hp (beq_iff_eq.mp heq ▸ h.complete q hq)
  constructor
  case distinct =>
    rw [List.map_append]
    exact List.nodup_append.mpr ⟨h.distinct, List.nodup_singleton _, by simpa using hp⟩
  case complete =>
    intro q hq
    rw [List.map_append, List.mem_append]
    rcases List.mem_append.mp hq with hq | hq
    · exact .inl (h.complete q hq)
    · exact .inr (List.mem_singleton.mp hq ▸ List.mem_cons_self)
  case first =>
    intro q hq
    rcases List.mem_append.mp hq with hq | hq
    · exact h.find?_append hq [p]
    · obtain rfl := List.mem_singleton.mp hq
      rw [List.find?_append, List.find?_eq_none.mpr hnone]
      simp
  case ordered =>
    have hplace : firstPlace (offered ++ [p]) p = offered.length := by
      rw [firstPlace, List.findIdx_append, List.findIdx_eq_length.mpr (by simpa using hnone)]
      simp
    refine List.pairwise_append.mpr ⟨h.ordered_append [p], List.pairwise_singleton _ _, ?_⟩
    intro q hq q' hq'
    obtain rfl := List.mem_singleton.mp hq'
    rw [hplace, h.firstPlace_append hq]
    exact h.firstPlace_lt hq

theorem keepsFirst_foldl_meet (offered : List Participant) (h : ∀ p ∈ offered, p.HasTextId) :
    KeepsFirst offered (offered.foldl meet []) := by
  -- The last one is taken off: the places of those before it stay as they are.
  induction offered using List.reverseRecOn with
  | nil => exact .nil
  | append_singleton offered p ih =>
    obtain ⟨hoffered, hp⟩ := List.forall_mem_append.mp h
    have hkeeps := ih hoffered
    rw [List.foldl_append, List.foldl_cons, List.foldl_nil,
      meet_eq (fun q hq => hoffered q (hkeeps.mem hq)) (hp p List.mem_cons_self)]
    split
    · next hknown => exact hkeeps.known hknown
    · next hnew => exact hkeeps.new hnew

/-- However a recorder is used, of all participants that were offered it keeps the first with each
id, in the order of these offers. -/
theorem initial_keepsFirst (room : Value) (c : Clock) (calls : List RecorderCall)
    (h : ∀ p ∈ offers calls (new room, c), p.HasTextId) :
    KeepsFirst (offers calls (new room, c)) (performAll calls (new room, c)).1.initial := by
  rw [initial_performAll calls (new room) c fun p hp => (h p hp).unhashable?_eq]
  exact keepsFirst_foldl_meet _ h

def attendee (id : Value) (name : String) : Participant := ⟨.str name, id, .null, .null⟩

/-- A start at a time without an offset, one with two participants of one id and one of no id, a
list that is not handed in to its end, and one that overlaps with it. -/
def admissions : List RecorderCall :=
  let ann := attendee (.str "a") "Ann"
  let bob := attendee (.str "b") "Bob"
  [.started (.time ⟨⟨0, by decide⟩, none, none⟩) (.list [.participant bob]),
    .started (.time ⟨⟨0, by decide⟩, some .utc, none⟩)
      (.tuple [.participant ann, .participant (attendee .null "Caller"),
        .participant (attendee (.str "a") "Anna")]),
    .addInitial (.list [.participant bob, .str "Cid", .participant (attendee (.str "c") "Cid")]),
    .addInitial (.list [.participant (attendee (.str "b") "Rob"),
      .participant (attendee (.str "c") "Cy")])]

theorem initial_keepsFirst_admissions :
    let x : Recorder × Clock := (new .null, .ofList [])
    (offers admissions x).map Participant.name =
        [.str "Ann", .str "Caller", .str "Anna", .str "Bob", .str "Rob", .str "Cy"] ∧
      KeepsFirst (offers admissions x) (performAll admissions x).1.initial ∧
      (performAll admissions x).1.initial.map Participant.name =
        [.str "Ann", .str "Caller", .str "Bob", .str "Cy"] := by
  intro x
  have hoffers : offers admissions x = [attendee (.str "a") "Ann", attendee .null "Caller",
      attendee (.str "a") "Anna", attendee (.str "b") "Bob", attendee (.str "b") "Rob",
      attendee (.str "c") "Cy"] := rfl
  refine ⟨rfl, initial_keepsFirst .null (.ofList []) admissions ?_, ?_⟩
  · show ∀ p ∈ offers admissions x, p.HasTextId
    rw [hoffers]
    simp [Participant.HasTextId, Participant.idText, attendee, Value.str, Value.text?]
  · cbv

end First

end Recorder

end Proceedings
