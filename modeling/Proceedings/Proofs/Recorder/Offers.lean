import Proceedings.Proofs.Recorder.Growth

/-! # Participants that are offered

A call offers the participants that it hands in before the first value that is none. What becomes of
the initial participants is a fold over the values: each participant is kept unless its id is known,
up to the first value that is refused.
-/

namespace Proceedings

namespace Value

def isAwareTime : Value → Bool
  | .time d => d.isAware
  | _ => false

theorem isAwareTime_eq (v : Value) : v.isAwareTime = v.recordedTime.isOk := by
  cases v with
  | time d =>
    rw [isAwareTime, recordedTime_time]
    cases d.isAware <;> rfl
  | _ => rfl

end Value

namespace Recorder

section Offers

/-- Whether a start is refused for its time: none is set yet, and the one that is given or read from
the clock has no offset or is no time at all. -/
def refusesStart (r : Recorder) (c : Clock) (given : Value) : Bool :=
  r.startTime.isNone && !(c.stamp given).1.isAwareTime

def items (v : Value) : List Value :=
  match v.iterate with
  | .ok items => items
  | .error _ => []

/-- The values that a call hands in for initial participants. -/
def presented (r : Recorder) (c : Clock) : RecorderCall → List Value
  | .started given initial => if r.refusesStart c given then [] else items initial
  | .addInitial participants => items participants
  | _ => []

/-- The participants before the first value that is none. -/
def leading : List Value → List Participant
  | .participant p :: rest => p :: leading rest
  | _ => []

def offers : List RecorderCall → Recorder × Clock → List Participant
  | [], _ => []
  | call :: rest, (r, c) => leading (r.presented c call) ++ offers rest (r.perform c call).state

end Offers

section Gathering

def meet (known : List Participant) (p : Participant) : List Participant :=
  if known.any fun q => q.id.equals p.id then known else known ++ [p]

/-- The participants that are known once more values are handed in, up to the first that is refused:
one that is no participant, or whose id cannot be looked up. -/
def gather : List Participant → List Value → List Participant
  | known, .participant p :: rest =>
    if p.id.unhashable? = none then gather (meet known p) rest else known
  | known, _ => known

variable {r : Recorder} {c : Clock} {known ps : List Participant} {p : Participant}

theorem prefix_meet (known : List Participant) (p : Participant) : known <+: meet known p := by
  unfold meet
  split
  · exact List.prefix_rfl
  · exact List.prefix_append known [p]

theorem prefix_gather (vs : List Value) (known : List Participant) : known <+: gather known vs := by
  fun_induction gather known vs with
  | case1 known p rest _ ih => exact (prefix_meet known p).trans ih
  | case2 => exact List.prefix_rfl
  | case3 => exact List.prefix_rfl

theorem mem_foldl_meet (h : p ∈ ps.foldl meet known) : p ∈ known ∨ p ∈ ps := by
  induction ps generalizing known with
  | nil => exact .inl h
  | cons q ps ih =>
    rcases ih h with hp | hp
    · unfold meet at hp
      split at hp
      · exact .inl hp
      · rcases List.mem_append.mp hp with hp | hp
        · exact .inl hp
        · exact .inr (List.mem_singleton.mp hp ▸ List.mem_cons_self)
    · exact .inr (List.mem_cons_of_mem q hp)

theorem offer_eq (hp : p.id.unhashable? = none) (r : Recorder) :
    r.offer (.participant p) = .ok { r with initial := meet r.initial p } := by
  by_cases h : (r.initial.any fun q => q.id.equals p.id) = true
  · simp [offer, hp, knows, meet, h]
  · simp [offer, hp, knows, meet, h]

theorem offerAll_eq (ps : List Participant) (r : Recorder)
    (h : ∀ p ∈ ps, p.id.unhashable? = none) :
    offerAll (ps.map .participant) r = .done { r with initial := ps.foldl meet r.initial } () := by
  induction ps generalizing r with
  | nil => rfl
  | cons p ps ih =>
    obtain ⟨hp, hps⟩ := List.forall_mem_cons.mp h
    simp only [List.map_cons, offerAll, offer_eq hp, List.foldl_cons]
    exact ih _ hps

theorem addInitial_eq (h : ∀ p ∈ ps, p.id.unhashable? = none) :
    r.addInitial (.list (ps.map .participant)) =
      .done { r with initial := ps.foldl meet r.initial } () :=
  offerAll_eq ps r h

/-- What is gathered of values are the participants before the first that is none. -/
theorem gather_eq_foldl {vs : List Value} (known : List Participant)
    (h : ∀ p ∈ leading vs, p.id.unhashable? = none) :
    gather known vs = (leading vs).foldl meet known := by
  induction vs generalizing known with
  | nil => rfl
  | cons v rest ih =>
    cases v with
    | participant p =>
      obtain ⟨hp, hrest⟩ := List.forall_mem_cons.mp h
      rw [gather, if_pos hp, leading, List.foldl_cons, ih _ hrest]
    | _ => rfl

theorem state_offerAll (vs : List Value) (r : Recorder) :
    (offerAll vs r).state = { r with initial := gather r.initial vs } := by
  induction vs generalizing r with
  | nil => rfl
  | cons v rest ih =>
    cases v with
    | participant p =>
      cases hp : p.id.unhashable? with
      | none =>
        simp only [offerAll, offer_eq hp, ih, gather, if_pos hp]
      | some type => simp [offerAll, offer, hp, gather, Outcome.failed]
    | _ => rfl

theorem state_addInitial (r : Recorder) (v : Value) :
    (r.addInitial v).state = { r with initial := gather r.initial (items v) } := by
  cases h : v.iterate with
  | ok vs => simp only [addInitial, items, h, state_offerAll]
  | error f => simp only [addInitial, items, h, Outcome.failed, gather]

end Gathering

end Recorder

end Proceedings
