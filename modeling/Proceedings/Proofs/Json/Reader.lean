import Proceedings.Proofs.Answer
import Proceedings.Proofs.Json.Quotes
import Proceedings.Proofs.Json.Scalar

/-! # What the JSON reader reads

A text is read as a value exactly if it is a JSON text of that value by the grammar. The names of
special numbers count, and integers of too many digits do not.
-/

namespace Proceedings.Json

section Spaces

variable {sp t rest : Text} {p : CodePoint}

theorem skipSpace_append (h : Spaces sp) (t : Text) : skipSpace (sp ++ t) = skipSpace t :=
  List.dropWhile_append_of_pos h

theorem skipSpace_cons (h : isSpace p = false) (t : Text) : skipSpace (p :: t) = p :: t := by
  rw [skipSpace, List.dropWhile_cons_of_neg (by simp [h])]

theorem exists_spaces (t : Text) : ∃ sp, Spaces sp ∧ t = sp ++ skipSpace t :=
  ⟨t.takeWhile isSpace, fun _ hp => List.mem_takeWhile_imp hp,
    List.takeWhile_append_dropWhile.symm⟩

theorem isSpace_iff : isSpace p = true ↔
    p = .scalar ' ' ∨ p = .scalar '\t' ∨ p = .scalar '\n' ∨ p = .scalar '\r' := by
  simp [isSpace, or_assoc]

theorem stops_nil : Stops [] := ⟨nofun, nofun⟩

theorem stops_cons (h : p.isAsciiDigit = false)
    (h' : p ≠ .scalar '.' ∧ p ≠ .scalar 'e' ∧ p ≠ .scalar 'E') : Stops (p :: t) := by
  refine ⟨noDigit_cons h, ?_⟩
  intro q hq
  obtain rfl := Option.some.inj hq
  exact h'

theorem stops_spaces (h : Spaces sp) (hrest : Stops rest) : Stops (sp ++ rest) := by
  cases sp with
  | nil => exact hrest
  | cons p sp =>
    have hp := isSpace_iff.mp (h p List.mem_cons_self)
    rcases hp with rfl | rfl | rfl | rfl <;> exact stops_cons rfl (by simp)

end Spaces

section Starts

variable {p : CodePoint} {w : Text} {part : Part}

theorem isSpace_of_canStart (h : canStart p = true) : isSpace p = false := by
  rw [Bool.eq_false_iff, ne_eq, isSpace_iff]
  rintro (rfl | rfl | rfl | rfl) <;> cases h

theorem Spells.canStart (h : Spells words part w) :
    ∃ p u, w = p :: u ∧ canStart p = true := by
  induction h with
  | name h =>
    obtain ⟨p, q, u, hname, hp, -⟩ := words_start h
    exact ⟨p, _, hname, hp.1⟩
  | number h =>
    obtain ⟨p, u, rfl, hp, -⟩ := h.canStart
    exact ⟨p, u, rfl, hp⟩
  | text => exact ⟨_, _, rfl, rfl⟩
  | noItems => exact ⟨_, _, rfl, rfl⟩
  | array => exact ⟨_, _, rfl, rfl⟩
  | noFields => exact ⟨_, _, rfl, rfl⟩
  | object => exact ⟨_, _, rfl, rfl⟩
  | entry => exact ⟨_, _, rfl, rfl⟩
  | lastItem _ _ ih =>
    obtain ⟨p, u, rfl, hp⟩ := ih
    exact ⟨p, _, rfl, hp⟩
  | item _ _ _ _ ih =>
    obtain ⟨p, u, rfl, hp⟩ := ih
    exact ⟨p, _, rfl, hp⟩
  | lastField _ _ ih =>
    obtain ⟨p, u, rfl, hp⟩ := ih
    exact ⟨p, _, rfl, hp⟩
  | field _ _ _ _ ih =>
    obtain ⟨p, u, rfl, hp⟩ := ih
    exact ⟨p, _, rfl, hp⟩

end Starts

section Equations

variable {fuel : Nat}

theorem value_quote (t : Text) : value (fuel + 1) (.scalar '"' :: t) =
    (stringFrom (.scalar '"' :: t) 0 t >>= fun (s, rest) => pure (.text s, rest)) :=
  rfl

theorem value_bracket (t : Text) : value (fuel + 1) (.scalar '[' :: t) =
    match skipSpace t with
    | .scalar ']' :: rest => .ok (.list [], rest)
    | u => elements fuel u >>= fun (items, rest) => pure (.list items, rest) :=
  rfl

theorem value_brace (t : Text) : value (fuel + 1) (.scalar '\x7b' :: t) =
    match skipSpace t with
    | .scalar '\x7d' :: rest => .ok (.object [], rest)
    | u => members fuel [] u >>= fun (fields, rest) => pure (.object fields, rest) :=
  rfl

theorem value_scalar {p : CodePoint} (h : p ∉ openers) (t : Text) :
    value (fuel + 1) (p :: t) = scalar (p :: t) := by
  simp only [openers, List.mem_cons, List.not_mem_nil, or_false, not_or] at h
  rw [value]
  · intro u hu
    exact h.1 (List.cons.inj hu).1
  · intro u hu
    exact h.2.1 (List.cons.inj hu).1
  · intro u hu
    exact h.2.2 (List.cons.inj hu).1

theorem elements_succ (t : Text) : elements (fuel + 1) t =
    (value fuel t >>= fun (v, rest) =>
      match skipSpace rest with
      | .scalar ']' :: rest => pure ([v], rest)
      | .scalar ',' :: rest =>
        elements fuel (skipSpace rest) >>= fun (items, rest) => pure (v :: items, rest)
      | rest => .error (.fault .comma rest)) :=
  rfl

theorem members_quote (fields : Fields) (t : Text) :
    members (fuel + 1) fields (.scalar '"' :: t) =
      (stringFrom (.scalar '"' :: t) 0 t >>= fun (key, rest) =>
        match skipSpace rest with
        | .scalar ':' :: rest => value fuel (skipSpace rest) >>= fun (v, rest) =>
          match skipSpace rest with
          | .scalar '\x7d' :: rest => pure (fields.put key v, rest)
          | .scalar ',' :: rest => members fuel (fields.put key v) (skipSpace rest)
          | rest => .error (.fault .comma rest)
        | rest => .error (.fault .colon rest)) :=
  rfl

end Equations

/-- What the reader does with a part: the text, and what it leaves of it. -/
def Reads (fuel : Nat) : Part → Text → Text → Prop
  | .value v, t, rest => value fuel t = .ok (v, rest)
  | .items vs, t, rest => elements fuel t = .ok (vs, rest)
  | .entry k v, t, rest => ∃ u r₁ r₂, t = .scalar '"' :: u ∧ stringFrom t 0 u = .ok (k, r₁) ∧
      skipSpace r₁ = .scalar ':' :: r₂ ∧ value fuel (skipSpace r₂) = .ok (v, rest)
  | .fields before all, t, rest => members fuel before t = .ok (all, rest)

/-- What may stand behind a part: behind a number nothing that could go on with it. -/
def Follows : Part → Text → Prop
  | .value _, rest => Stops rest
  | .entry _ _, rest => Stops rest
  | _, _ => True

section Complete

variable {fuel : Nat} {t rest w sp sp' : Text} {v : Value} {vs : List Value} {k : Text}
  {before all : Fields}

theorem value_array (hsp : Spaces sp) {p : CodePoint} (hp : canStart p = true)
    (h : elements fuel (p :: t) = .ok (vs, rest)) :
    value (fuel + 1) (.scalar '[' :: (sp ++ p :: t)) = .ok (.list vs, rest) := by
  have hskip : skipSpace (sp ++ p :: t) = p :: t := by
    rw [skipSpace_append hsp, skipSpace_cons (isSpace_of_canStart hp)]
  have hclose : p ≠ .scalar ']' := by
    rintro rfl
    cases hp
  rw [value_bracket]
  split
  · next hbracket =>
    rw [hskip] at hbracket
    exact absurd (List.cons.inj hbracket).1 hclose
  · rw [hskip, h]
    rfl

theorem value_object (hsp : Spaces sp) {p : CodePoint} (hp : canStart p = true)
    (h : members fuel [] (p :: t) = .ok (all, rest)) :
    value (fuel + 1) (.scalar '\x7b' :: (sp ++ p :: t)) = .ok (.object all, rest) := by
  have hskip : skipSpace (sp ++ p :: t) = p :: t := by
    rw [skipSpace_append hsp, skipSpace_cons (isSpace_of_canStart hp)]
  have hclose : p ≠ .scalar '\x7d' := by
    rintro rfl
    cases hp
  rw [value_brace]
  split
  · next hbrace =>
    rw [hskip] at hbrace
    exact absurd (List.cons.inj hbrace).1 hclose
  · rw [hskip, h]
    rfl

theorem elements_last (h : value fuel t = .ok (v, sp ++ .scalar ']' :: rest)) (hsp : Spaces sp) :
    elements (fuel + 1) t = .ok ([v], rest) := by
  have hskip : skipSpace (sp ++ .scalar ']' :: rest) = .scalar ']' :: rest := by
    rw [skipSpace_append hsp, skipSpace_cons rfl]
  simp only [elements_succ, h, ok_bind, hskip, pure_eq_ok]

theorem elements_cons (h : value fuel t = .ok (v, sp ++ .scalar ',' :: w)) (hsp : Spaces sp)
    (hrest : elements fuel (skipSpace w) = .ok (vs, rest)) :
    elements (fuel + 1) t = .ok (v :: vs, rest) := by
  have hskip : skipSpace (sp ++ .scalar ',' :: w) = .scalar ',' :: w := by
    rw [skipSpace_append hsp, skipSpace_cons rfl]
  simp only [elements_succ, h, ok_bind, hskip, hrest, pure_eq_ok]

theorem members_last (h : Reads fuel (.entry k v) t (sp ++ .scalar '\x7d' :: rest))
    (hsp : Spaces sp) : members (fuel + 1) before t = .ok (before.put k v, rest) := by
  obtain ⟨u, r₁, r₂, rfl, hkey, hcolon, hvalue⟩ := h
  have hskip : skipSpace (sp ++ .scalar '\x7d' :: rest) = .scalar '\x7d' :: rest := by
    rw [skipSpace_append hsp, skipSpace_cons rfl]
  simp only [members_quote, hkey, ok_bind, hcolon, hvalue, hskip, pure_eq_ok]

theorem members_cons (h : Reads fuel (.entry k v) t (sp ++ .scalar ',' :: w)) (hsp : Spaces sp)
    (hrest : members fuel (before.put k v) (skipSpace w) = .ok (all, rest)) :
    members (fuel + 1) before t = .ok (all, rest) := by
  obtain ⟨u, r₁, r₂, rfl, hkey, hcolon, hvalue⟩ := h
  have hskip : skipSpace (sp ++ .scalar ',' :: w) = .scalar ',' :: w := by
    rw [skipSpace_append hsp, skipSpace_cons rfl]
  simp only [members_quote, hkey, ok_bind, hcolon, hvalue, hskip, hrest]

theorem skipSpace_spelled {part : Part} (h : Spells words part w) (hsp : Spaces sp) (rest : Text) :
    skipSpace (sp ++ (w ++ rest)) = w ++ rest := by
  obtain ⟨p, u, rfl, hp⟩ := h.canStart
  rw [skipSpace_append hsp, List.cons_append, skipSpace_cons (isSpace_of_canStart hp)]

theorem value_noItems (hsp : Spaces sp) :
    value (fuel + 1) (.scalar '[' :: (sp ++ .scalar ']' :: rest)) = .ok (.list [], rest) := by
  have hskip : skipSpace (sp ++ .scalar ']' :: rest) = .scalar ']' :: rest := by
    rw [skipSpace_append hsp, skipSpace_cons rfl]
  simp only [value_bracket, hskip]

theorem value_noFields (hsp : Spaces sp) :
    value (fuel + 1) (.scalar '\x7b' :: (sp ++ .scalar '\x7d' :: rest)) =
      .ok (.object [], rest) := by
  have hskip : skipSpace (sp ++ .scalar '\x7d' :: rest) = .scalar '\x7d' :: rest := by
    rw [skipSpace_append hsp, skipSpace_cons rfl]
  simp only [value_brace, hskip]

theorem value_text (h : SpellsText k w) (rest : Text) :
    value (fuel + 1) (.scalar '"' :: (w ++ .scalar '"' :: rest)) = .ok (.text k, rest) := by
  rw [value_quote, stringFrom_of_spells h]
  rfl

theorem value_name {name : String} (h : (name, v) ∈ words) (rest : Text) :
    value (fuel + 1) (Text.ofString name ++ rest) = .ok (v, rest) := by
  obtain ⟨p, q, u, hname, hp, -⟩ := words_start h
  rw [← scalar_name h, hname, List.cons_append, value_scalar hp.2]

theorem value_number (h : SpellsNumber v w) (hrest : Stops rest) :
    value (fuel + 1) (w ++ rest) = .ok (v, rest) := by
  obtain ⟨p, u, rfl, hp⟩ := h.canStart
  rw [← scalar_number h hrest, List.cons_append, value_scalar hp.2]

theorem exists_fuel {part : Part} (h : Spells words part w) (hfuel : 2 * w.length ≤ fuel) :
    ∃ n, fuel = n + 1 := by
  obtain ⟨p, u, rfl, -⟩ := h.canStart
  exact Nat.exists_eq_succ_of_ne_zero (by simp at hfuel; omega)

theorem stops_before {p : CodePoint} (hsp : Spaces sp)
    (hp : p ∈ [.scalar ']', .scalar '\x7d', .scalar ',']) : Stops (sp ++ p :: rest) := by
  refine stops_spaces hsp ?_
  simp only [List.mem_cons, List.not_mem_nil, or_false] at hp
  rcases hp with rfl | rfl | rfl <;> exact stops_cons rfl (by simp)

theorem reads_entry {u : Text} (hk : SpellsText k u) (hsp : Spaces sp) (hsp' : Spaces sp')
    (hw : Spells words (.value v) w) (h : value fuel (w ++ rest) = .ok (v, rest)) :
    Reads fuel (.entry k v)
      (.scalar '"' :: (u ++ .scalar '"' :: (sp ++ .scalar ':' :: (sp' ++ (w ++ rest))))) rest := by
  refine ⟨_, sp ++ .scalar ':' :: (sp' ++ (w ++ rest)), sp' ++ (w ++ rest), rfl,
    stringFrom_of_spells hk _ _, ?_, ?_⟩
  · rw [skipSpace_append hsp, skipSpace_cons rfl]
  · rw [skipSpace_spelled hw hsp', h]

theorem reads_of_spells {part : Part} (h : Spells words part w) {fuel : Nat} {rest : Text}
    (hfuel : 2 * w.length ≤ fuel) (hfollows : Follows part rest) :
    Reads fuel part (w ++ rest) rest := by
  induction h generalizing fuel rest with
  | name h =>
    obtain ⟨fuel, rfl⟩ := exists_fuel (.name h) hfuel
    exact value_name h rest
  | number h =>
    obtain ⟨fuel, rfl⟩ := exists_fuel (.number h) hfuel
    exact value_number h hfollows
  | text h =>
    obtain ⟨fuel, rfl⟩ := exists_fuel (.text h) hfuel
    simp only [inQuotes, List.cons_append, List.append_assoc]
    exact value_text h rest
  | noItems hsp =>
    obtain ⟨fuel, rfl⟩ := exists_fuel (.noItems hsp) hfuel
    simp only [List.cons_append, List.append_assoc]
    exact value_noItems hsp
  | array hsp h ih =>
    obtain ⟨fuel, rfl⟩ := exists_fuel (.array hsp h) hfuel
    obtain ⟨p, u, rfl, hp⟩ := h.canStart
    simp only [List.cons_append, List.append_assoc, List.length_cons, List.length_append] at *
    exact value_array hsp hp (ih (by omega) trivial)
  | noFields hsp =>
    obtain ⟨fuel, rfl⟩ := exists_fuel (.noFields hsp) hfuel
    simp only [List.cons_append, List.append_assoc]
    exact value_noFields hsp
  | object hsp h ih =>
    obtain ⟨fuel, rfl⟩ := exists_fuel (.object hsp h) hfuel
    obtain ⟨p, u, rfl, hp⟩ := h.canStart
    simp only [List.cons_append, List.append_assoc, List.length_cons, List.length_append] at *
    exact value_object hsp hp (ih (by omega) trivial)
  | lastItem h hsp ih =>
    obtain ⟨fuel, rfl⟩ := exists_fuel (.lastItem h hsp) hfuel
    simp only [List.cons_append, List.append_assoc, List.length_cons, List.length_append] at *
    exact elements_last (ih (by omega) (stops_before hsp (by simp))) hsp
  | item h hsp hsp' hrest ih ihrest =>
    obtain ⟨fuel, rfl⟩ := exists_fuel (.item h hsp hsp' hrest) hfuel
    simp only [List.cons_append, List.append_assoc, List.length_cons, List.length_append] at *
    refine elements_cons (ih (by omega) (stops_before hsp (by simp))) hsp ?_
    rw [skipSpace_spelled hrest hsp']
    exact ihrest (by omega) trivial
  | entry hk hsp hsp' h ih =>
    simp only [inQuotes, List.cons_append, List.append_assoc, List.length_cons,
      List.length_append] at *
    exact reads_entry hk hsp hsp' h (ih (by omega) hfollows)
  | @lastField k v w sp before h hsp ih =>
    have hspells : Spells words (.fields before (before.put k v)) _ := .lastField h hsp
    obtain ⟨fuel, rfl⟩ := exists_fuel hspells hfuel
    simp only [List.cons_append, List.append_assoc, List.length_cons, List.length_append] at *
    exact members_last (ih (by omega) (stops_before hsp (by simp))) hsp
  | field h hsp hsp' hrest ih ihrest =>
    obtain ⟨fuel, rfl⟩ := exists_fuel (.field h hsp hsp' hrest) hfuel
    simp only [List.cons_append, List.append_assoc, List.length_cons, List.length_append] at *
    refine members_cons (ih (by omega) (stops_before hsp (by simp))) hsp ?_
    rw [skipSpace_spelled hrest hsp']
    exact ihrest (by omega) trivial

end Complete

section Sound

def IsSound (fuel : Nat) : Prop :=
  ∀ part t rest, Reads fuel part t rest → ∃ w, Spells words part w ∧ t = w ++ rest

variable {fuel : Nat} {t rest : Text} {v : Value} {vs : List Value} {k : Text} {before all : Fields}

theorem spells_array (ih : IsSound fuel) (h : value (fuel + 1) (.scalar '[' :: t) = .ok (v, rest)) :
    ∃ w, Spells words (.value v) w ∧ .scalar '[' :: t = w ++ rest := by
  obtain ⟨sp, hsp, ht⟩ := exists_spaces t
  rw [value_bracket] at h
  split at h
  · next hskip =>
    obtain ⟨rfl, rfl⟩ := Prod.mk.inj (Except.ok.inj h)
    exact ⟨_, .noItems hsp, by rw [ht, hskip]; simp⟩
  · obtain ⟨⟨items, after⟩, hitems, h⟩ := bind_eq_ok.mp h
    obtain ⟨rfl, rfl⟩ := Prod.mk.inj (Except.ok.inj h)
    obtain ⟨w, hw, hskip⟩ := ih (.items items) _ _ hitems
    exact ⟨_, .array hsp hw, by rw [ht, hskip]; simp⟩

theorem spells_object (ih : IsSound fuel)
    (h : value (fuel + 1) (.scalar '\x7b' :: t) = .ok (v, rest)) :
    ∃ w, Spells words (.value v) w ∧ .scalar '\x7b' :: t = w ++ rest := by
  obtain ⟨sp, hsp, ht⟩ := exists_spaces t
  rw [value_brace] at h
  split at h
  · next hskip =>
    obtain ⟨rfl, rfl⟩ := Prod.mk.inj (Except.ok.inj h)
    exact ⟨_, .noFields hsp, by rw [ht, hskip]; simp⟩
  · obtain ⟨⟨fields, after⟩, hfields, h⟩ := bind_eq_ok.mp h
    obtain ⟨rfl, rfl⟩ := Prod.mk.inj (Except.ok.inj h)
    obtain ⟨w, hw, hskip⟩ := ih (.fields [] fields) _ _ hfields
    exact ⟨_, .object hsp hw, by rw [ht, hskip]; simp⟩

theorem spells_value (ih : IsSound fuel) (h : value (fuel + 1) t = .ok (v, rest)) :
    ∃ w, Spells words (.value v) w ∧ t = w ++ rest := by
  cases t with
  | nil => cases h
  | cons p t =>
    by_cases hquote : p = .scalar '"'
    · subst hquote
      rw [value_quote] at h
      obtain ⟨⟨s, after⟩, hs, h⟩ := bind_eq_ok.mp h
      obtain ⟨rfl, rfl⟩ := Prod.mk.inj (Except.ok.inj h)
      obtain ⟨w, hw, rfl⟩ := spells_of_stringFrom hs
      exact ⟨_, .text hw, by simp [inQuotes]⟩
    by_cases hbracket : p = .scalar '['
    · subst hbracket
      exact spells_array ih h
    by_cases hbrace : p = .scalar '\x7b'
    · subst hbrace
      exact spells_object ih h
    · rw [value_scalar (by simp [openers, hquote, hbracket, hbrace])] at h
      obtain ⟨w, hw, ⟨name, hname, rfl⟩ | hnumber⟩ := scalar_eq h
      · exact ⟨_, .name hname, hw⟩
      · exact ⟨_, .number hnumber, hw⟩

theorem spells_items (ih : IsSound fuel) (h : elements (fuel + 1) t = .ok (vs, rest)) :
    ∃ w, Spells words (.items vs) w ∧ t = w ++ rest := by
  rw [elements_succ] at h
  obtain ⟨⟨v, after⟩, hv, hrun⟩ := bind_eq_ok.mp h
  obtain ⟨w, hw, rfl⟩ := ih (.value v) _ _ hv
  obtain ⟨sp, hsp, hafter⟩ := exists_spaces after
  dsimp only at hrun
  split at hrun
  · next hskip =>
    obtain ⟨rfl, rfl⟩ := Prod.mk.inj (Except.ok.inj hrun)
    exact ⟨_, .lastItem hw hsp, by rw [hafter, hskip]; simp⟩
  · next behind hskip =>
    obtain ⟨⟨items, final⟩, hitems, hrun⟩ := bind_eq_ok.mp hrun
    obtain ⟨rfl, rfl⟩ := Prod.mk.inj (Except.ok.inj hrun)
    obtain ⟨u, hu, hrest⟩ := ih (.items items) _ _ hitems
    obtain ⟨sp', hsp', hbehind⟩ := exists_spaces behind
    exact ⟨_, .item hw hsp hsp' hu, by rw [hafter, hskip, hbehind, hrest]; simp⟩
  · cases hrun

theorem spells_entry {u r₁ r₂ : Text} (hk : stringFrom t 0 u = .ok (k, r₁))
    (hcolon : skipSpace r₁ = .scalar ':' :: r₂) {w : Text} (hw : Spells words (.value v) w)
    (hrest : skipSpace r₂ = w ++ rest) :
    ∃ w, Spells words (.entry k v) w ∧ .scalar '"' :: u = w ++ rest := by
  obtain ⟨key, hkey, rfl⟩ := spells_of_stringFrom hk
  obtain ⟨sp, hsp, hr₁⟩ := exists_spaces r₁
  obtain ⟨sp', hsp', hr₂⟩ := exists_spaces r₂
  exact ⟨_, .entry hkey hsp hsp' hw, by rw [hr₁, hcolon, hr₂, hrest]; simp [inQuotes]⟩

theorem spells_fields (ih : IsSound fuel) (h : members (fuel + 1) before t = .ok (all, rest)) :
    ∃ w, Spells words (.fields before all) w ∧ t = w ++ rest := by
  rw [members.eq_def] at h
  dsimp only at h
  split at h
  · obtain ⟨⟨key, r₁⟩, hkey, hrun⟩ := bind_eq_ok.mp h
    dsimp only at hrun
    split at hrun
    · next r₂ hcolon =>
      obtain ⟨⟨v, after⟩, hv, hrun⟩ := bind_eq_ok.mp hrun
      obtain ⟨w, hw, ht⟩ := ih (.entry key v) _ _ ⟨_, _, _, rfl, hkey, hcolon, hv⟩
      obtain ⟨sp, hsp, hafter⟩ := exists_spaces after
      dsimp only at hrun
      split at hrun
      · next hskip =>
        obtain ⟨rfl, rfl⟩ := Prod.mk.inj (Except.ok.inj hrun)
        exact ⟨_, .lastField hw hsp, by rw [ht, hafter, hskip]; simp⟩
      · next behind hskip =>
        obtain ⟨u, hu, hrest⟩ := ih (.fields _ all) _ _ hrun
        obtain ⟨sp', hsp', hbehind⟩ := exists_spaces behind
        exact ⟨_, .field hw hsp hsp' hu, by rw [ht, hafter, hskip, hbehind, hrest]; simp⟩
      · cases hrun
    · cases hrun
  · cases h

theorem isSound (fuel : Nat) : IsSound fuel := by
  induction fuel with
  | zero =>
    intro part t rest h
    cases part with
    | entry k v =>
      obtain ⟨u, r₁, r₂, -, -, -, h⟩ := h
      cases h
    | value | items | fields => cases h
  | succ fuel ih =>
    intro part t rest h
    cases part with
    | value v => exact spells_value ih h
    | items vs => exact spells_items ih h
    | entry k v =>
      obtain ⟨u, r₁, r₂, rfl, hk, hcolon, hv⟩ := h
      obtain ⟨w, hw, hrest⟩ := spells_value ih hv
      exact spells_entry hk hcolon hw hrest
    | fields before all => exact spells_fields ih h

end Sound

section Document

variable {t : Text} {v : Value}

theorem read_eq_ok : read t = .ok v ↔ document t = .ok v := by
  unfold read
  cases document t <;> simp [Except.mapError]

theorem isTextOf_of_document (h : document t = .ok v) : IsTextOf words v t := by
  unfold document at h
  split at h
  · cases h
  · obtain ⟨⟨u, after⟩, hvalue, h⟩ := bind_eq_ok.mp h
    obtain ⟨sp, hsp, ht⟩ := exists_spaces t
    obtain ⟨sp', hsp', hafter⟩ := exists_spaces after
    obtain ⟨w, hw, hrest⟩ := isSound _ (.value u) _ _ hvalue
    dsimp only at h
    split at h
    · next hnil =>
      obtain rfl := Except.ok.inj h
      rw [hnil, List.append_nil] at hafter
      exact ⟨sp, w, sp', hsp, hw, hsp', by rw [ht, hrest, hafter, List.append_assoc]⟩
    · cases h

theorem head_ne_mark (h : IsTextOf words v t) : t.head? ≠ some (.scalar '\uFEFF') := by
  obtain ⟨sp, w, sp', hsp, hw, -, rfl⟩ := h
  obtain ⟨p, u, rfl, hp⟩ := hw.canStart
  intro hhead
  cases sp with
  | nil =>
    obtain rfl := Option.some.inj hhead
    cases hp
  | cons q sp =>
    obtain rfl := Option.some.inj hhead
    cases hsp _ List.mem_cons_self

theorem skipSpace_of_spaces {sp : Text} (h : Spaces sp) : skipSpace sp = [] := by
  rw [← List.append_nil sp, skipSpace_append h]
  rfl

theorem document_of_isTextOf (h : IsTextOf words v t) : document t = .ok v := by
  have hhead := head_ne_mark h
  obtain ⟨sp, w, sp', hsp, hw, hsp', rfl⟩ := h
  have hfollows : Follows (.value v) sp' := by
    have hstops := stops_spaces hsp' stops_nil
    rwa [List.append_nil] at hstops
  have hfuel : 2 * w.length ≤ 2 * (sp ++ w ++ sp').length + 2 := by
    simp only [List.length_append]
    omega
  have hvalue : value _ (w ++ sp') = .ok (v, sp') := reads_of_spells hw hfuel hfollows
  rw [document, if_neg hhead, List.append_assoc, skipSpace_spelled hw hsp, ← List.append_assoc,
    hvalue, ok_bind]
  simp only [skipSpace_of_spaces hsp', pure_eq_ok]

/-- A text is read as a value exactly if it is a JSON text of that value. -/
theorem read_eq_ok_iff : read t = .ok v ↔ IsTextOf words v t :=
  read_eq_ok.trans ⟨isTextOf_of_document, document_of_isTextOf⟩

end Document

end Proceedings.Json
