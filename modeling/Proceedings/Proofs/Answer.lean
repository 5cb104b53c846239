import Mathlib
import Proceedings.Failure

/-! # Answers and failures

What an operation of several parts answers, and how it fails: by the first part that fails.
-/

namespace Proceedings

variable {ε α β : Type}

@[simp] theorem ok_bind (a : α) (f : α → Except ε β) : (Except.ok a >>= f) = f a := rfl
@[simp] theorem error_bind (e : ε) (f : α → Except ε β) :
    ((Except.error e : Except ε α) >>= f) = .error e := rfl
@[simp] theorem map_ok (f : α → β) (a : α) : f <$> (.ok a : Except ε α) = .ok (f a) := rfl
@[simp] theorem map_error (f : α → β) (e : ε) : f <$> (.error e : Except ε α) = .error e := rfl
@[simp] theorem pure_eq_ok (a : α) : (pure a : Except ε α) = .ok a := rfl

theorem bind_eq_ok {x : Except ε α} {f : α → Except ε β} {b : β} :
    (x >>= f) = .ok b ↔ ∃ a, x = .ok a ∧ f a = .ok b := by
  cases x <;> simp

theorem bind_eq_error {x : Except ε α} {f : α → Except ε β} {e : ε} :
    (x >>= f) = .error e ↔ x = .error e ∨ ∃ a, x = .ok a ∧ f a = .error e := by
  cases x <;> simp

theorem map_eq_ok {x : Except ε α} {f : α → β} {b : β} :
    f <$> x = .ok b ↔ ∃ a, x = .ok a ∧ f a = b := by
  cases x <;> simp

@[simp] theorem exists_map_eq_ok {x : Except ε α} {f : α → β} :
    (∃ b, f <$> x = .ok b) ↔ ∃ a, x = .ok a := by
  cases x <;> simp

theorem mapError_eq_ok {ε' : Type} {g : ε → ε'} {x : Except ε α} {a : α} :
    x.mapError g = .ok a ↔ x = .ok a := by
  cases x <;> simp [Except.mapError]

theorem mapError_eq_error {ε' : Type} {g : ε → ε'} {x : Except ε α} {e' : ε'} :
    x.mapError g = .error e' ↔ ∃ e, x = .error e ∧ g e = e' := by
  cases x <;> simp [Except.mapError]

theorem mapM_eq_error {l : List α} {f : α → Except ε β} {e : ε} :
    l.mapM f = .error e ↔ ∃ before a after, l = before ++ a :: after ∧
      (∀ x ∈ before, ∃ b, f x = .ok b) ∧ f a = .error e := by
  induction l with
  | nil => simp
  | cons a l ih =>
    rw [List.mapM_cons]
    constructor
    · intro h
      rcases bind_eq_error.mp h with ha | ⟨b, hb, h⟩
      · exact ⟨[], a, l, rfl, by simp, ha⟩
      · rcases bind_eq_error.mp h with hl | ⟨bs, -, h⟩
        · obtain ⟨before, x, after, rfl, hok, hx⟩ := ih.mp hl
          refine ⟨a :: before, x, after, rfl, ?_, hx⟩
          exact List.forall_mem_cons.mpr ⟨⟨b, hb⟩, hok⟩
        · cases h
    · rintro ⟨before, x, after, hl, hok, hx⟩
      cases before with
      | nil =>
        obtain ⟨rfl, rfl⟩ := List.cons.inj hl
        rw [hx, error_bind]
      | cons y before =>
        obtain ⟨rfl, rfl⟩ := List.cons.inj hl
        obtain ⟨⟨b, hb⟩, hok⟩ := List.forall_mem_cons.mp hok
        rw [hb, ok_bind, ih.mpr ⟨before, x, after, rfl, hok, hx⟩, error_bind]

theorem mapM_eq_ok {l : List α} {f : α → Except ε β} {p : α → Prop} {g : α → β} {r : List β}
    (hf : ∀ a ∈ l, ∀ b, f a = .ok b ↔ p a ∧ b = g a) :
    l.mapM f = .ok r ↔ (∀ a ∈ l, p a) ∧ r = l.map g := by
  induction l generalizing r with
  | nil => simp [eq_comm]
  | cons a l ih =>
    obtain ⟨ha, hl⟩ := List.forall_mem_cons.mp hf
    rw [List.mapM_cons]
    constructor
    · intro h
      obtain ⟨b, hb, h⟩ := bind_eq_ok.mp h
      obtain ⟨bs, hbs, h⟩ := bind_eq_ok.mp h
      obtain ⟨hp, rfl⟩ := (ha b).mp hb
      obtain ⟨hps, rfl⟩ := (ih hl).mp hbs
      exact ⟨List.forall_mem_cons.mpr ⟨hp, hps⟩, (Except.ok.inj h).symm⟩
    · rintro ⟨hp, rfl⟩
      obtain ⟨hp, hps⟩ := List.forall_mem_cons.mp hp
      rw [(ha _).mpr ⟨hp, rfl⟩, ok_bind, (ih hl).mpr ⟨hps, rfl⟩]
      rfl

theorem exists_mapM_eq_ok {l : List α} {f : α → Except ε β} :
    (∃ r, l.mapM f = .ok r) ↔ ∀ a ∈ l, ∃ b, f a = .ok b := by
  induction l with
  | nil => simp
  | cons a l ih =>
    rw [List.forall_mem_cons, ← ih, List.mapM_cons]
    constructor
    · rintro ⟨r, hr⟩
      obtain ⟨b, hb, h⟩ := bind_eq_ok.mp hr
      obtain ⟨bs, hbs, -⟩ := bind_eq_ok.mp h
      exact ⟨⟨b, hb⟩, ⟨bs, hbs⟩⟩
    · rintro ⟨⟨b, hb⟩, ⟨bs, hbs⟩⟩
      exact ⟨b :: bs, by rw [hb, ok_bind, hbs]; rfl⟩

theorem mapM_ok {l : List α} {f : α → Except ε β} {g : α → β} (hf : ∀ a ∈ l, f a = .ok (g a)) :
    l.mapM f = .ok (l.map g) := by
  refine (mapM_eq_ok (p := fun _ => True) fun a ha b => ?_).mpr ⟨fun _ _ => trivial, rfl⟩
  simp [hf a ha, eq_comm]

theorem mapM_eq_ok_iff {l : List α} {f : α → Except ε β} {r : List β} :
    l.mapM f = .ok r ↔ List.Forall₂ (fun a b => f a = .ok b) l r := by
  induction l generalizing r with
  | nil => simp [eq_comm]
  | cons a l ih =>
    rw [List.mapM_cons, bind_eq_ok, List.forall₂_cons_left_iff]
    constructor
    · rintro ⟨b, hb, h⟩
      obtain ⟨bs, hbs, h⟩ := bind_eq_ok.mp h
      exact ⟨b, bs, hb, ih.mp hbs, (Except.ok.inj h).symm⟩
    · rintro ⟨b, bs, hb, hbs, rfl⟩
      exact ⟨b, hb, by rw [ih.mpr hbs, ok_bind]; rfl⟩

theorem exists_of_mem_forall₂ {r : α → β → Prop} {l : List α} {l' : List β}
    (h : List.Forall₂ r l l') {b : β} (hb : b ∈ l') : ∃ a ∈ l, r a b := by
  induction h with
  | nil => cases hb
  | cons ha _ ih =>
    rcases List.mem_cons.mp hb with rfl | hb
    · exact ⟨_, List.mem_cons_self, ha⟩
    · obtain ⟨a, hmem, h⟩ := ih hb
      exact ⟨a, List.mem_cons_of_mem _ hmem, h⟩

/-- Lists related by one relation are related by any that follows from it on the first list. -/
theorem forall₂_of_mem {r s : α → β → Prop} {l : List α} {l' : List β}
    (h : ∀ a ∈ l, ∀ b, r a b → s a b) (hr : List.Forall₂ r l l') : List.Forall₂ s l l' :=
  ((List.forall₂_and_left _ _).mpr ⟨h, hr⟩).imp fun _ b hab => hab.1 b hab.2

/-- What holds throughout one of two lists holds throughout the other, item by item. -/
theorem forall_iff_of_forall₂ {r : α → β → Prop} {p : α → Prop} {q : β → Prop}
    {l : List α} {l' : List β} (h : ∀ a ∈ l, ∀ b, r a b → (q b ↔ p a))
    (hr : List.Forall₂ r l l') : (∀ b ∈ l', q b) ↔ ∀ a ∈ l, p a := by
  induction hr with
  | nil => exact iff_of_true nofun nofun
  | cons hab _ ih =>
    obtain ⟨ha, hl⟩ := List.forall_mem_cons.mp h
    rw [List.forall_mem_cons, List.forall_mem_cons, ha _ hab, ih hl]

theorem exists_of_mem_mapM {l : List α} {f : α → Except ε β} {r : List β} (h : l.mapM f = .ok r)
    {b : β} (hb : b ∈ r) : ∃ a ∈ l, f a = .ok b :=
  exists_of_mem_forall₂ (mapM_eq_ok_iff.mp h) hb

/-- A failure that is a breach of the contract. -/
def Failure.IsBreach (f : Failure) : Prop := ∃ b, f = .breach b

/-- A failure of an operation that is no breach of the contract. -/
def Escapes (x : Except Failure α) (f : Failure) : Prop := x = .error f ∧ ¬ f.IsBreach

section

variable {f : Failure}

@[simp] theorem not_escapes_ok {a : α} : ¬ Escapes (.ok a) f := by simp [Escapes]

@[simp] theorem not_escapes_breach {b : Breach} :
    ¬ Escapes (.error (.breach b) : Except Failure α) f := by
  rintro ⟨h, hbreach⟩
  exact hbreach ⟨b, (Except.error.inj h).symm⟩

theorem escapes_error {g : Failure} :
    Escapes (.error g : Except Failure α) f ↔ f = g ∧ ¬ g.IsBreach := by
  constructor
  · rintro ⟨h, hbreach⟩
    obtain rfl := Except.error.inj h
    exact ⟨rfl, hbreach⟩
  · rintro ⟨rfl, hbreach⟩
    exact ⟨rfl, hbreach⟩

theorem escapes_bind {x : Except Failure α} {g : α → Except Failure β} :
    Escapes (x >>= g) f ↔ Escapes x f ∨ ∃ a, x = .ok a ∧ Escapes (g a) f := by
  cases x <;> simp [Escapes]

@[simp] theorem escapes_map {x : Except Failure α} {g : α → β} :
    Escapes (g <$> x) f ↔ Escapes x f := by
  cases x <;> simp [Escapes]

theorem escapes_mapM {l : List α} {g : α → Except Failure β} :
    Escapes (l.mapM g) f ↔ ∃ before a after, l = before ++ a :: after ∧
      (∀ x ∈ before, ∃ b, g x = .ok b) ∧ Escapes (g a) f := by
  rw [Escapes, mapM_eq_error]
  constructor
  · rintro ⟨⟨before, a, after, hl, hok, ha⟩, hbreach⟩
    exact ⟨before, a, after, hl, hok, ha, hbreach⟩
  · rintro ⟨before, a, after, hl, hok, ha, hbreach⟩
    exact ⟨⟨before, a, after, hl, hok, ha⟩, hbreach⟩

end

end Proceedings
