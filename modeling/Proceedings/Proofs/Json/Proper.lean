import Proceedings.Proofs.Json.Reader
import Proceedings.Proofs.Json.Written

/-! # JSON proper

The grammar of JSON without the values that texts stand for. JSON proper has names for null and the
truth values only, while reading and writing know names for special numbers as well. Those are the
only names with an `N` or an `I`, so a text is JSON proper as soon as neither stands outside quotes.
-/

namespace Proceedings.Json

section Grammar

def properNames : List String := properWords.map Prod.fst

def allNames : List String := words.map Prod.fst

/-- Texts of numbers: a sign, digits, a fraction and an exponent, of which digits must be there. -/
inductive IsNumeral : Text → Prop
  | intro {negative whole places fraction power exponent} (hwhole : IsWhole whole)
      (hfraction : SpellsFraction places fraction) (hexponent : SpellsExponent power exponent) :
      IsNumeral (signText negative ++ whole ++ fraction ++ exponent)

/-- What may stand between quotes: anything but quotes, backslashes and control characters, which
have escapes. The number of an escape may be any, half of a surrogate pair included. -/
inductive IsQuotable : Text → Prop
  | nil : IsQuotable []
  | plain {p w} (hquote : p ≠ .scalar '"') (hbackslash : p ≠ .scalar '\\')
      (hcontrol : 0x20 ≤ p.toNat) (h : IsQuotable w) : IsQuotable (p :: w)
  | simple {p q w} (hescape : simpleEscape? q = some p) (h : IsQuotable w) :
      IsQuotable (.scalar '\\' :: q :: w)
  | point {n digits w} (hhex : SpellsHex n digits) (h : IsQuotable w) :
      IsQuotable (hexEscape digits ++ w)

inductive Shape where
  | value
  | items
  | entry
  | fields

/-- Texts of a shape, with names for values. -/
inductive HasShape (names : List String) : Shape → Text → Prop
  | name {name} (h : name ∈ names) : HasShape names .value (Text.ofString name)
  | number {w} (h : IsNumeral w) : HasShape names .value w
  | text {w} (h : IsQuotable w) : HasShape names .value (inQuotes w)
  | noItems {sp} (hsp : Spaces sp) : HasShape names .value (.scalar '[' :: sp ++ [.scalar ']'])
  | array {sp w} (hsp : Spaces sp) (h : HasShape names .items w) :
      HasShape names .value (.scalar '[' :: sp ++ w)
  | noFields {sp} (hsp : Spaces sp) :
      HasShape names .value (.scalar '\x7b' :: sp ++ [.scalar '\x7d'])
  | object {sp w} (hsp : Spaces sp) (h : HasShape names .fields w) :
      HasShape names .value (.scalar '\x7b' :: sp ++ w)
  | lastItem {w sp} (h : HasShape names .value w) (hsp : Spaces sp) :
      HasShape names .items (w ++ sp ++ [.scalar ']'])
  | item {w sp sp' rest} (h : HasShape names .value w) (hsp : Spaces sp) (hsp' : Spaces sp')
      (hrest : HasShape names .items rest) :
      HasShape names .items (w ++ sp ++ .scalar ',' :: sp' ++ rest)
  | entry {u sp sp' w} (hk : IsQuotable u) (hsp : Spaces sp) (hsp' : Spaces sp')
      (h : HasShape names .value w) :
      HasShape names .entry (inQuotes u ++ sp ++ .scalar ':' :: sp' ++ w)
  | lastField {w sp} (h : HasShape names .entry w) (hsp : Spaces sp) :
      HasShape names .fields (w ++ sp ++ [.scalar '\x7d'])
  | field {w sp sp' rest} (h : HasShape names .entry w) (hsp : Spaces sp) (hsp' : Spaces sp')
      (hrest : HasShape names .fields rest) :
      HasShape names .fields (w ++ sp ++ .scalar ',' :: sp' ++ rest)

def IsTextWith (names : List String) (t : Text) : Prop :=
  ∃ sp w sp', Spaces sp ∧ HasShape names .value w ∧ Spaces sp' ∧ t = sp ++ w ++ sp'

/-- A text of JSON proper. -/
def IsProper (t : Text) : Prop := IsTextWith properNames t

end Grammar

section Spelled

variable {t w : Text} {v : Value} {part : Part}

def Part.shape : Part → Shape
  | .value _ => .value
  | .items _ => .items
  | .entry _ _ => .entry
  | .fields _ _ => .fields

theorem SpellsNumber.isNumeral (h : SpellsNumber v w) : IsNumeral w := by
  cases h with
  | @int negative digits hwhole =>
    have hnumeral : IsNumeral (signText negative ++ digits ++ [] ++ []) :=
      .intro hwhole .absent .absent
    rwa [List.append_nil, List.append_nil] at hnumeral
  | float hwhole hfraction hexponent => exact .intro hwhole hfraction hexponent

theorem SpellsText.isQuotable (h : SpellsText t w) : IsQuotable w := by
  induction h with
  | nil => exact .nil
  | plain hquote hbackslash hcontrol _ ih => exact .plain hquote hbackslash hcontrol ih
  | simple hescape _ ih => exact .simple hescape ih
  | point hhex _ _ ih => exact .point hhex ih
  | pair hfirst _ hsecond _ _ ih =>
    rw [List.append_assoc]
    exact .point hfirst (.point hsecond ih)

theorem Spells.hasShape (h : Spells words part w) : HasShape allNames part.shape w := by
  induction h with
  | name h => exact .name (List.mem_map_of_mem h)
  | number h => exact .number h.isNumeral
  | text h => exact .text h.isQuotable
  | noItems hsp => exact .noItems hsp
  | array hsp _ ih => exact .array hsp ih
  | noFields hsp => exact .noFields hsp
  | object hsp _ ih => exact .object hsp ih
  | lastItem _ hsp ih => exact .lastItem ih hsp
  | item _ hsp hsp' _ ih ihrest => exact .item ih hsp hsp' ihrest
  | entry hk hsp hsp' _ ih => exact .entry hk.isQuotable hsp hsp' ih
  | lastField _ hsp ih => exact .lastField ih hsp
  | field _ hsp hsp' _ ih ihrest => exact .field ih hsp hsp' ihrest

end Spelled

section Bare

/-- Where the code points of a text stand. -/
inductive Place where
  | outside
  | inside
  | escaped

def bareFrom : Place → Text → Text
  | _, [] => []
  | .outside, p :: t => if p = .scalar '"' then bareFrom .inside t else p :: bareFrom .outside t
  | .inside, p :: t =>
    if p = .scalar '"' then bareFrom .outside t
    else bareFrom (if p = .scalar '\\' then .escaped else .inside) t
  | .escaped, _ :: t => bareFrom .inside t

def bare (t : Text) : Text := bareFrom .outside t

/-- A code point that neither opens quotes nor starts a part of the name of a special number. -/
def IsMark (p : CodePoint) : Prop := p ≠ .scalar '"' ∧ p ≠ .scalar 'N' ∧ p ≠ .scalar 'I'

def IsBalanced (w : Text) : Prop := ∀ r, bare (w ++ r) = bare w ++ bare r

/-- A text without the name of a special number outside quotes. -/
def IsQuiet (t : Text) : Prop := ∀ p ∈ bare t, p ≠ .scalar 'N' ∧ p ≠ .scalar 'I'

instance (p : CodePoint) : Decidable (IsMark p) := inferInstanceAs (Decidable (_ ∧ _ ∧ _))

instance (t : Text) : Decidable (IsQuiet t) := List.decidableBAll _ _

variable {a w u sp sp' rest : Text} {p q : CodePoint}

theorem bare_cons (hp : p ≠ .scalar '"') (w : Text) : bare (p :: w) = p :: bare w := by
  rw [bare, bareFrom, if_neg hp]
  rfl

theorem IsBalanced.cons (hp : p ≠ .scalar '"') (h : IsBalanced w) : IsBalanced (p :: w) := by
  intro r
  rw [List.cons_append, bare_cons hp, bare_cons hp, h, List.cons_append]

theorem IsBalanced.append (ha : IsBalanced a) (hw : IsBalanced w) : IsBalanced (a ++ w) := by
  intro r
  rw [List.append_assoc, ha, hw, ha, List.append_assoc]

theorem isBalanced_of_unquoted (h : ∀ p ∈ w, p ≠ .scalar '"') : IsBalanced w := by
  induction w with
  | nil => exact fun _ => rfl
  | cons p w ih =>
    obtain ⟨hp, hw⟩ := List.forall_mem_cons.mp h
    exact (ih hw).cons hp

/-- A code point inside quotes that neither closes them nor starts an escape is passed over. -/
theorem bareFrom_inside (hquote : p ≠ .scalar '"') (hbackslash : p ≠ .scalar '\\') (t : Text) :
    bareFrom .inside (p :: t) = bareFrom .inside t := by
  rw [bareFrom, if_neg hquote, if_neg hbackslash]

theorem bareFrom_escape (q : CodePoint) (t : Text) :
    bareFrom .inside (.scalar '\\' :: q :: t) = bareFrom .inside t := rfl

theorem bareFrom_hexEscape {digits : Text} {n : Nat} (h : SpellsHex n digits) (t : Text) :
    bareFrom .inside (hexEscape digits ++ t) = bareFrom .inside t := by
  have hdigit {p : CodePoint} {n : Nat} (hp : p.hexValue? = some n) (t : Text) :
      bareFrom .inside (p :: t) = bareFrom .inside t := by
    refine bareFrom_inside ?_ ?_ t <;> rintro rfl <;> cases hp
  obtain ⟨hlength, hn⟩ := h
  match digits, hlength with
  | [a, b, c, d], _ =>
    simp only [hexFour?, Option.bind_eq_bind, Option.bind_eq_some_iff] at hn
    obtain ⟨_, ha, _, hb, _, hc, _, hd, -⟩ := hn
    simp only [hexEscape, List.cons_append, List.nil_append, bareFrom_escape, hdigit ha, hdigit hb,
      hdigit hc, hdigit hd]

theorem IsQuotable.bareFrom_inside (h : IsQuotable w) (r : Text) :
    bareFrom .inside (w ++ .scalar '"' :: r) = bare r := by
  induction h with
  | nil => rfl
  | plain hquote hbackslash _ _ ih =>
    rw [List.cons_append, Json.bareFrom_inside hquote hbackslash, ih]
  | simple _ _ ih => rw [List.cons_append, List.cons_append, bareFrom_escape, ih]
  | point hhex _ ih => rw [List.append_assoc, bareFrom_hexEscape hhex, ih]

theorem IsQuotable.bare_inQuotes (h : IsQuotable w) (r : Text) :
    bare (inQuotes w ++ r) = bare r := by
  have hquotes : inQuotes w ++ r = .scalar '"' :: (w ++ .scalar '"' :: r) := by simp [inQuotes]
  rw [hquotes, bare, bareFrom, if_pos rfl, h.bareFrom_inside]

theorem IsQuotable.isBalanced_inQuotes (h : IsQuotable w) : IsBalanced (inQuotes w) := by
  intro r
  have hbare := h.bare_inQuotes []
  rw [List.append_nil] at hbare
  rw [h.bare_inQuotes, hbare]
  rfl

end Bare

section Marks

variable {a w u sp sp' rest : Text} {p q : CodePoint} {names : List String} {shape : Shape}

theorem isMark_of_isAsciiDigit (h : p.isAsciiDigit = true) : IsMark p := by
  refine ⟨?_, ?_, ?_⟩ <;> rintro rfl <;> cases h

theorem IsNumeral.isMark (h : IsNumeral w) : ∀ p ∈ w, IsMark p := by
  have hdigits {t : Text} (h : IsDigits t) : ∀ p ∈ t, IsMark p :=
    fun p hp => isMark_of_isAsciiDigit (h.2 p hp)
  obtain @⟨negative, whole, places, fraction, power, exponent, hwhole, hfraction, hexponent⟩ := h
  simp only [List.forall_mem_append]
  refine ⟨⟨⟨?_, ?_⟩, ?_⟩, ?_⟩
  · cases negative <;> decide
  · rcases hwhole with rfl | ⟨h, -⟩
    · decide
    · exact hdigits h
  · cases hfraction with
    | absent => nofun
    | digits h => exact List.forall_mem_cons.mpr ⟨by decide, hdigits h⟩
  · cases hexponent with
    | absent => nofun
    | power hmark hsign h =>
      refine List.forall_mem_append.mpr ⟨List.forall_mem_cons.mpr ⟨?_, ?_⟩, hdigits h⟩
      · rcases hmark with rfl | rfl <;> decide
      · rcases hsign with rfl | rfl | rfl <;> decide

theorem Spaces.isMark (h : Spaces sp) : ∀ p ∈ sp, IsMark p := by
  intro p hp
  have hspace := h p hp
  refine ⟨?_, ?_, ?_⟩ <;> rintro rfl <;> cases hspace

theorem isBalanced_of_isMark (h : ∀ p ∈ w, IsMark p) : IsBalanced w :=
  isBalanced_of_unquoted fun p hp => (h p hp).1

theorem isQuiet_append (ha : IsBalanced a) : IsQuiet (a ++ w) ↔ IsQuiet a ∧ IsQuiet w := by
  simp only [IsQuiet, ha w, List.forall_mem_append]

theorem bare_of_unquoted (h : ∀ p ∈ w, p ≠ .scalar '"') : bare w = w := by
  induction w with
  | nil => rfl
  | cons p w ih =>
    obtain ⟨hp, hw⟩ := List.forall_mem_cons.mp h
    rw [bare_cons hp, ih hw]

theorem isQuiet_of_isMark (h : ∀ p ∈ w, IsMark p) : IsQuiet w := by
  intro p hp
  rw [bare_of_unquoted fun q hq => (h q hq).1] at hp
  exact (h p hp).2

/-- Marks do not matter. -/
theorem isQuiet_marks_append (ha : ∀ p ∈ a, IsMark p) : IsQuiet (a ++ w) ↔ IsQuiet w := by
  rw [isQuiet_append (isBalanced_of_isMark ha), and_iff_right (isQuiet_of_isMark ha)]

theorem isMark_opening (hp : IsMark p) (hsp : Spaces sp) : ∀ q ∈ p :: sp, IsMark q :=
  List.forall_mem_cons.mpr ⟨hp, hsp.isMark⟩

theorem isMark_closing (hsp : Spaces sp) (hp : IsMark p) : ∀ q ∈ sp ++ [p], IsMark q :=
  List.forall_mem_append.mpr ⟨hsp.isMark, List.forall_mem_singleton.mpr hp⟩

theorem isMark_joint (hsp : Spaces sp) (hp : IsMark p) (hsp' : Spaces sp') :
    ∀ q ∈ sp ++ p :: sp', IsMark q :=
  List.forall_mem_append.mpr ⟨hsp.isMark, isMark_opening hp hsp'⟩

theorem joint_assoc : w ++ sp ++ p :: sp' ++ rest = w ++ ((sp ++ p :: sp') ++ rest) := by simp

theorem IsBalanced.opening (hw : IsBalanced w) (hp : IsMark p) (hsp : Spaces sp) :
    IsBalanced (p :: sp ++ w) :=
  (isBalanced_of_isMark (isMark_opening hp hsp)).append hw

theorem IsBalanced.closing (hw : IsBalanced w) (hsp : Spaces sp) (hp : IsMark p) :
    IsBalanced (w ++ sp ++ [p]) := by
  rw [List.append_assoc]
  exact hw.append (isBalanced_of_isMark (isMark_closing hsp hp))

theorem IsBalanced.joint (hw : IsBalanced w) (hsp : Spaces sp) (hp : IsMark p)
    (hsp' : Spaces sp') (hrest : IsBalanced rest) : IsBalanced (w ++ sp ++ p :: sp' ++ rest) := by
  rw [joint_assoc]
  exact hw.append ((isBalanced_of_isMark (isMark_joint hsp hp hsp')).append hrest)

theorem isQuiet_opening (hp : IsMark p) (hsp : Spaces sp) :
    IsQuiet (p :: sp ++ w) ↔ IsQuiet w :=
  isQuiet_marks_append (isMark_opening hp hsp)

theorem isQuiet_closing (hw : IsBalanced w) (hsp : Spaces sp) (hp : IsMark p) :
    IsQuiet (w ++ sp ++ [p]) ↔ IsQuiet w := by
  have hquiet := isQuiet_of_isMark (isMark_closing hsp hp)
  rw [List.append_assoc, isQuiet_append hw, and_iff_left hquiet]

theorem isQuiet_joint (hw : IsBalanced w) (hsp : Spaces sp) (hp : IsMark p) (hsp' : Spaces sp') :
    IsQuiet (w ++ sp ++ p :: sp' ++ rest) ↔ IsQuiet w ∧ IsQuiet rest := by
  rw [joint_assoc, isQuiet_append hw, isQuiet_marks_append (isMark_joint hsp hp hsp')]

theorem isMark_brackets (hp : IsMark p) (hsp : Spaces sp) (hq : IsMark q) :
    ∀ r ∈ p :: sp ++ [q], IsMark r :=
  List.forall_mem_append.mpr ⟨isMark_opening hp hsp, List.forall_mem_singleton.mpr hq⟩

end Marks

section Shapes

variable {t w : Text} {v : Value} {names others : List String} {shape : Shape}

theorem HasShape.mono (hnames : ∀ name ∈ names, name ∈ others) (h : HasShape names shape w) :
    HasShape others shape w := by
  induction h with
  | name h => exact .name (hnames _ h)
  | number h => exact .number h
  | text h => exact .text h
  | noItems hsp => exact .noItems hsp
  | array hsp _ ih => exact .array hsp ih
  | noFields hsp => exact .noFields hsp
  | object hsp _ ih => exact .object hsp ih
  | lastItem _ hsp ih => exact .lastItem ih hsp
  | item _ hsp hsp' _ ih ihrest => exact .item ih hsp hsp' ihrest
  | entry hk hsp hsp' _ ih => exact .entry hk hsp hsp' ih
  | lastField _ hsp ih => exact .lastField ih hsp
  | field _ hsp hsp' _ ih ihrest => exact .field ih hsp hsp' ihrest

theorem HasShape.toAll (h : HasShape properNames shape w) : HasShape allNames shape w :=
  h.mono (by decide)

theorem HasShape.isBalanced (h : HasShape allNames shape w) : IsBalanced w := by
  induction h with
  | @name name h =>
    have hquote : ∀ name ∈ allNames, ∀ p ∈ Text.ofString name, p ≠ .scalar '"' := by decide
    exact isBalanced_of_unquoted (hquote name h)
  | number h => exact isBalanced_of_isMark h.isMark
  | text h => exact h.isBalanced_inQuotes
  | noItems hsp => exact isBalanced_of_isMark (isMark_brackets (by decide) hsp (by decide))
  | array hsp _ ih => exact ih.opening (by decide) hsp
  | noFields hsp => exact isBalanced_of_isMark (isMark_brackets (by decide) hsp (by decide))
  | object hsp _ ih => exact ih.opening (by decide) hsp
  | lastItem _ hsp ih => exact ih.closing hsp (by decide)
  | item _ hsp hsp' _ ih ihrest => exact ih.joint hsp (by decide) hsp' ihrest
  | entry hk hsp hsp' _ ih => exact hk.isBalanced_inQuotes.joint hsp (by decide) hsp' ih
  | lastField _ hsp ih => exact ih.closing hsp (by decide)
  | field _ hsp hsp' _ ih ihrest => exact ih.joint hsp (by decide) hsp' ihrest

theorem IsQuotable.isQuiet_inQuotes (h : IsQuotable w) : IsQuiet (inQuotes w) := by
  have hbare := h.bare_inQuotes []
  rw [List.append_nil] at hbare
  rw [IsQuiet, hbare]
  nofun

/-- JSON proper has no name with one of the two letters. -/
theorem HasShape.isQuiet (h : HasShape properNames shape w) : IsQuiet w := by
  induction h with
  | @name name h =>
    have hmark : ∀ name ∈ properNames, ∀ p ∈ Text.ofString name, IsMark p := by decide
    exact isQuiet_of_isMark (hmark name h)
  | number h => exact isQuiet_of_isMark h.isMark
  | text h => exact h.isQuiet_inQuotes
  | noItems hsp => exact isQuiet_of_isMark (isMark_brackets (by decide) hsp (by decide))
  | array hsp _ ih => exact (isQuiet_opening (by decide) hsp).mpr ih
  | noFields hsp => exact isQuiet_of_isMark (isMark_brackets (by decide) hsp (by decide))
  | object hsp _ ih => exact (isQuiet_opening (by decide) hsp).mpr ih
  | lastItem h hsp ih => exact (isQuiet_closing h.toAll.isBalanced hsp (by decide)).mpr ih
  | item h hsp hsp' _ ih ihrest =>
    exact (isQuiet_joint h.toAll.isBalanced hsp (by decide) hsp').mpr ⟨ih, ihrest⟩
  | entry hk hsp hsp' _ ih =>
    exact (isQuiet_joint hk.isBalanced_inQuotes hsp (by decide) hsp').mpr
      ⟨hk.isQuiet_inQuotes, ih⟩
  | lastField h hsp ih => exact (isQuiet_closing h.toAll.isBalanced hsp (by decide)).mpr ih
  | field h hsp hsp' _ ih ihrest =>
    exact (isQuiet_joint h.toAll.isBalanced hsp (by decide) hsp').mpr ⟨ih, ihrest⟩

/-- Without the two letters outside quotes no name of a special number is left. -/
theorem HasShape.toProper (h : HasShape allNames shape w) (hquiet : IsQuiet w) :
    HasShape properNames shape w := by
  induction h with
  | @name name h =>
    have hname : ∀ name ∈ allNames, IsQuiet (Text.ofString name) → name ∈ properNames := by decide
    exact .name (hname name h hquiet)
  | number h => exact .number h
  | text h => exact .text h
  | noItems hsp => exact .noItems hsp
  | array hsp _ ih => exact .array hsp (ih ((isQuiet_opening (by decide) hsp).mp hquiet))
  | noFields hsp => exact .noFields hsp
  | object hsp _ ih => exact .object hsp (ih ((isQuiet_opening (by decide) hsp).mp hquiet))
  | lastItem h hsp ih =>
    exact .lastItem (ih ((isQuiet_closing h.isBalanced hsp (by decide)).mp hquiet)) hsp
  | item h hsp hsp' _ ih ihrest =>
    obtain ⟨hw, hrest⟩ := (isQuiet_joint h.isBalanced hsp (by decide) hsp').mp hquiet
    exact .item (ih hw) hsp hsp' (ihrest hrest)
  | entry hk hsp hsp' _ ih =>
    obtain ⟨-, hw⟩ := (isQuiet_joint hk.isBalanced_inQuotes hsp (by decide) hsp').mp hquiet
    exact .entry hk hsp hsp' (ih hw)
  | lastField h hsp ih =>
    exact .lastField (ih ((isQuiet_closing h.isBalanced hsp (by decide)).mp hquiet)) hsp
  | field h hsp hsp' _ ih ihrest =>
    obtain ⟨hw, hrest⟩ := (isQuiet_joint h.isBalanced hsp (by decide) hsp').mp hquiet
    exact .field (ih hw) hsp hsp' (ihrest hrest)

theorem IsTextWith.isProper_iff (h : IsTextWith allNames t) : IsProper t ↔ IsQuiet t := by
  have hquiet {sp w sp' : Text} (hsp : Spaces sp) (hw : HasShape allNames .value w)
      (hsp' : Spaces sp') : IsQuiet (sp ++ w ++ sp') ↔ IsQuiet w := by
    have hend := isQuiet_of_isMark hsp'.isMark
    rw [List.append_assoc, isQuiet_marks_append hsp.isMark, isQuiet_append hw.isBalanced,
      and_iff_left hend]
  constructor
  · rintro ⟨sp, w, sp', hsp, hw, hsp', rfl⟩
    exact (hquiet hsp hw.toAll hsp').mpr hw.isQuiet
  · obtain ⟨sp, w, sp', hsp, hw, hsp', rfl⟩ := h
    intro h
    exact ⟨sp, w, sp', hsp, hw.toProper ((hquiet hsp hw hsp').mp h), hsp', rfl⟩

/-- What is read is JSON proper exactly if it names no special number. -/
theorem isProper_iff_of_read (h : read t = .ok v) : IsProper t ↔ IsQuiet t := by
  obtain ⟨sp, w, sp', hsp, hw, hsp', rfl⟩ := read_eq_ok_iff.mp h
  exact IsTextWith.isProper_iff ⟨sp, w, sp', hsp, hw.hasShape, hsp', rfl⟩

end Shapes

end Proceedings.Json
