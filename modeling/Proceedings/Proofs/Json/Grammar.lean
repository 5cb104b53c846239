import Mathlib
import Proceedings.Json.Reader

/-! # The grammar of JSON texts

Which texts spell which values. Blanks may stand around every part, a text between quotes may hold
any code point but the quote, the backslash and control characters, and of fields with one key the
last counts. The names of special values are a parameter, since JSON proper has only three of them.
-/

namespace Proceedings.Json

section Numbers

def IsDigits (t : Text) : Prop := t ≠ [] ∧ ∀ p ∈ t, p.isAsciiDigit = true

/-- The digits before the point: a zero stands alone. -/
def IsWhole (t : Text) : Prop :=
  t = [.scalar '0'] ∨ IsDigits t ∧ t.head? ≠ some (.scalar '0')

def signText (negative : Bool) : Text := if negative then [.scalar '-'] else []

def signed (negative : Bool) (n : Nat) : Int := if negative then -n else n

/-- Texts of fractions, by their digits. -/
inductive SpellsFraction : Text → Text → Prop
  | absent : SpellsFraction [] []
  | digits {places} (h : IsDigits places) : SpellsFraction places (.scalar '.' :: places)

inductive SpellsExponent : Option Int → Text → Prop
  | absent : SpellsExponent none []
  | power {mark sign digits} (hmark : mark = .scalar 'e' ∨ mark = .scalar 'E')
      (hsign : sign = [] ∨ sign = [.scalar '+'] ∨ sign = [.scalar '-']) (h : IsDigits digits) :
      SpellsExponent (some (signed (sign = [.scalar '-']) (natOfDigits digits)))
        (mark :: sign ++ digits)

/-- Texts of numbers. Without a fraction and an exponent they are integers. -/
inductive SpellsNumber : Value → Text → Prop
  | int {negative digits} (h : IsWhole digits) (hlength : digits.length ≤ Numeral.maxDigits) :
      SpellsNumber (.int (signed negative (natOfDigits digits))) (signText negative ++ digits)
  | float {negative whole places power fraction exponent} (hwhole : IsWhole whole)
      (hfraction : SpellsFraction places fraction) (hexponent : SpellsExponent power exponent)
      (h : places ≠ [] ∨ power ≠ none) :
      SpellsNumber (.float (.ofDecimal negative (natOfDigits (whole ++ places))
        (power.getD 0 - places.length))) (signText negative ++ whole ++ fraction ++ exponent)

end Numbers

section Strings

def SpellsHex (n : Nat) (digits : Text) : Prop := digits.length = 4 ∧ hexFour? digits = some n

def IsHigh (n : Nat) : Prop := 0xD800 ≤ n ∧ n < 0xDC00

def IsLow (n : Nat) : Prop := 0xDC00 ≤ n ∧ n < 0xE000

def hexEscape (digits : Text) : Text := .scalar '\\' :: .scalar 'u' :: digits

/-- A text that starts with the escape of the second half of a surrogate pair. -/
def StartsLow (t : Text) : Prop :=
  ∃ n digits rest, SpellsHex n digits ∧ IsLow n ∧ t = hexEscape digits ++ rest

/-- What stands between quotes for a text. -/
inductive SpellsText : Text → Text → Prop
  | nil : SpellsText [] []
  | plain {p t w} (hquote : p ≠ .scalar '"') (hbackslash : p ≠ .scalar '\\')
      (hcontrol : 0x20 ≤ p.toNat) (h : SpellsText t w) : SpellsText (p :: t) (p :: w)
  | simple {p q t w} (hescape : simpleEscape? q = some p) (h : SpellsText t w) :
      SpellsText (p :: t) (.scalar '\\' :: q :: w)
  | point {n digits t w} (hhex : SpellsHex n digits) (hpair : IsHigh n → ¬ StartsLow w)
      (h : SpellsText t w) : SpellsText (.ofNat n :: t) (hexEscape digits ++ w)
  | pair {high low first second t w} (hfirst : SpellsHex high first) (hhigh : IsHigh high)
      (hsecond : SpellsHex low second) (hlow : IsLow low) (h : SpellsText t w) :
      SpellsText (.ofNat (0x10000 + (high - 0xD800) * 0x400 + (low - 0xDC00)) :: t)
        (hexEscape first ++ hexEscape second ++ w)

end Strings

def Spaces (t : Text) : Prop := ∀ p ∈ t, isSpace p = true

def inQuotes (w : Text) : Text := .scalar '"' :: w ++ [.scalar '"']

/-- What a text can spell: a value, the items of an array up to its end, a key with its value, or
the fields of an object up to its end, by the fields before them and all fields together. -/
inductive Part where
  | value (v : Value)
  | items (vs : List Value)
  | entry (k : Text) (v : Value)
  | fields (before all : Fields)

/-- Texts that spell a part, with special names. -/
inductive Spells (names : List (String × Value)) : Part → Text → Prop
  | name {name v} (h : (name, v) ∈ names) : Spells names (.value v) (Text.ofString name)
  | number {v w} (h : SpellsNumber v w) : Spells names (.value v) w
  | text {t w} (h : SpellsText t w) : Spells names (.value (.text t)) (inQuotes w)
  | noItems {sp} (hsp : Spaces sp) :
      Spells names (.value (.list [])) (.scalar '[' :: sp ++ [.scalar ']'])
  | array {sp vs w} (hsp : Spaces sp) (h : Spells names (.items vs) w) :
      Spells names (.value (.list vs)) (.scalar '[' :: sp ++ w)
  | noFields {sp} (hsp : Spaces sp) :
      Spells names (.value (.object [])) (.scalar '\x7b' :: sp ++ [.scalar '\x7d'])
  | object {sp fs w} (hsp : Spaces sp) (h : Spells names (.fields [] fs) w) :
      Spells names (.value (.object fs)) (.scalar '\x7b' :: sp ++ w)
  | lastItem {v w sp} (h : Spells names (.value v) w) (hsp : Spaces sp) :
      Spells names (.items [v]) (w ++ sp ++ [.scalar ']'])
  | item {v w sp sp' vs rest} (h : Spells names (.value v) w) (hsp : Spaces sp)
      (hsp' : Spaces sp') (hrest : Spells names (.items vs) rest) :
      Spells names (.items (v :: vs)) (w ++ sp ++ .scalar ',' :: sp' ++ rest)
  | entry {k u sp sp' v w} (hk : SpellsText k u) (hsp : Spaces sp) (hsp' : Spaces sp')
      (h : Spells names (.value v) w) :
      Spells names (.entry k v) (inQuotes u ++ sp ++ .scalar ':' :: sp' ++ w)
  | lastField {k v w sp before} (h : Spells names (.entry k v) w) (hsp : Spaces sp) :
      Spells names (.fields before (before.put k v)) (w ++ sp ++ [.scalar '\x7d'])
  | field {k v w sp sp' before all rest} (h : Spells names (.entry k v) w) (hsp : Spaces sp)
      (hsp' : Spaces sp') (hrest : Spells names (.fields (before.put k v) all) rest) :
      Spells names (.fields before all) (w ++ sp ++ .scalar ',' :: sp' ++ rest)

/-- A JSON text of a value: what spells it, with blanks around it. -/
def IsTextOf (names : List (String × Value)) (v : Value) (t : Text) : Prop :=
  ∃ sp w sp', Spaces sp ∧ Spells names (.value v) w ∧ Spaces sp' ∧ t = sp ++ w ++ sp'

end Proceedings.Json
