import Proceedings.Proofs.Wire.Instant

/-! # Readings spelled as they stand

A reading can be written as its own clock shows it, with its offset behind it. With an offset of
whole seconds such a text is read as the same instant in UTC, so it stands for the canonical text.
-/

namespace Proceedings

/-- A reading as it stands, with its offset, as a text. -/
def DateTime.isoText (d : DateTime) (mark : Char) : Text := Text.ofChars (d.isoChars mark)

namespace Iso

theorem isFraction_micro (d : DateTime) :
    IsFraction d.micro
      (Text.ofChars (if d.micro = 0 then [] else '.' :: fixedDigits 6 d.micro)) := by
  split
  · next h =>
    rw [h]
    exact .none
  · exact .micros d.micro_lt

theorem read_isoText {d : DateTime} {o : Offset} (hoffset : d.offset = some o)
    (hwhole : o.micros % 1000000 = 0) (mark : Char) :
    read (d.isoText mark) = .ok { d with place := none } := by
  have htext : d.isoText mark = Text.ofChars (d.secondsChars mark ++
      (if d.micro = 0 then [] else '.' :: fixedDigits 6 d.micro) ++ o.chars) := by
    rw [DateTime.isoText, DateTime.isoChars, hoffset]
  rw [htext, read_written d mark (isFraction_micro d) o hwhole, ← hoffset]

end Iso

theorem Offset.exists_chars_concat (o : Offset) :
    ∃ before width n, o.chars = before ++ fixedDigits (width + 1) n := by
  let n := o.micros.natAbs
  let hours := (if o.micros < 0 then '-' else '+') :: fixedDigits 2 (n / 3600000000) ++ [':']
  let minutes := fixedDigits 2 (n / 60000000 % 60)
  let seconds := if n % 60000000 = 0 then [] else ':' :: fixedDigits 2 (n / 1000000 % 60)
  by_cases hmicros : n % 1000000 = 0
  · by_cases hseconds : n % 60000000 = 0
    · exact ⟨hours, 1, n / 60000000 % 60, by simp [chars, hours, n, hmicros, hseconds]⟩
    · refine ⟨hours ++ minutes ++ [':'], 1, n / 1000000 % 60, ?_⟩
      simp [chars, hours, minutes, n, hmicros, hseconds]
  · refine ⟨hours ++ minutes ++ seconds ++ ['.'], 5, n % 1000000, ?_⟩
    simp [chars, hours, minutes, seconds, n, hmicros]

namespace Wire

variable {d : DateTime} {o : Offset}

/-- A text that ends in a digit is read as it is. -/
theorem spelledOut_concat_digits (before : Text) (width n : Nat) :
    spelledOut (before ++ digitsText (width + 1) n) = before ++ digitsText (width + 1) n := by
  have hdigit := (isAsciiDigit_ofNat (Nat.mod_lt n (show 10 > 0 by decide))).1
  have hend : endsInUtc (before ++ digitsText (width + 1) n) = false := by
    have hne (c : Char) (hc : (CodePoint.scalar c).isAsciiDigit = false) :
        CodePoint.scalar (Char.ofNat (0x30 + n % 10)) ≠ .scalar c := by
      intro h
      rw [h, hc] at hdigit
      cases hdigit
    rw [digitsText_succ, ← List.append_assoc]
    simp only [endsInUtc, List.getLast?_concat, Option.some.injEq, decide_eq_false (hne 'Z' rfl),
      decide_eq_false (hne 'z' rfl), Bool.or_self]
  rw [spelledOut, hend]
  rfl

theorem spelledOut_isoText (hoffset : d.offset = some o) (mark : Char) :
    spelledOut (d.isoText mark) = d.isoText mark := by
  obtain ⟨before, width, n, hchars⟩ := o.exists_chars_concat
  have htext : ∃ before, d.isoText mark = before ++ digitsText (width + 1) n := by
    rw [DateTime.isoText, DateTime.isoChars, hoffset]
    dsimp only
    rw [hchars, ← List.append_assoc, Text.ofChars, List.map_append]
    exact ⟨_, rfl⟩
  obtain ⟨before, htext⟩ := htext
  rw [htext, spelledOut_concat_digits]

/-- The text of a reading as it stands, with an offset of whole seconds, is read as the UTC reading
of the same instant, which has the same canonical text. -/
theorem parseInstant_isoText (hoffset : d.offset = some o) (hwhole : o.micros % 1000000 = 0)
    (h : d.HasUtc) (mark : Char) :
    ∃ u s, parseInstant (.text (d.isoText mark)) = .ok u ∧ u.offset = some .utc ∧
      u.instant? = d.instant? ∧ formatInstant (.time u) = .ok s ∧
      formatInstant (.time d) = .ok s := by
  -- What is read was not taken in any zone, but is at the same instant.
  let e : DateTime := { d with place := none }
  have he : e.HasUtc := h
  have hread : Iso.read (spelledOut (d.isoText mark)) = .ok e := by
    rw [spelledOut_isoText hoffset, Iso.read_isoText hoffset hwhole]
  have hsame : e.utc = d.utc := (he.utc_eq_iff h).mpr rfl
  have hne : d.isoText mark ≠ [] := by
    simp [DateTime.isoText, DateTime.isoChars, DateTime.secondsChars, Text.ofChars]
  obtain ⟨hutc, hself⟩ := utc_utc h
  refine ⟨d.utc, d.canonicalText, hsame ▸ parseInstant_of_read hne hread he, h.utc_spec.1,
    h.utc_spec.2, ?_, ?_⟩
  · apply formatInstant_ok_iff.mpr
    exact ⟨_, rfl, hutc, by rw [DateTime.canonicalText, DateTime.canonicalText, hself]⟩
  · exact formatInstant_ok_iff.mpr ⟨d, rfl, h, rfl⟩

/-- New Year by a clock that is fifteen seconds more than half past five hours ahead. -/
def newYear : DateTime :=
  ⟨⟨63839664000000000, by decide⟩, some ⟨19815000000, by decide, by decide⟩, none⟩

theorem parseInstant_isoText_newYear :
    newYear.HasUtc ∧ newYear.isoText 'T' = Text.ofString "2024-01-01T00:00:00+05:30:15" ∧
      ∃ u, parseInstant (.text (newYear.isoText 'T')) = .ok u ∧
        u.instant? = newYear.instant? ∧
        formatInstant (.time u) = .ok (Text.ofString "2023-12-31T18:29:45Z") := by
  have hutc : newYear.HasUtc := DateTime.hasUtc_iff.mpr ⟨_, rfl, by decide⟩
  obtain ⟨u, s, hparse, -, hinstant, hwritten, hsame⟩ :=
    parseInstant_isoText (d := newYear) rfl rfl hutc 'T'
  have htext : formatInstant (.time newYear) = .ok (Text.ofString "2023-12-31T18:29:45Z") := by cbv
  obtain rfl := Except.ok.inj (hsame.symm.trans htext)
  exact ⟨hutc, by cbv, u, hparse, hinstant, hwritten⟩

end Wire

end Proceedings
