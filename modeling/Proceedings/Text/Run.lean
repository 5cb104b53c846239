import Proceedings.Text.Basic

/-! # Runs of code points

Properties of code points are listed by ranges, which name their first and last members, or by runs
of code points that lie one or two apart.
-/

namespace Proceedings.CodePoint

/-- Whether one of the ranges holds a code point. -/
def isIn (p : CodePoint) (ranges : List (Nat × Nat)) : Bool :=
  ranges.any fun (first, last) => first ≤ p.toNat && p.toNat ≤ last

/-- Numbers that lie `step` apart. -/
structure Run where
  first : Nat
  count : Nat
  step : Nat

def Run.contains (r : Run) (n : Nat) : Bool :=
  r.first ≤ n && (n - r.first) % r.step == 0 && (n - r.first) / r.step < r.count

/-- Letters in a run whose other case lies at one distance from them. -/
structure CaseRun extends Run where
  distance : Int

/-- The other case of a letter, if one of the runs holds the letter. -/
def otherCase? (p : CodePoint) (runs : List CaseRun) : Option CodePoint :=
  (runs.find? (·.contains p.toNat)).map fun r => ofNat (Int.toNat (p.toNat + r.distance))

end Proceedings.CodePoint
