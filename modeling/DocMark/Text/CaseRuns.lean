-- SUMMARY: Case mappings given as runs of code points with a common offset.

/-!
# Case mappings

Letters of two cases mostly stand in runs: the same offset for every code point, or for every
second one. A case mapping is a list of such runs.
-/
namespace DocMark.Text

/-- The code points `first`, `first + step`, up to `last`, which all map by the same `offset`. -/
structure CaseRun where
  first : Nat
  last : Nat
  step : Nat
  offset : Int
deriving DecidableEq, Inhabited, Repr

abbrev CaseRuns := List CaseRun

def CaseRun.has (r : CaseRun) (n : Nat) : Bool :=
  r.first ≤ n && n ≤ r.last && (n - r.first) % r.step == 0

/-- The character that the runs map `c` to; one in no run stays. -/
def CaseRuns.map (runs : CaseRuns) (c : Char) : Char :=
  match runs.find? (·.has c.toNat) with
  | some r => Char.ofNat (c.toNat + r.offset).toNat
  | none => c

end DocMark.Text
