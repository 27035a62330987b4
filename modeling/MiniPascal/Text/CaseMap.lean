/-! # Case maps

A case map sends each character to the characters of its other case. Most characters go to one
character at a fixed distance, and neighbours share that distance, so a map is written as runs; the
few characters that go to several are listed one by one. -/

namespace MiniPascal.Text

/-- The code points `first`, `first + step`, …, `last`, each sent to the one `offset` further on. -/
structure CaseRun where
  first : Nat
  last : Nat
  step : Nat
  offset : Int

/-- Whether the code point `n` is one of the run. -/
def CaseRun.covers (r : CaseRun) (n : Nat) : Bool :=
  r.first ≤ n && n ≤ r.last && (n - r.first) % r.step == 0

/-- A case map: the characters that go to several characters, and the runs of those that go to one. -/
structure CaseMap where
  expansions : List (Nat × List Nat)
  runs : List CaseRun

namespace CaseMap

/-- The code points that the code point `n` is sent to: itself where the map says nothing. -/
def images (m : CaseMap) (n : Nat) : List Nat :=
  match m.expansions.lookup n with
  | some ns => ns
  | none =>
    match m.runs.find? (·.covers n) with
    | some r => [(n + r.offset).toNat]
    | none => [n]

/-- The characters that `c` is sent to. -/
def apply (m : CaseMap) (c : Char) : List Char :=
  (m.images c.toNat).map Char.ofNat

end CaseMap
end MiniPascal.Text
