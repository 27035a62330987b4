/-! # Sets of code points

A character property is a set of code points. It is written as the list of its closed ranges, in
ascending order, the way the tables of the standard list them. -/

namespace MiniPascal.Text

/-- A set of code points, as closed ranges in ascending order. -/
structure CodePoints where
  ranges : List (Nat × Nat)

namespace CodePoints

/-- Whether the code point of `c` lies in one of the ranges. -/
def contains (s : CodePoints) (c : Char) : Bool :=
  s.ranges.any fun (first, last) => first ≤ c.toNat && c.toNat ≤ last

theorem contains_iff {s : CodePoints} {c : Char} :
    s.contains c = true ↔ ∃ r ∈ s.ranges, r.1 ≤ c.toNat ∧ c.toNat ≤ r.2 := by
  simp [contains]

end CodePoints
end MiniPascal.Text
