import MiniPascal.Binary64.Basic
import MiniPascal.Binary64.Decimal

/-! # Shortest decimals

The shortest decimal of a double is the one with the fewest digits that reads back to it. On the grid of
the decimals with a given number of digits only the two neighbours of the exact value can be the nearest
that reads back, so those two are tried on ever finer grids. Where both read back the nearer one is
taken, and the larger one if they are equally near. Seventeen digits always suffice. -/

namespace MiniPascal.Binary64

/-- How many units of 10^-1074 make one. -/
def exactPerOne : Nat := Nat.pow 10 1074

/-- The absolute value of a finite magnitude in units of 10^-1074, which is a whole number of them. -/
def exact (m : Nat) : Nat :=
  units m * Nat.pow 5 1074

/-- Whether `n` units of 10^-1074 read back to the magnitude `m`. -/
def readsBack (m n : Nat) : Bool :=
  nearest n exactPerOne == m

/-- Of the two multiples of `step` around `v`, the one that `fits`: the nearer one if both do, and the
larger one of two equally near. The result counts steps. -/
def neighbour? (fits : Nat → Bool) (v step : Nat) : Option Nat :=
  let low := v / step
  let high := low + 1
  match fits (low * step), fits (high * step) with
  | true, true => some (if v - low * step < high * step - v then low else high)
  | true, false => some low
  | false, true => some high
  | false, false => none

/-- The decimal with the fewest digits that reads back to the positive finite magnitude `m`. -/
def shortest (m : Nat) : Decimal :=
  let v := exact m
  let length := (Nat.toDigits 10 v).length
  let found := (List.range' 1 17).findSome? fun n =>
    let dropped := length - n
    (neighbour? (readsBack m) v (Nat.pow 10 dropped)).map fun c => Decimal.ofScaled c (dropped - 1074)
  found.getD (Decimal.ofScaled v (-1074))

end MiniPascal.Binary64
