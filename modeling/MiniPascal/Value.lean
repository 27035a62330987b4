import MiniPascal.Binary64.Shortest

/-! # Values

A value is a 64-bit integer or a double. The kind is part of the value: no integer equals a real, and
the text of a value shows which of the two it is, since only a real has a point. -/

namespace MiniPascal

/-- What expressions evaluate to and variables hold. -/
inductive Value where
  | int (n : Int64)
  | real (x : Float)
deriving DecidableEq

namespace Value

/-- The integer `n`, if it fits into 64 bits. -/
def ofInteger? (n : Int) : Option Value :=
  if Int64.minValue.toInt ≤ n ∧ n ≤ Int64.maxValue.toInt then some (int (Int64.ofInt n)) else none

/-- The real `x`, if it is finite. -/
def ofReal? (x : Float) : Option Value :=
  if Binary64.isFinite x then some (real x) else none

/-- The value as a double: an integer becomes the nearest one. -/
def asReal : Value → Float
  | int n => Binary64.ofInt n.toInt
  | real x => x

/-- The comparison of the language: reals compare as numbers, so the two zeros agree and
not-a-number agrees with nothing, and values of different kinds never agree. -/
def agrees : Value → Value → Bool
  | int m, int n => m == n
  | real x, real y => x == y
  | _, _ => false

/-- The text of a finite magnitude: every digit of a whole number and a zero after the point, or else
the fewest digits that read back. The form is always positional. -/
def magnitudeText (m : Nat) : List Char :=
  if Binary64.isWhole m then
    Nat.toDigits 10 (Binary64.units m / Binary64.unitsPerOne) ++ ['.', '0']
  else
    (Binary64.shortest m).positional

/-- The text of a real. -/
def realText (x : Float) : String :=
  let m := Binary64.magnitude x
  let sign := if Binary64.isNegative x then "-" else ""
  if m > Binary64.infinity then "NaN"
  else if m = Binary64.infinity then sign ++ "inf"
  else sign ++ String.ofList (magnitudeText m)

/-- The text of a value. -/
def text : Value → String
  | int n => toString n.toInt
  | real x => realText x

end Value
end MiniPascal
