import MiniPascal.Value

/-! # Numerals

A numeral is a run of digits, or two runs with a point between them. The point belongs to the numeral only
if a digit follows it, so `1.` is a numeral and a dot. A run of digits alone stands for an integer, two
runs for the nearest double; a numeral out of the range of its kind has no value. -/

namespace MiniPascal

/-- The digits before the point and the digits after it; no digits after it mean that there is no
point. -/
structure Numeral where
  whole : List Char
  fraction : List Char
deriving DecidableEq, Repr

namespace Numeral

/-- The longest numeral that a text starts with. -/
def ofText (cs : List Char) : Numeral :=
  ⟨cs.takeWhile Char.isDigit,
    match cs.dropWhile Char.isDigit with
    | '.' :: ds => ds.takeWhile Char.isDigit
    | _ => []⟩

/-- The characters of the numeral. -/
def text (n : Numeral) : List Char :=
  if n.fraction.isEmpty then n.whole else n.whole ++ '.' :: n.fraction

/-- The natural number that the digits spell. -/
def digitsValue (ds : List Char) : Nat :=
  Nat.ofDigitChars 10 ds 0

/-- The value of the numeral: the integer if it fits into 64 bits, or the nearest double if that is
finite. -/
def value? (n : Numeral) : Option Value :=
  if n.fraction.isEmpty then
    Value.ofInteger? (digitsValue n.whole)
  else
    let scaled := digitsValue (n.whole ++ n.fraction)
    Value.ofReal? (Binary64.make false (Binary64.nearest scaled (Nat.pow 10 n.fraction.length)))

end Numeral
end MiniPascal
