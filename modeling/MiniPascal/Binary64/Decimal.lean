/-! # Decimal numerals

A positive number in decimal is its significant digits and the place of its point. It has two written
forms: positional, which always shows a point with a digit on both sides, and scientific, with one digit
before the point and the exponent after an `e`. -/

namespace MiniPascal

/-- The number 0.d₁d₂d₃… × 10^`point`, where d₁, d₂, … are the `digits`. -/
structure Decimal where
  digits : List Char
  point : Int
deriving DecidableEq, Repr

namespace Decimal

/-- The number `coefficient` × 10^`exponent`, without the zeros at the end of the coefficient. -/
def ofScaled (coefficient : Nat) (exponent : Int) : Decimal :=
  let ds := Nat.toDigits 10 coefficient
  ⟨(ds.reverse.dropWhile (· == '0')).reverse, exponent + ds.length⟩

/-- The positional form: all digits, with zeros up to the point where the digits do not reach it, and a
digit on both sides of the point. -/
def positional (d : Decimal) : List Char :=
  if d.point ≤ 0 then
    '0' :: '.' :: (List.replicate (-d.point).toNat '0' ++ d.digits)
  else
    let n := d.point.toNat
    let whole := d.digits.take n ++ List.replicate (n - d.digits.length) '0'
    let fraction := d.digits.drop n
    whole ++ '.' :: (if fraction.isEmpty then ['0'] else fraction)

/-- The scientific form: no point after a lone digit, no sign before a positive exponent. -/
def scientific (d : Decimal) : List Char :=
  let significand :=
    match d.digits with
    | [] => ['0']
    | [first] => [first]
    | first :: others => first :: '.' :: others
  significand ++ 'e' :: (toString (d.point - 1)).toList

end Decimal
end MiniPascal
