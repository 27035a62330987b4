/-! # Doubles by sign and magnitude

The bits of a double below its sign are a natural number, its *magnitude*: 52 bits of fraction under 11
bits of exponent. Magnitudes are ordered as the absolute values they stand for, and the finite ones are
those below `infinity`. The absolute value itself is a natural number of *units*, where a unit is
2^-1074, the least positive double.

The central function is `nearest`, which rounds a quotient of natural numbers to a magnitude, a half to
the even neighbour. Reading a numeral, converting an integer and dropping a fractional part all go
through it, so each of them rounds exactly once. -/

namespace MiniPascal.Binary64

/-- How many magnitudes share an exponent. -/
def binade : Nat := 0x10000000000000

/-- The magnitude of the infinities; those of the finite doubles lie below it, those of the
not-a-numbers above it. -/
def infinity : Nat := 0x7FF0000000000000

/-- The bit that is set in the negative doubles. -/
def signBit : Nat := 0x8000000000000000

/-- How many units make one. -/
def unitsPerOne : Nat := Nat.pow 2 1074

/-- The double with this sign and magnitude. -/
def make (negative : Bool) (magnitude : Nat) : Float :=
  Float.ofBits (UInt64.ofNat (if negative then signBit + magnitude else magnitude))

/-- Whether the sign bit is set. -/
def isNegative (x : Float) : Bool :=
  signBit ≤ x.toBits.toNat

/-- The bits below the sign. -/
def magnitude (x : Float) : Nat :=
  x.toBits.toNat % signBit

/-- Neither infinite nor not a number. -/
def isFinite (x : Float) : Bool :=
  magnitude x < infinity

/-- Either zero. -/
def isZero (x : Float) : Bool :=
  magnitude x = 0

/-- The same magnitude under the other sign. -/
def negate (x : Float) : Float :=
  make (!isNegative x) (magnitude x)

/-- How often the significand of a magnitude is doubled: the subnormal magnitudes and the least normal
ones are multiples of one unit, and each further exponent doubles the step. -/
def scale (m : Nat) : Nat :=
  m / binade - 1

/-- The absolute value of a finite magnitude, in units. -/
def units (m : Nat) : Nat :=
  (m - scale m * binade) * Nat.pow 2 (scale m)

/-- The natural number nearest to `num / den`; a half goes to the even neighbour. -/
def roundHalfEven (num den : Nat) : Nat :=
  let q := num / den
  let r := num % den
  if 2 * r < den ∨ (2 * r = den ∧ q % 2 = 0) then q else q + 1

/-- The magnitude nearest to `num / den`; a half goes to the even neighbour. A quotient too large for a
finite double gives `infinity`. -/
def nearest (num den : Nat) : Nat :=
  let n := num * unitsPerOne
  let k := (n / den).log2 - 52
  min infinity (k * binade + roundHalfEven n (den * Nat.pow 2 k))

/-- The double nearest to an integer. -/
def ofInt (n : Int) : Float :=
  make (n < 0) (nearest n.natAbs 1)

/-- The integral part, with the sign kept. Infinities and not-a-numbers stay as they are. -/
def truncate (x : Float) : Float :=
  if isFinite x then make (isNegative x) (nearest (units (magnitude x) / unitsPerOne) 1) else x

/-- Whether a finite magnitude stands for a whole number. -/
def isWhole (m : Nat) : Bool :=
  units m % unitsPerOne = 0

theorem nearest_le_infinity (num den : Nat) : nearest num den ≤ infinity :=
  Nat.min_le_left ..

end MiniPascal.Binary64
