import Mathlib
import MiniPascal.Binary64.Basic

/-! # The bits of doubles

A double is determined by its bits, and every pattern of bits is one of a double but for the
not-a-numbers, of which there is a single one. So a sign and a magnitude up to that of the infinities
determine a double, and `make` and the pair of `isNegative` and `magnitude` undo each other. -/

namespace MiniPascal.Binary64

open Float.Model Float.Model.UnpackedFloat

theorem toBitVec_ofBitVec (s : BitVec 1) : (Sign.ofBitVec s).toBitVec = s := by
  revert s
  decide

/-- The sign, the exponent and the mantissa are all the bits there are. -/
theorem components_eq_bits (v : BitVec Format.binary64.numBits) :
    packComponents .binary64 (.ofBitVec (unpackSign v)) (unpackExponent v) (unpackMantissa v) = v := by
  unfold packComponents
  rw [toBitVec_ofBitVec]
  apply BitVec.eq_of_toNat_eq
  rw [BitVec.toNat_append, BitVec.toNat_append]
  simp only [unpackSign, unpackExponent, unpackMantissa, BitVec.toNat_cast, BitVec.extractLsb_toNat]
  rw [← Nat.shiftLeft_add_eq_or_of_lt (Nat.mod_lt _ (by decide)),
    ← Nat.shiftLeft_add_eq_or_of_lt (Nat.mod_lt _ (by decide))]
  have : v.toNat < 2 ^ 64 := v.isLt
  simp only [Nat.shiftLeft_eq, Nat.shiftRight_eq_div_pow]
  simp only [Nat.reduceAdd, Nat.reduceSub, Nat.reducePow, Nat.div_one]
  omega

/-- A significand without its leading bit is packed as it is, with the exponent zero. -/
theorem pack_subnormal (sign : Sign) (mantissa : BitVec Format.binary64.mantissaBitsWithoutImplicit)
    (pos : 0 < mantissa.toNat) :
    UnpackedFloat.pack .binary64 (.finite sign mantissa.toNat
        (((0#_ : BitVec Format.binary64.exponentBits).toNat : Int) -
          (↑Format.binary64.exponentBias + ↑Format.binary64.mantissaBitsWithoutImplicit) + 1) pos) =
      packComponents .binary64 sign (0#_) mantissa := by
  have short : ¬mantissa.toNat.log2 + 1 = Format.binary64.mantissaBits := by
    have := (Nat.log2_lt (k := 52) (Nat.ne_of_gt pos)).mpr mantissa.isLt
    show ¬_ = 53
    omega
  unfold UnpackedFloat.pack
  simp only [BitVec.toNat_ofNat]
  rw [if_neg (by decide), if_neg short, BitVec.ofNat_toNat, BitVec.setWidth_eq]

/-- The leading bit of a significand is left out, and only the exponent tells that it is there. -/
theorem pack_normal (sign : Sign) {exponent : BitVec Format.binary64.exponentBits} (ne : exponent ≠ -1#_)
    (mantissa : BitVec Format.binary64.mantissaBitsWithoutImplicit) (pos : 0 < (1#1 ++ mantissa).toNat) :
    UnpackedFloat.pack .binary64 (.finite sign (1#1 ++ mantissa).toNat
        ((exponent.toNat : Int) -
          (↑Format.binary64.exponentBias + ↑Format.binary64.mantissaBitsWithoutImplicit)) pos) =
      packComponents .binary64 sign exponent mantissa := by
  have mantissa_lt : mantissa.toNat < 2 ^ 52 := mantissa.isLt
  have exponent_lt : exponent.toNat < 2 ^ 11 := exponent.isLt
  have exponent_ne : exponent.toNat ≠ 2047 := fun h => ne (BitVec.eq_of_toNat_eq (by rw [h]; rfl))
  have biased : ((exponent.toNat : Int) - (↑Format.binary64.exponentBias + ↑(52 : Nat)) +
      ↑Format.binary64.exponentBias + ↑(52 : Nat)).toNat = exponent.toNat := by
    omega
  have significand : (1#1 ++ mantissa).toNat = 2 ^ 52 + mantissa.toNat := by
    rw [BitVec.toNat_append, ← Nat.shiftLeft_add_eq_or_of_lt mantissa.isLt]
    rfl
  have leading : (2 ^ 52 + mantissa.toNat).log2 + 1 = Format.binary64.mantissaBits := by
    show _ + 1 = 53
    rw [(Nat.log2_eq_iff (k := 52) (by omega)).mpr (by omega)]
  have dropped : BitVec.ofNat 52 (2 ^ 52 + mantissa.toNat) = mantissa := by
    apply BitVec.eq_of_toNat_eq
    rw [BitVec.toNat_ofNat, Nat.add_mod_left, Nat.mod_eq_of_lt mantissa_lt]
  unfold UnpackedFloat.pack
  simp only
  rw [biased, if_neg (by omega), significand, if_pos leading, BitVec.ofNat_toNat, BitVec.setWidth_eq, dropped]

/-- Bits that are no not-a-number survive unpacking and packing. -/
theorem pack_unpack {v : BitVec Format.binary64.numBits}
    (h : unpackExponent v = (-1#_) → unpackMantissa v = 0#_) :
    UnpackedFloat.pack .binary64 (UnpackedFloat.unpack .binary64 v) = v := by
  have whole := components_eq_bits v
  unfold UnpackedFloat.unpack
  simp only
  split
  · next special =>
    rw [if_pos (h special)]
    rw [special, h special] at whole
    exact whole
  next finite =>
  split
  · next subnormal =>
    rw [subnormal] at whole
    split
    · next zero =>
      rw [zero] at whole
      exact whole
    · next nonzero =>
      simp only [subnormal]
      exact (pack_subnormal _ _ _).trans whole
  · exact (pack_normal _ finite _ _).trans whole

theorem toBits_ofBits {b : UInt64} (h : b.toNat % signBit ≤ infinity) : (Float.ofBits b).toBits = b := by
  show UInt64.ofBitVec (UnpackedFloat.pack .binary64 (UnpackedFloat.unpack .binary64 b.toBitVec)) = b
  rw [pack_unpack]
  intro special
  have special := congrArg BitVec.toNat special
  apply BitVec.eq_of_toNat_eq
  simp only [unpackExponent, unpackMantissa, BitVec.toNat_cast, BitVec.extractLsb_toNat,
    Nat.shiftRight_eq_div_pow] at special ⊢
  rw [show b.toBitVec.toNat = b.toNat from rfl] at special ⊢
  simp only [signBit, infinity] at h
  simp at special ⊢
  omega

theorem eq_of_toBits_eq {x y : Float} (h : x.toBits = y.toBits) : x = y := by
  obtain ⟨⟨a, _⟩⟩ := x
  obtain ⟨⟨b, _⟩⟩ := y
  obtain rfl : a = b := h
  rfl

theorem toNat_toBits_make {negative : Bool} {m : Nat} (h : m ≤ infinity) :
    (make negative m).toBits.toNat = if negative then signBit + m else m := by
  have bits : (UInt64.ofNat (if negative then signBit + m else m)).toNat =
      if negative then signBit + m else m := by
    rw [UInt64.toNat_ofNat_of_lt']
    show _ < 0x10000000000000000
    simp only [signBit, infinity] at h ⊢
    split <;> omega
  unfold make
  rw [toBits_ofBits, bits]
  rw [bits]
  simp only [signBit, infinity] at h ⊢
  split <;> omega

/-- The magnitude of a double is the one it was made with. -/
theorem magnitude_make {negative : Bool} {m : Nat} (h : m ≤ infinity) :
    magnitude (make negative m) = m := by
  unfold magnitude
  rw [toNat_toBits_make h]
  simp only [signBit, infinity] at h ⊢
  split <;> omega

/-- The sign of a double is the one it was made with. -/
theorem isNegative_make {negative : Bool} {m : Nat} (h : m ≤ infinity) :
    isNegative (make negative m) = negative := by
  unfold isNegative
  rw [toNat_toBits_make h]
  simp only [signBit, infinity] at h ⊢
  cases negative
  · simp only [Bool.false_eq_true, if_false, decide_eq_false_iff_not]
    omega
  · simp only [if_true, decide_eq_true_eq]
    omega

/-- A double is made of its sign and its magnitude. -/
theorem make_isNegative_magnitude {x : Float} (h : magnitude x ≤ infinity) :
    make (isNegative x) (magnitude x) = x := by
  apply eq_of_toBits_eq
  apply UInt64.toNat.inj
  rw [toNat_toBits_make h]
  have := x.toBits.toNat_lt
  unfold isNegative magnitude signBit
  simp only [decide_eq_true_eq]
  split <;> omega

/-! ### Opposites -/

section
variable {x : Float} (finite : isFinite x = true)
include finite

theorem magnitude_negate : magnitude (negate x) = magnitude x :=
  magnitude_make (Nat.le_of_lt (of_decide_eq_true finite))

theorem isFinite_negate : isFinite (negate x) = true := by
  rw [isFinite, magnitude_negate finite]
  exact finite

theorem isNegative_negate : isNegative (negate x) = !isNegative x :=
  isNegative_make (Nat.le_of_lt (of_decide_eq_true finite))

theorem negate_negate : negate (negate x) = x := by
  rw [negate, magnitude_negate finite, isNegative_negate finite, Bool.not_not]
  exact make_isNegative_magnitude (Nat.le_of_lt (of_decide_eq_true finite))

end
end MiniPascal.Binary64
