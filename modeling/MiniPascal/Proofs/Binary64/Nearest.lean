import Mathlib.Data.Nat.Dist
import Mathlib.Tactic.Ring
import MiniPascal.Binary64.Basic

/-! # Rounding to the nearest double

The absolute values of the magnitudes grow with the magnitudes, so a quotient lies between those of two
neighbours, and one of the two is nearest to it. In between only the remainder of a division is compared
with its half. -/

namespace MiniPascal.Binary64

/-- How far the value of a magnitude is from `num / den`, in units and times `den`. -/
def distance (num den m : Nat) : Nat :=
  Nat.dist (units m * den) (num * unitsPerOne)

/-- No other magnitude up to that of infinity is as near to `num / den`, unless `m` is the even one of two. -/
structure IsNearest (num den m : Nat) : Prop where
  le_infinity : m ≤ infinity
  nearest : ∀ k ≤ infinity, k ≠ m →
    distance num den m < distance num den k ∨ distance num den m = distance num den k ∧ m % 2 = 0

/-! ### Values of magnitudes -/

theorem binade_eq : binade = 2 ^ 52 := by decide

theorem two_binade : 2 * binade = 2 ^ 53 := by decide

/-- A number of steps within or at the end of a range of exponent `k`. -/
theorem units_steps {k q : Nat} (upper : q ≤ 2 * binade) (lower : k = 0 ∨ binade ≤ q) :
    units (k * binade + q) = q * 2 ^ k := by
  have pos : 0 < binade := by decide
  have parts : (k * binade + q) / binade = k + q / binade := by
    rw [Nat.add_comm, Nat.add_mul_div_right _ _ pos, Nat.add_comm]
  unfold units scale
  rw [parts]
  simp only [Nat.pow_eq]
  rcases Nat.lt_or_ge q binade with small | large
  · obtain rfl : k = 0 := by omega
    rw [Nat.div_eq_of_lt small]
    simp
  · rcases Nat.lt_or_ge q (2 * binade) with inner | last
    · have : q / binade = 1 := Nat.div_eq_of_lt_le (by omega) (by omega)
      rw [this, Nat.add_sub_cancel, Nat.add_sub_cancel_left]
    · -- The last step of a range is the first one of the next, where a step is twice as long.
      obtain rfl : q = 2 * binade := by omega
      rw [Nat.mul_div_cancel _ pos]
      have : k * binade + 2 * binade - (k + 1) * binade = binade := by
        rw [← Nat.add_mul, ← Nat.sub_mul]
        simp
      rw [show k + 2 - 1 = k + 1 from rfl, this, Nat.pow_succ]
      ring

theorem exists_steps (m : Nat) : ∃ k q, m = k * binade + q ∧ q < 2 * binade ∧ (k = 0 ∨ binade ≤ q) := by
  rcases Nat.lt_or_ge m binade with small | large
  · exact ⟨0, m, by simp, by omega, .inl rfl⟩
  · have pos : 0 < binade := by decide
    have whole := Nat.div_add_mod m binade
    have rest := Nat.mod_lt m pos
    obtain ⟨k, hk⟩ : ∃ k, m / binade = k + 1 := Nat.exists_eq_add_of_le' (Nat.div_pos large pos)
    refine ⟨k, binade + m % binade, ?_, by omega, .inr (by omega)⟩
    rw [hk] at whole
    rw [← Nat.add_assoc, ← Nat.succ_mul, Nat.mul_comm]
    exact whole.symm

theorem units_lt_succ (m : Nat) : units m < units (m + 1) := by
  obtain ⟨k, q, rfl, upper, lower⟩ := exists_steps m
  rw [Nat.add_assoc, units_steps (by omega) lower, units_steps (by omega) (by omega)]
  exact Nat.mul_lt_mul_of_pos_right (Nat.lt_succ_self q) (Nat.two_pow_pos k)

theorem units_strictMono : StrictMono units :=
  strictMono_nat_of_lt_succ units_lt_succ

/-! ### Neighbours -/

section Neighbours
variable {num den f m : Nat}

/-- Of the two magnitudes around a quotient, the nearer one is nearest, or the even one of two as near. -/
theorem IsNearest.of_neighbours (below : units f * den ≤ num * unitsPerOne)
    (above : num * unitsPerOne < units (f + 1) * den) (le : m ≤ infinity)
    (chosen : m = f ∧ (distance num den f < distance num den (f + 1) ∨
        distance num den f = distance num den (f + 1) ∧ f % 2 = 0) ∨
      m = f + 1 ∧ (distance num den (f + 1) < distance num den f ∨
        distance num den (f + 1) = distance num den f ∧ (f + 1) % 2 = 0)) : IsNearest num den m := by
  have pos : 0 < den := by
    rcases Nat.eq_zero_or_pos den with rfl | pos
    · simp at above
    · exact pos
  refine ⟨le, fun k _ ne => ?_⟩
  -- Values rise with the magnitude, so outside of the two everything is farther than the end on its side.
  have far : k < f → distance num den f < distance num den k := by
    intro lt
    have := Nat.mul_lt_mul_of_pos_right (units_strictMono lt) pos
    simp only [distance, Nat.dist]
    omega
  have far' : f + 1 < k → distance num den (f + 1) < distance num den k := by
    intro lt
    have := Nat.mul_lt_mul_of_pos_right (units_strictMono lt) pos
    simp only [distance, Nat.dist]
    omega
  rcases Nat.lt_trichotomy k f with lt | rfl | gt
  · have := far lt
    rcases chosen with ⟨rfl, chosen⟩ | ⟨rfl, chosen⟩ <;> omega
  · rcases chosen with ⟨rfl, chosen⟩ | ⟨rfl, chosen⟩
    · exact absurd rfl ne
    · exact chosen
  · rcases Nat.eq_or_lt_of_le gt with rfl | lt
    · rcases chosen with ⟨rfl, chosen⟩ | ⟨rfl, chosen⟩
      · exact chosen
      · exact absurd rfl ne
    · have := far' lt
      rcases chosen with ⟨rfl, chosen⟩ | ⟨rfl, chosen⟩ <;> omega

theorem IsNearest.of_infinity (pos : 0 < den) (above : units infinity * den ≤ num * unitsPerOne) :
    IsNearest num den infinity := by
  refine ⟨Nat.le_refl _, fun k le ne => .inl ?_⟩
  have := Nat.mul_lt_mul_of_pos_right (units_strictMono (Nat.lt_of_le_of_ne le ne)) pos
  simp only [distance, Nat.dist]
  omega

theorem IsNearest.unique {k : Nat} (pos : 0 < den) (h : IsNearest num den m) (h' : IsNearest num den k) : m = k := by
  have apart {m k : Nat} (h : IsNearest num den m) (h' : IsNearest num den k) : ¬m < k := by
    intro lt
    -- Both would be even and as near, and then the one after `m` is nearer than either.
    have even := h.nearest k h'.le_infinity (Nat.ne_of_gt lt)
    have even' := h'.nearest m h.le_infinity (Nat.ne_of_lt lt)
    have between := h.nearest (m + 1) (by have := h'.le_infinity; omega) (by omega)
    have less := Nat.mul_lt_mul_of_pos_right (units_lt_succ m) pos
    have less' := Nat.mul_lt_mul_of_pos_right (units_strictMono (show m + 1 < k by omega)) pos
    simp only [distance, Nat.dist] at even even' between
    omega
  exact Nat.le_antisymm (Nat.le_of_not_lt (apart h' h)) (Nat.le_of_not_lt (apart h h'))

/-- The steps below a quotient, where the range is chosen by the length of its integral part. -/
theorem steps_of_log2 (n : Nat) :
    n / 2 ^ (n.log2 - 52) < 2 * binade ∧ (n.log2 - 52 = 0 ∨ binade ≤ n / 2 ^ (n.log2 - 52)) := by
  have pos := Nat.two_pow_pos (n.log2 - 52)
  constructor
  · rw [Nat.div_lt_iff_lt_mul pos]
    calc n < 2 ^ (n.log2 + 1) := Nat.lt_log2_self
      _ ≤ 2 ^ (53 + (n.log2 - 52)) := Nat.pow_le_pow_right (by decide) (by omega)
      _ = 2 * binade * 2 ^ (n.log2 - 52) := by rw [Nat.pow_add, two_binade]
  · rcases Nat.eq_zero_or_pos (n.log2 - 52) with zero | large
    · exact .inl zero
    · refine .inr ((Nat.le_div_iff_mul_le pos).mpr ?_)
      have ne : n ≠ 0 := by
        rintro rfl
        simp at large
      calc binade * 2 ^ (n.log2 - 52) = 2 ^ (52 + (n.log2 - 52)) := by rw [Nat.pow_add, binade_eq]
        _ = 2 ^ n.log2 := by rw [Nat.add_sub_cancel' (by omega)]
        _ ≤ n := Nat.log2_self_le ne

/-- A quotient between `q` steps and one more is nearest to the end that half of a step decides. -/
theorem IsNearest.of_steps {k q r step : Nat} (pos : 0 < den) (upper : q < 2 * binade) (lower : k = 0 ∨ binade ≤ q)
    (hstep : step = den * 2 ^ k) (whole : num * unitsPerOne = step * q + r) (rest : r < step) :
    IsNearest num den
      (min infinity (k * binade + if 2 * r < step ∨ (2 * r = step ∧ q % 2 = 0) then q else q + 1)) := by
  have value : units (k * binade + q) * den = step * q := by
    rw [units_steps (Nat.le_of_lt upper) lower, hstep]
    ring
  have value' : units (k * binade + q + 1) * den = step * q + step := by
    rw [Nat.add_assoc, units_steps (by omega) (by omega), hstep]
    ring
  have parity : (k * binade + q) % 2 = q % 2 := by
    simp only [binade]
    omega
  -- From here on only the two values around the quotient count, and no longer the range they are in.
  clear hstep upper lower
  obtain ⟨f, hf⟩ : ∃ f, f = k * binade + q := ⟨_, rfl⟩
  rw [← hf] at value value' parity
  rcases Nat.lt_or_ge f infinity with finite | overflow
  · refine .of_neighbours (f := f) (by omega) (by omega) (Nat.min_le_left _ _) ?_
    have near : distance num den f = r := by
      simp only [distance, Nat.dist, value, whole]
      omega
    have near' : distance num den (f + 1) = step - r := by
      simp only [distance, Nat.dist, value', whole]
      omega
    rw [near, near']
    split
    · rw [← hf, Nat.min_eq_right (Nat.le_of_lt finite)]
      exact .inl ⟨rfl, by omega⟩
    · rw [← Nat.add_assoc, ← hf, Nat.min_eq_right finite]
      exact .inr ⟨rfl, by omega⟩
  · -- If even the lower end is not finite, both ends are cut to the infinity.
    have capped :
        min infinity (k * binade + if 2 * r < step ∨ (2 * r = step ∧ q % 2 = 0) then q else q + 1) = infinity := by
      refine Nat.min_eq_left ?_
      split
      · rwa [← hf]
      · rw [← Nat.add_assoc, ← hf]
        exact Nat.le_succ_of_le overflow
    rw [capped]
    have := Nat.mul_le_mul_right den (units_strictMono.monotone overflow)
    exact .of_infinity pos (by omega)

/-- The function `nearest` gives the magnitude that is nearest. -/
theorem nearest_isNearest (pos : 0 < den) : IsNearest num den (nearest num den) := by
  have steps := steps_of_log2 (num * unitsPerOne / den)
  unfold nearest roundHalfEven
  simp only [Nat.pow_eq]
  generalize (num * unitsPerOne / den).log2 - 52 = k at steps ⊢
  rw [Nat.div_div_eq_div_mul] at steps
  exact .of_steps pos steps.1 steps.2 rfl (Nat.div_add_mod _ _).symm
    (Nat.mod_lt _ (Nat.mul_pos pos (Nat.two_pow_pos k)))

end Neighbours
end MiniPascal.Binary64
