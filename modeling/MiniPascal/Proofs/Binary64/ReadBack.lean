import MiniPascal.Binary64.Shortest
import MiniPascal.Proofs.Binary64.Nearest

/-! # Decimals that read back

Rounding depends on a quotient only, and not on how it is written. A quotient that is the value of a
magnitude is rounded to that magnitude. So the exact decimal of a double reads back to it, and the shortest
decimal does because it was chosen so. -/

namespace MiniPascal.Binary64

section Quotient
variable {num den num' den' k m : Nat}

theorem distance_mul : distance (num * k) (den * k) m = distance num den m * k := by
  unfold distance
  rw [← Nat.mul_assoc, Nat.mul_right_comm num, Nat.dist_mul_right]

theorem IsNearest.mul (pos : 0 < k) (h : IsNearest num den m) : IsNearest (num * k) (den * k) m := by
  refine ⟨h.le_infinity, fun j le ne => ?_⟩
  rw [distance_mul, distance_mul, Nat.mul_lt_mul_right pos, Nat.mul_left_inj (Nat.ne_of_gt pos)]
  exact h.nearest j le ne

theorem nearest_mul (pos : 0 < den) (hk : 0 < k) : nearest (num * k) (den * k) = nearest num den :=
  (nearest_isNearest (Nat.mul_pos pos hk)).unique (Nat.mul_pos pos hk) ((nearest_isNearest pos).mul hk)

/-- Equal quotients are rounded alike. -/
theorem nearest_congr (pos : 0 < den) (pos' : 0 < den') (same : num * den' = num' * den) :
    nearest num den = nearest num' den' :=
  calc nearest num den
    _ = nearest (num * den') (den * den') := (nearest_mul pos pos').symm
    _ = nearest (num' * den) (den' * den) := by rw [same, Nat.mul_comm den]
    _ = nearest num' den' := nearest_mul pos' pos

/-- The value of a magnitude is rounded to it. -/
theorem nearest_of_value (pos : 0 < den) (le : m ≤ infinity) (value : num * unitsPerOne = units m * den) :
    nearest num den = m := by
  have exact_ : distance num den m = 0 := by
    rw [distance, value, Nat.dist_self]
  refine (nearest_isNearest pos).unique pos ⟨le, fun k _ ne => .inl ?_⟩
  rw [exact_, Nat.pos_iff_ne_zero, distance]
  intro none
  rw [value] at none
  exact ne (units_strictMono.injective (Nat.mul_right_cancel pos (Nat.eq_of_dist_eq_zero none)))

end Quotient

/-! ### Shortest decimals -/

theorem exactPerOne_pos : 0 < exactPerOne := by
  unfold exactPerOne
  generalize 1074 = n
  exact Nat.pow_pos (by decide)

theorem exactPerOne_eq : exactPerOne = Nat.pow 5 1074 * unitsPerOne := by
  unfold exactPerOne unitsPerOne
  generalize 1074 = n
  exact Nat.mul_pow 5 2 n

theorem exactPerOne_places : ∃ a : Nat, (a : Int) = 1074 ∧ exactPerOne = 10 ^ a := by
  obtain ⟨n, hn⟩ : ∃ n : Nat, n = 1074 := ⟨_, rfl⟩
  unfold exactPerOne
  rw [← hn]
  exact ⟨n, by omega, rfl⟩

theorem readsBack_iff {m n : Nat} : readsBack m n = true ↔ nearest n exactPerOne = m := beq_iff_eq

theorem readsBack_exact {m : Nat} (le : m ≤ infinity) : readsBack m (exact m) = true := by
  refine readsBack_iff.mpr (nearest_of_value exactPerOne_pos le ?_)
  rw [exact, exactPerOne_eq, Nat.mul_assoc]

theorem units_zero : units 0 = 0 := by
  rw [units, Nat.zero_sub, Nat.zero_mul]

theorem isWhole_zero : isWhole 0 = true := by
  rw [isWhole, units_zero, Nat.zero_mod]
  rfl

theorem ne_zero_of_readsBack {m n : Nat} (h : readsBack m n = true) (pos : 0 < m) : n ≠ 0 := by
  rintro rfl
  have zero : nearest 0 exactPerOne = 0 :=
    nearest_of_value exactPerOne_pos (Nat.zero_le _) (by rw [units_zero, Nat.zero_mul, Nat.zero_mul])
  rw [readsBack_iff, zero] at h
  exact Nat.ne_of_lt pos h

theorem neighbour?_fits {fits : Nat → Bool} {v step c : Nat} (h : neighbour? fits v step = some c) :
    fits (c * step) = true := by
  unfold neighbour? at h
  dsimp only at h
  split at h
  · next low high =>
    obtain rfl := Option.some.inj h
    split
    · exact low
    · exact high
  · next low _ =>
    obtain rfl := Option.some.inj h
    exact low
  · next _ high =>
    obtain rfl := Option.some.inj h
    exact high
  · cases h

/-- The shortest decimal is one that reads back. -/
theorem exists_shortest {m : Nat} (le : m ≤ infinity) :
    ∃ c k : Nat, shortest m = Decimal.ofScaled c (k - 1074) ∧ readsBack m (c * 10 ^ k) = true := by
  unfold shortest
  dsimp only
  rcases found : List.findSome? _ _ with _ | d
  · exact ⟨exact m, 0, rfl, by rw [Nat.pow_zero, Nat.mul_one]; exact readsBack_exact le⟩
  · obtain ⟨n, -, chosen⟩ := List.exists_of_findSome?_eq_some found
    obtain ⟨c, neighbour, rfl⟩ := Option.map_eq_some_iff.mp chosen
    exact ⟨c, _, rfl, neighbour?_fits neighbour⟩

end MiniPascal.Binary64
