import Mathlib.Data.List.TakeWhile
import MiniPascal.Proofs.Binary64.ReadBack
import MiniPascal.Proofs.Grammar.Lexeme

/-! # The texts of numbers

The text of a number is a numeral of that number. For an integer this is the decimal system. For a real the
text is a positional decimal that is the exact value, or else one that reads back, and the digits of the
positional form stand for the same quotient as the decimal itself. -/

namespace MiniPascal
open Grammar Numeral

/-! ### Digits -/

theorem digits_toDigits (n : Nat) : Digits (Nat.toDigits 10 n) where
  ne_nil := Nat.toDigits_ne_nil
  digits _ := Nat.isDigit_of_mem_toDigits (by decide) (by decide)

theorem digitsValue_toDigits (n : Nat) : digitsValue (Nat.toDigits 10 n) = n :=
  Nat.ofDigitChars_toDigits (by decide) (by decide)

theorem digitsValue_append (ds es : List Char) :
    digitsValue (ds ++ es) = digitsValue ds * 10 ^ es.length + digitsValue es := by
  unfold digitsValue
  rw [Nat.ofDigitChars_append, Nat.ofDigitChars_eq_ofDigitChars_zero, Nat.mul_comm]

theorem digitsValue_zeros (n : Nat) : digitsValue (List.replicate n '0') = 0 := by
  rw [digitsValue, Nat.ofDigitChars_replicate_zero, Nat.mul_zero]

theorem digits_zeros (n : Nat) : ∀ c ∈ List.replicate n '0', c.isDigit = true := by
  intro c mem
  rw [List.eq_of_mem_replicate mem]
  rfl

theorem digits_zero : Digits ['0'] := ⟨List.cons_ne_nil _ _, digits_zeros 1⟩

theorem digitsValue_zero : digitsValue ['0'] = 0 := digitsValue_zeros 1

theorem Grammar.Digits.append {ds es : List Char} (h : Digits ds) (others : ∀ c ∈ es, c.isDigit = true) :
    Digits (ds ++ es) where
  ne_nil := List.append_ne_nil_of_left_ne_nil h.ne_nil _
  digits c mem := (List.mem_append.mp mem).elim (h.digits c) (others c)

/-! ### Decimals -/

/-- Digits on both sides of a point, which stand for the quotient `num / den`. -/
def Shows (num den : Nat) (cs : List Char) : Prop :=
  ∃ ds es, cs = ds ++ '.' :: es ∧ Digits ds ∧ Digits es ∧ digitsValue (ds ++ es) * den = num * 10 ^ es.length

theorem shows_behind_zeros {D : List Char} (digits : Digits D) (z b : Nat) :
    Shows (digitsValue D * 10 ^ b) (10 ^ (b + (z + D.length))) ('0' :: '.' :: (List.replicate z '0' ++ D)) := by
  have fraction : Digits (List.replicate z '0' ++ D) := by
    refine ⟨List.append_ne_nil_of_right_ne_nil _ digits.ne_nil, fun c mem => ?_⟩
    exact (List.mem_append.mp mem).elim (digits_zeros z c) (digits.digits c)
  have value : digitsValue (['0'] ++ (List.replicate z '0' ++ D)) = digitsValue D := by
    rw [digitsValue_append, digitsValue_append, digitsValue_zeros, digitsValue_zero]
    simp
  refine ⟨['0'], _, rfl, digits_zero, fraction, ?_⟩
  rw [value, Nat.pow_add, List.length_append, List.length_replicate, Nat.mul_assoc]

theorem shows_split {D : List Char} (digits : Digits D) {n : Nat} (b : Nat) (pos : 0 < n) (inside : n < D.length) :
    Shows (digitsValue D * 10 ^ b) (10 ^ (b + (D.length - n))) (D.take n ++ '.' :: D.drop n) := by
  have whole : D.take n ≠ [] := List.ne_nil_of_length_pos (by rw [List.length_take]; omega)
  have fraction : D.drop n ≠ [] := List.ne_nil_of_length_pos (by rw [List.length_drop]; omega)
  refine ⟨D.take n, D.drop n, rfl, ⟨whole, fun c mem => digits.digits c (List.mem_of_mem_take mem)⟩,
    ⟨fraction, fun c mem => digits.digits c (List.mem_of_mem_drop mem)⟩, ?_⟩
  rw [List.take_append_drop, List.length_drop, Nat.pow_add, Nat.mul_assoc]

theorem shows_before_zeros {D : List Char} (digits : Digits D) (z a : Nat) :
    Shows (digitsValue D * 10 ^ (z + a)) (10 ^ a) (D ++ List.replicate z '0' ++ ['.', '0']) := by
  refine ⟨D ++ List.replicate z '0', ['0'], rfl, digits.append (digits_zeros z), digits_zero, ?_⟩
  rw [digitsValue_append, digitsValue_append, digitsValue_zeros, digitsValue_zero, List.length_replicate, Nat.pow_add]
  simp only [List.length_singleton, Nat.add_zero]
  ring

/-- The positional form stands for the decimal, where the point is `b` places behind the digits and `a` places
before that. -/
theorem positional_shows {d : Decimal} {a b : Nat} (digits : Digits d.digits)
    (point : d.point + a = d.digits.length + b) : Shows (digitsValue d.digits * 10 ^ b) (10 ^ a) d.positional := by
  obtain ⟨D, p⟩ := d
  dsimp only at digits point ⊢
  unfold Decimal.positional
  dsimp only
  split
  · next early =>
    obtain ⟨z, rfl⟩ : ∃ z : Nat, p = -z := ⟨(-p).toNat, by omega⟩
    obtain rfl : a = b + (z + D.length) := by omega
    simpa using shows_behind_zeros digits z b
  · next late =>
    obtain ⟨n, rfl⟩ : ∃ n : Nat, p = n := ⟨p.toNat, by omega⟩
    rw [Int.toNat_natCast]
    rcases Nat.lt_or_ge n D.length with inside | outside
    · -- The point stands between digits, so both parts are parts of the digits.
      obtain rfl : a = b + (D.length - n) := by omega
      have fraction : D.drop n ≠ [] := List.ne_nil_of_length_pos (by rw [List.length_drop]; omega)
      rw [Nat.sub_eq_zero_of_le (Nat.le_of_lt inside), List.isEmpty_eq_false_iff.mpr fraction]
      simpa using shows_split digits b (by omega) inside
    · -- All digits stand before the point, and zeros fill the places up to it.
      obtain rfl : b = n - D.length + a := by omega
      rw [List.take_of_length_le outside, List.drop_of_length_le outside]
      exact shows_before_zeros digits (n - D.length) a

theorem exists_trailing_zeros (cs : List Char) :
    ∃ z, cs = (cs.reverse.dropWhile (· == '0')).reverse ++ List.replicate z '0' := by
  have zeros : ∀ c ∈ (cs.reverse.takeWhile (· == '0')).reverse, c = '0' := by
    intro c mem
    simpa using List.mem_takeWhile_imp (List.mem_reverse.mp mem)
  refine ⟨(cs.reverse.takeWhile (· == '0')).reverse.length, ?_⟩
  rw [← List.eq_replicate_of_mem zeros, ← List.reverse_append, List.takeWhile_append_dropWhile, List.reverse_reverse]

theorem ofScaled_shows {c : Nat} (k a : Nat) (ne : c ≠ 0) :
    Shows (c * 10 ^ k) (10 ^ a) (Decimal.ofScaled c (k - a)).positional := by
  obtain ⟨z, split⟩ := exists_trailing_zeros (Nat.toDigits 10 c)
  obtain ⟨d, hd⟩ : ∃ d, d = Decimal.ofScaled c (k - a) := ⟨_, rfl⟩
  have split : Nat.toDigits 10 c = d.digits ++ List.replicate z '0' := by
    rw [hd]
    exact split
  have value : digitsValue d.digits * 10 ^ z = c := by
    rw [← digitsValue_toDigits c, split, digitsValue_append, digitsValue_zeros, List.length_replicate, Nat.add_zero]
  have digits : Digits d.digits := by
    constructor
    · intro none
      rw [none] at value
      exact ne (value.symm.trans (Nat.zero_mul _))
    · intro e mem
      refine (digits_toDigits c).digits e ?_
      rw [split]
      exact List.mem_append_left _ mem
  have point : d.point + a = d.digits.length + (z + k : Nat) := by
    have length := congrArg List.length split
    have place : d.point = (k : Int) - a + (Nat.toDigits 10 c).length := by
      rw [hd]
      rfl
    simp only [List.length_append, List.length_replicate] at length
    omega
  have shown := positional_shows digits point
  rwa [Nat.pow_add, ← Nat.mul_assoc, value, hd] at shown

/-! ### Reals -/

open Binary64

/-- Digits on both sides of a point, which stand for a quotient that is rounded to the magnitude. -/
def Rounds (cs : List Char) (m : Nat) : Prop :=
  ∃ ds es, cs = ds ++ '.' :: es ∧ Digits ds ∧ Digits es ∧ nearest (digitsValue (ds ++ es)) (10 ^ es.length) = m

theorem Rounds.spells {cs : List Char} {x : Float} (h : Rounds cs (magnitude x)) (finite : isFinite x = true)
    (positive : isNegative x = false) : Spells cs (.number (.real x)) := by
  obtain ⟨ds, es, rfl, whole, fraction, reads⟩ := h
  refine .real whole fraction finite positive ?_
  rw [← reads]
  exact nearest_isNearest (Nat.pow_pos (by decide))

/-- The shortest decimal of a positive magnitude is rounded to it. -/
theorem shortest_rounds {m : Nat} (pos : 0 < m) (finite : m < infinity) : Rounds (shortest m).positional m := by
  obtain ⟨c, k, shortest_, reads⟩ := exists_shortest (Nat.le_of_lt finite)
  have ne : c ≠ 0 := fun zero => ne_zero_of_readsBack reads pos (by rw [zero, Nat.zero_mul])
  obtain ⟨a, places, power⟩ := exactPerOne_places
  obtain ⟨ds, es, text, hds, hes, value⟩ := ofScaled_shows k a ne
  rw [← power] at value
  refine ⟨ds, es, ?_, hds, hes, ?_⟩
  · rw [shortest_, ← places]
    exact text
  · rw [← readsBack_iff.mp reads]
    exact nearest_congr (Nat.pow_pos (by decide)) exactPerOne_pos value

/-- The text of a finite magnitude is a decimal that is rounded to it. -/
theorem magnitudeText_rounds {m : Nat} (finite : m < infinity) : Rounds (Value.magnitudeText m) m := by
  unfold Value.magnitudeText
  split
  · next whole =>
    have divides : units m / unitsPerOne * unitsPerOne = units m :=
      Nat.div_mul_cancel (Nat.dvd_of_mod_eq_zero (of_decide_eq_true whole))
    refine ⟨_, ['0'], rfl, digits_toDigits _, digits_zero, ?_⟩
    refine nearest_of_value (by decide) (Nat.le_of_lt finite) ?_
    rw [digitsValue_append, digitsValue_toDigits, digitsValue_zero, Nat.add_zero,
      Nat.mul_right_comm, divides]
  · next fractional =>
    have pos : 0 < m := by
      rcases Nat.eq_zero_or_pos m with rfl | pos
      · exact absurd isWhole_zero fractional
      · exact pos
    exact shortest_rounds pos finite

/-! ### Values -/

/-- The text of a finite real is its sign and the text of its magnitude. -/
theorem toList_text_real {x : Float} (finite : isFinite x = true) :
    (Value.real x).text.toList = (if isNegative x then ['-'] else []) ++ Value.magnitudeText (magnitude x) := by
  have below : magnitude x < infinity := of_decide_eq_true finite
  show (Value.realText x).toList = _
  unfold Value.realText
  dsimp only
  rw [if_neg (Nat.not_lt.mpr (Nat.le_of_lt below)), if_neg (Nat.ne_of_lt below), String.toList_append,
    String.toList_ofList]
  cases isNegative x <;> rfl

theorem real_spells {x : Float} (finite : isFinite x = true) (positive : isNegative x = false) :
    Spells (Value.real x).text.toList (.number (.real x)) := by
  rw [toList_text_real finite, positive, if_neg Bool.false_ne_true, List.nil_append]
  exact (magnitudeText_rounds (of_decide_eq_true finite)).spells finite positive

/-- The text of an integer is its sign and the digits of its absolute value. -/
theorem toList_text_int (n : Int64) :
    (Value.int n).text.toList = (if n.toInt < 0 then ['-'] else []) ++ Nat.toDigits 10 n.toInt.natAbs := by
  show n.toInt.repr.toList = _
  rcases n.toInt with k | k
  · rw [if_neg (show ¬Int.ofNat k < 0 from Int.not_lt.mpr (Int.natCast_nonneg k))]
    exact Nat.toList_repr
  · rw [if_pos (Int.negSucc_lt_zero k)]
    exact String.toList_append.trans (congrArg _ Nat.toList_repr)

theorem int_spells {n : Int64} (positive : 0 ≤ n.toInt) : Spells (Value.int n).text.toList (.number (.int n)) := by
  rw [toList_text_int, if_neg (Int.not_lt.mpr positive), List.nil_append]
  refine .integer (digits_toDigits _) ?_
  rw [digitsValue_toDigits, Int.natAbs_of_nonneg positive]

/-- A number that some numeral stands for is the number of its own text. -/
theorem value_text_spells {cs : List Char} {v : Value} (h : Spells cs (.number v)) :
    Spells v.text.toList (.number v) := by
  cases h with
  | integer _ value => exact int_spells (value ▸ Int.natCast_nonneg _)
  | real _ _ finite positive _ => exact real_spells finite positive

example : (Value.real (Binary64.make false (nearest 1 10))).text = "0.1" := by decide +kernel

end MiniPascal
