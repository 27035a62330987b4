import MiniPascal.Proofs.Agreement
import MiniPascal.Proofs.Integers

/-! # The texts of values

The text of a value is a numeral, with a minus before it if the value is negative. As an expression it is that numeral
under a sign, so it has the value again, of the same kind and with the same bits. The least integer is the only value
whose numeral is out of range without its sign. -/

namespace MiniPascal
open Grammar Binary64

section
variable {text : String} {cs : List Char} {v : Value}

theorem calculate_of_factor {ts : List Token} {e : Expr} {d : Nat} (written : Writes text.toList ts)
    (factor : Factor ts e d) (levels : d ≤ maxDepth) (low : e.height ≤ maxDepth) : calculate text = e.eval ∅ := by
  refine Expr.calculate_eq (((Parser.expression_text_decided written.ofText).ok e).mpr ?_)
  exact ⟨d, factor.expression, levels, low⟩

theorem calculate_of_spells (h : Spells text.toList (.number v)) : calculate text = .ok v :=
  calculate_of_factor (.token h) (.number v) (Nat.zero_le _) (Nat.zero_le _)

theorem calculate_of_minus (h : Spells cs (.number v)) (shown : text.toList = '-' :: cs) :
    calculate text = UnaryOp.minus.apply v := by
  have written : Writes text.toList [.symbol .minus, .number v] := by
    rw [shown]
    exact (Writes.token h).symbol (s := .minus) nofun
  have factor := Factor.signed .minus (.number v)
  refine (calculate_of_factor written factor (by decide) (Nat.succ_le_succ (Nat.zero_le _))).trans ?_
  rw [Expr.eval_unary]
  rfl

end

/-! ### Integers -/

/-- The least integer is the only one without an opposite. -/
theorem exists_opposite {n : Int64} (other : n ≠ Int64.minValue) : ∃ m : Int64, m.toInt = -n.toInt := by
  have ne : n.toInt ≠ -2 ^ 63 := fun same => other (Int64.toInt_inj.mp (same.trans Int64.toInt_minValue.symm))
  obtain ⟨low, high⟩ := fits_toInt n
  exact ⟨.ofInt (-n.toInt), Int64.toInt_ofInt_of_le (by omega) (by omega)⟩

theorem calculate_text_int {n : Int64} (other : n ≠ Int64.minValue) : calculate (Value.int n).text = .ok (.int n) := by
  rcases Int.lt_or_le n.toInt 0 with negative | positive
  · obtain ⟨m, opposite⟩ := exists_opposite other
    have shown := toList_text_int n
    rw [if_pos negative] at shown
    have spells : Spells (Nat.toDigits 10 n.toInt.natAbs) (.number (.int m)) := by
      refine .integer (digits_toDigits _) ?_
      rw [digitsValue_toDigits, opposite, Int.ofNat_natAbs_of_nonpos (Int.le_of_lt negative)]
    rw [calculate_of_minus spells shown, UnaryOp.apply, opposite, Int.neg_neg]
    rcases orOverflow_ofInteger? n.toInt with ⟨k, result, same⟩ | ⟨outside, -⟩
    · rw [result, Int64.toInt_inj.mp same]
    · exact absurd (fits_toInt n) outside
  · exact calculate_of_spells (int_spells positive)

/-- The digits of the least integer are scanned before the sign counts. -/
theorem calculate_text_minimum :
    calculate (Value.int Int64.minValue).text = .error (.lex (.invalidNumber "9223372036854775808" ⟨1, 2⟩)) := by
  decide +kernel

/-! ### Reals -/

theorem calculate_text_real {x : Float} (finite : isFinite x = true) :
    calculate (Value.real x).text = .ok (.real x) := by
  rcases sign : isNegative x
  · exact calculate_of_spells (real_spells finite sign)
  · have shown := toList_text_real finite
    rw [sign, if_pos rfl] at shown
    have positive : isNegative (negate x) = false := by
      rw [isNegative_negate finite, sign]
      rfl
    have rounds : Rounds (Value.magnitudeText (magnitude x)) (magnitude (negate x)) := by
      rw [magnitude_negate finite]
      exact magnitudeText_rounds (of_decide_eq_true finite)
    have spells := rounds.spells (isFinite_negate finite) positive
    rw [calculate_of_minus spells shown, UnaryOp.apply, negate_negate finite]

/-- The text of a value that can be computed has that value, bit by bit, but for the least integer: this can be computed
too, and its text is refused for the numeral after the sign. -/
theorem texts_of_values_read_back :
    (∀ n : Int64, n ≠ Int64.minValue → calculate (Value.int n).text = .ok (.int n)) ∧
      (∀ x, isFinite x = true → calculate (Value.real x).text = .ok (.real x)) ∧
      calculate "-9223372036854775807 - 1" = .ok (.int Int64.minValue) ∧
      calculate (Value.int Int64.minValue).text = .error (.lex (.invalidNumber "9223372036854775808" ⟨1, 2⟩)) :=
  ⟨fun _ => calculate_text_int, fun _ => calculate_text_real, by decide +kernel, calculate_text_minimum⟩

/-- The negative zero, and the least of the positive doubles. -/
theorem texts_of_values_read_back_near_zero :
    (Value.int (-7)).text = "-7" ∧ calculate "-7" = .ok (.int (-7)) ∧
      (Value.real (make true 0)).text = "-0.0" ∧ calculate "-0.0" = .ok (.real (make true 0)) ∧
      (make true 0).toBits = 0x8000000000000000 ∧
      calculate (Value.real (make false 1)).text = .ok (.real (make false 1)) := by
  have seven : (Value.int (-7)).text = "-7" := by decide +kernel
  have zero : (Value.real (make true 0)).text = "-0.0" := by decide +kernel
  obtain ⟨ints, reals, -, -⟩ := texts_of_values_read_back
  exact ⟨seven, seven ▸ ints _ (by decide), zero, zero ▸ reals _ (by decide +kernel), by decide +kernel,
    reals _ (by decide +kernel)⟩

end MiniPascal
