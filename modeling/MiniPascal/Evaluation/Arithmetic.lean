import MiniPascal.Error
import MiniPascal.Tree.Basic

/-! # Arithmetic

Integers stay integers under every operator but `/`, and their arithmetic is exact or an overflow. As soon
as one operand is a real, or the operator is `/`, both operands are taken as reals and the result is one;
a result that is not finite is an overflow. `DIV` drops the fractional part of the quotient. Dividing by
zero is an error of its own, for every kind of zero. -/

namespace MiniPascal
/-- A result that is out of the range of its kind is an overflow. -/
def orOverflow : Option Value → Except Error Value
  | some v => .ok v
  | none => .error .overflow

namespace BinaryOp

/-- The operator between reals. -/
def onReals (op : BinaryOp) (x y : Float) : Except Error Value :=
  match op with
  | add => orOverflow (Value.ofReal? (x + y))
  | sub => orOverflow (Value.ofReal? (x - y))
  | mul => orOverflow (Value.ofReal? (x * y))
  | integerDiv =>
    if Binary64.isZero y then .error .divisionByZero
    else orOverflow (Value.ofReal? (Binary64.truncate (x / y)))
  | realDiv => if Binary64.isZero y then .error .divisionByZero else orOverflow (Value.ofReal? (x / y))

/-- The operator between integers. -/
def onInts (op : BinaryOp) (m n : Int64) : Except Error Value :=
  match op with
  | add => orOverflow (Value.ofInteger? (m.toInt + n.toInt))
  | sub => orOverflow (Value.ofInteger? (m.toInt - n.toInt))
  | mul => orOverflow (Value.ofInteger? (m.toInt * n.toInt))
  | integerDiv =>
    if n.toInt = 0 then .error .divisionByZero else orOverflow (Value.ofInteger? (m.toInt.tdiv n.toInt))
  | realDiv => onReals realDiv (Binary64.ofInt m.toInt) (Binary64.ofInt n.toInt)

/-- The operator between values of either kind. -/
def apply (op : BinaryOp) : Value → Value → Except Error Value
  | .int m, .int n => op.onInts m n
  | v, w => op.onReals v.asReal w.asReal

end BinaryOp

/-- The sign before a value of either kind. -/
def UnaryOp.apply : UnaryOp → Value → Except Error Value
  | plus, v => .ok v
  | minus, .int n => orOverflow (Value.ofInteger? (-n.toInt))
  | minus, .real x => .ok (.real (Binary64.negate x))

/-! ### What an operator gives -/

theorem orOverflow_eq_error {r : Option Value} {e : Error} (h : orOverflow r = .error e) : e = .overflow := by
  cases r <;> cases h
  rfl

namespace BinaryOp

theorem onReals_cases (op : BinaryOp) (x y : Float) :
    op.onReals x y = .error .divisionByZero ∨ ∃ z, op.onReals x y = orOverflow (Value.ofReal? z) := by
  cases op with
  | add | sub | mul => exact .inr ⟨_, rfl⟩
  | integerDiv | realDiv =>
    by_cases zero : Binary64.isZero y
    · exact .inl (if_pos zero)
    · exact .inr ⟨_, if_neg zero⟩

theorem onInts_cases {op : BinaryOp} (integral : op ≠ realDiv) (m n : Int64) :
    op.onInts m n = .error .divisionByZero ∨ ∃ k, op.onInts m n = orOverflow (Value.ofInteger? k) := by
  cases op with
  | add | sub | mul => exact .inr ⟨_, rfl⟩
  | integerDiv =>
    by_cases zero : n.toInt = 0
    · exact .inl (if_pos zero)
    · exact .inr ⟨_, if_neg zero⟩
  | realDiv => exact absurd rfl integral

/-- An operator divides by zero, or checks a result against the range of its kind. -/
theorem apply_cases (op : BinaryOp) (v w : Value) :
    op.apply v w = .error .divisionByZero ∨
      (∃ k, op.apply v w = orOverflow (Value.ofInteger? k)) ∨
      ∃ z, op.apply v w = orOverflow (Value.ofReal? z) := by
  cases v with
  | real x => exact (onReals_cases op _ _).imp_right .inr
  | int m =>
    cases w with
    | real y => exact (onReals_cases op _ _).imp_right .inr
    | int n =>
      by_cases integral : op = realDiv
      · -- Integers are divided as reals.
        subst integral
        exact (onReals_cases realDiv _ _).imp_right .inr
      · exact (onInts_cases integral m n).imp_right .inl

end BinaryOp

end MiniPascal
