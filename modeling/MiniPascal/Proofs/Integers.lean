import Mathlib.Algebra.Group.Int.Defs
import MiniPascal.Evaluation.Expression

/-! # Exact integers

An expression without reals stands for an integer, computed as if integers had no bounds. Evaluation gives that
integer, or else tells why it cannot: the expression and everything inside of it is looked at in the order in which
it is evaluated, operands before their operator, and the first that divides by zero or does not fit into 64 bits is
reported. So nothing ever wraps, and nothing that does not fit is used any further. -/

namespace MiniPascal

/-- The integers of 64 bits. -/
def Fits (n : Int) : Prop := -2 ^ 63 ≤ n ∧ n ≤ 2 ^ 63 - 1

instance (n : Int) : Decidable (Fits n) := inferInstanceAs (Decidable (_ ∧ _))

/-- The operator between unbounded integers, where `DIV` goes toward zero. Dividing by zero gives no integer, and
neither does `/`. -/
def BinaryOp.value? : BinaryOp → Int → Int → Option Int
  | add, m, n => some (m + n)
  | sub, m, n => some (m - n)
  | mul, m, n => some (m * n)
  | integerDiv, m, n => if n = 0 then none else some (m.tdiv n)
  | realDiv, _, _ => none

/-- The sign before an unbounded integer. -/
def UnaryOp.exact : UnaryOp → Int → Int
  | plus, n => n
  | minus, n => -n

namespace Expr

/-- The variables of an expression, from left to right. -/
def reads : Expr → List Var
  | literal _ => []
  | var v => [v]
  | unary _ e => e.reads
  | binary _ l r => l.reads ++ r.reads

/-- No real and no `/` stands in the expression. -/
inductive Integral : Expr → Prop
  | literal (n : Int64) : Integral (literal (.int n))
  | var (v) : Integral (var v)
  | unary (op) {e} (h : Integral e) : Integral (unary op e)
  | binary {op l r} (other : op ≠ .realDiv) (hl : Integral l) (hr : Integral r) : Integral (binary op l r)

/-- The value of an expression over the unbounded integers, if it has one. -/
def value? (s : Store) : Expr → Option Int
  | literal (.int n) => some n.toInt
  | literal (.real _) => none
  | var v =>
    match s.get? v.key with
    | some (.int n) => some n.toInt
    | _ => none
  | unary op e => op.exact <$> e.value? s
  | binary op l r => do
    let m ← l.value? s
    let n ← r.value? s
    op.value? m n

/-- An expression and all expressions inside of it, operands before their operator and from left to right. -/
def nodes : Expr → List Expr
  | literal v => [literal v]
  | var v => [var v]
  | unary op e => e.nodes ++ [unary op e]
  | binary op l r => l.nodes ++ r.nodes ++ [binary op l r]

/-- What is wrong with a node itself: it is a `DIV` by zero, or its exact value does not fit. -/
inductive Offends (s : Store) : Expr → Error → Prop
  | divisionByZero {l r} (h : r.value? s = some 0) : Offends s (binary .integerDiv l r) .divisionByZero
  | overflow {e n} (h : e.value? s = some n) (out : ¬Fits n) : Offends s e .overflow

end Expr

/-! ### One operator -/

theorem fits_toInt (n : Int64) : Fits n.toInt := ⟨n.minValue_le_toInt, n.toInt_le⟩

/-- A result is the exact integer, or it does not fit. -/
theorem orOverflow_ofInteger? (k : Int) :
    (∃ n : Int64, orOverflow (Value.ofInteger? k) = .ok (.int n) ∧ n.toInt = k) ∨
      ¬Fits k ∧ orOverflow (Value.ofInteger? k) = .error .overflow := by
  unfold Value.ofInteger? Fits
  rw [Int64.toInt_minValue, Int64.toInt_maxValue]
  split
  · next bounds => exact .inl ⟨_, rfl, Int64.toInt_ofInt_of_le bounds.1 (Int.lt_of_le_sub_one bounds.2)⟩
  · next bounds => exact .inr ⟨bounds, rfl⟩

/-- How an operator goes on from integers: to its exact result, or to one of the two errors. -/
theorem BinaryOp.apply_ints {op : BinaryOp} (integral : op ≠ .realDiv) (m n : Int64) :
    (∃ k : Int64, op.apply (.int m) (.int n) = .ok (.int k) ∧ op.value? m.toInt n.toInt = some k.toInt) ∨
      (∃ k, op.value? m.toInt n.toInt = some k ∧ ¬Fits k ∧ op.apply (.int m) (.int n) = .error .overflow) ∨
      op = .integerDiv ∧ n.toInt = 0 ∧ op.apply (.int m) (.int n) = .error .divisionByZero := by
  -- All operators check an exact result, and `DIV` does so unless it divides by zero.
  have checked {k : Int} (exact : op.value? m.toInt n.toInt = some k)
      (h : op.apply (.int m) (.int n) = orOverflow (Value.ofInteger? k)) :
      (∃ k : Int64, op.apply (.int m) (.int n) = .ok (.int k) ∧ op.value? m.toInt n.toInt = some k.toInt) ∨
        ∃ k, op.value? m.toInt n.toInt = some k ∧ ¬Fits k ∧ op.apply (.int m) (.int n) = .error .overflow := by
    rcases orOverflow_ofInteger? k with ⟨l, result, rfl⟩ | ⟨out, result⟩
    · exact .inl ⟨l, h.trans result, exact⟩
    · exact .inr ⟨k, exact, out, h.trans result⟩
  cases op with
  | add | sub | mul => exact (checked rfl rfl).imp_right .inl
  | integerDiv =>
    by_cases zero : n.toInt = 0
    · exact .inr (.inr ⟨rfl, zero, if_pos zero⟩)
    · exact (checked (if_neg zero) (if_neg zero)).imp_right .inl
  | realDiv => exact absurd rfl integral

theorem UnaryOp.apply_int (op : UnaryOp) (n : Int64) :
    (∃ k : Int64, op.apply (.int n) = .ok (.int k) ∧ k.toInt = op.exact n.toInt) ∨
      ¬Fits (op.exact n.toInt) ∧ op.apply (.int n) = .error .overflow := by
  cases op with
  | plus => exact .inl ⟨n, rfl, rfl⟩
  | minus => exact orOverflow_ofInteger? _

/-! ### Whole expressions -/

/-- Of two splits of a list, one is at an element before the other, or both are at the same element. -/
theorem before_or_same {α : Type} {us ws us' ws' : List α} {x y : α} (h : us ++ x :: ws = us' ++ y :: ws') :
    x ∈ us' ∨ x = y ∨ y ∈ us := by
  rcases List.append_eq_append_iff.mp h with ⟨vs, rfl, split⟩ | ⟨vs, rfl, split⟩
  · rcases List.cons_eq_append_iff.mp split with ⟨rfl, split⟩ | ⟨vs, rfl, -⟩
    · exact .inr (.inl (List.head_eq_of_cons_eq split))
    · exact .inl (List.mem_append_right _ List.mem_cons_self)
  · rcases List.cons_eq_append_iff.mp split with ⟨rfl, split⟩ | ⟨vs, rfl, -⟩
    · exact .inr (.inl (List.head_eq_of_cons_eq split).symm)
    · exact .inr (.inr (List.mem_append_right _ List.mem_cons_self))

namespace Expr
variable {s : Store} {e : Expr} {error : Error}

/-- A node that has an exact value and fits. -/
def Fine (s : Store) (e : Expr) : Prop := ∃ n, e.value? s = some n ∧ Fits n

theorem value_of_zero {l r : Expr} (h : r.value? s = some 0) : (binary .integerDiv l r).value? s = none := by
  rw [value?, h]
  cases l.value? s <;> rfl

theorem Fine.not_offends (h : e.Fine s) : ¬e.Offends s error := by
  obtain ⟨n, exact, fits⟩ := h
  intro offends
  cases offends with
  | divisionByZero zero => exact nomatch (value_of_zero zero).symm.trans exact
  | overflow value out =>
    cases exact.symm.trans value
    exact out fits

theorem Offends.unique {error' : Error} (h : e.Offends s error) (h' : e.Offends s error') : error = error' := by
  cases h with
  | divisionByZero zero =>
    cases h' with
    | divisionByZero => rfl
    | overflow value => exact nomatch (value_of_zero zero).symm.trans value
  | overflow value =>
    cases h' with
    | divisionByZero zero => exact nomatch (value_of_zero zero).symm.trans value
    | overflow => rfl

/-- Only one node is the first that offends. -/
theorem first_unique {before before' after after' : List Expr} {x x' : Expr}
    (same : before ++ x :: after = before' ++ x' :: after') (fine : ∀ y ∈ before, ∀ error, ¬y.Offends s error)
    (fine' : ∀ y ∈ before', ∀ error, ¬y.Offends s error) {error' : Error} (h : x.Offends s error)
    (h' : x'.Offends s error') : x = x' := by
  rcases before_or_same same with earlier | rfl | later
  · exact absurd h (fine' x earlier error)
  · rfl
  · exact absurd h' (fine x' later error')

/-- What evaluation is, seen from the nodes: all of them are fine and the value is exact, or the first one that is not
fine gives the error. -/
inductive Decided (s : Store) (e : Expr) : List Expr → Prop
  | exact {nodes n} (fine : ∀ x ∈ nodes, x.Fine s) (value : e.value? s = some (Int64.toInt n))
      (h : e.eval s = .ok (.int n)) : Decided s e nodes
  | first {before x after error} (fine : ∀ y ∈ before, y.Fine s) (offends : x.Offends s error)
      (h : e.eval s = .error error) : Decided s e (before ++ x :: after)

theorem Decided.prepend {us vs : List Expr} (fine : ∀ x ∈ us, x.Fine s) (h : e.Decided s vs) :
    e.Decided s (us ++ vs) := by
  cases h with
  | exact others value h => exact .exact (List.forall_mem_append.mpr ⟨fine, others⟩) value h
  | first before offends h =>
    rw [← List.append_assoc]
    exact .first (List.forall_mem_append.mpr ⟨fine, before⟩) offends h

/-- What an operand decides for the expression `f` around it: its error is the error of `f`, and from its value `f`
goes on to the other nodes. -/
theorem Decided.operand {f : Expr} {nodes others : List Expr} (h : e.Decided s nodes)
    (fails : ∀ error, e.eval s = .error error → f.eval s = .error error)
    (goes : ∀ n, e.value? s = some (Int64.toInt n) → e.eval s = .ok (.int n) → f.Decided s others) :
    f.Decided s (nodes ++ others) := by
  cases h with
  | exact fine value h => exact (goes _ value h).prepend fine
  | first before offends h =>
    rw [List.append_assoc, List.cons_append]
    exact .first before offends (fails _ h)

theorem Decided.of_value {n : Int64} (value : e.value? s = some n.toInt) (h : e.eval s = .ok (.int n)) :
    e.Decided s [e] :=
  .exact (List.forall_mem_singleton.mpr ⟨_, value, fits_toInt n⟩) value h

theorem Decided.of_offence (offends : e.Offends s error) (h : e.eval s = .error error) : e.Decided s [e] :=
  @Decided.first s e [] e [] error nofun offends h

theorem unary_decided {op : UnaryOp} {n : Int64} (value : e.value? s = some n.toInt) (h : e.eval s = .ok (.int n)) :
    (unary op e).Decided s [unary op e] := by
  have exact : (unary op e).value? s = some (op.exact n.toInt) := by
    rw [value?, value]
    rfl
  have eval : (unary op e).eval s = op.apply (.int n) := by
    rw [Expr.eval_unary, h]
    rfl
  rcases op.apply_int n with ⟨k, result, same⟩ | ⟨out, result⟩
  · exact .of_value (exact.trans (congrArg some same.symm)) (eval.trans result)
  · exact .of_offence (.overflow exact out) (eval.trans result)

theorem binary_decided {op : BinaryOp} {l r : Expr} {m n : Int64} (integral : op ≠ .realDiv)
    (left : l.value? s = some m.toInt) (hl : l.eval s = .ok (.int m)) (right : r.value? s = some n.toInt)
    (hr : r.eval s = .ok (.int n)) : (binary op l r).Decided s [binary op l r] := by
  have exact : (binary op l r).value? s = op.value? m.toInt n.toInt := by
    rw [value?, left, right]
    rfl
  have eval : (binary op l r).eval s = op.apply (.int m) (.int n) := by
    rw [Expr.eval_binary, hl, hr]
    rfl
  rcases op.apply_ints integral m n with ⟨k, result, value⟩ | ⟨k, value, out, result⟩ | ⟨rfl, zero, result⟩
  · exact .of_value (exact.trans value) (eval.trans result)
  · exact .of_offence (.overflow (exact.trans value) out) (eval.trans result)
  · exact .of_offence (.divisionByZero (right.trans (congrArg some zero))) (eval.trans result)

/-- The nodes of an expression decide its evaluation. -/
theorem decided (integral : e.Integral) (bound : ∀ v ∈ e.reads, ∃ n, s.get? v.key = some (.int n)) :
    e.Decided s e.nodes := by
  induction integral with
  | literal n => exact .of_value rfl rfl
  | var v =>
    obtain ⟨n, found⟩ := bound v List.mem_cons_self
    refine .of_value (n := n) ?_ ?_
    · rw [value?, found]
    · rw [Expr.eval_var, found]
  | unary op _ ih =>
    refine (ih bound).operand (fun error fails => ?_) fun n value h => unary_decided value h
    rw [Expr.eval_unary, fails]
    rfl
  | binary other _ _ ihl ihr =>
    obtain ⟨boundl, boundr⟩ := List.forall_mem_append.mp bound
    rw [nodes, List.append_assoc]
    -- The right operand is evaluated only if the left one gave a value, and the operator only after both.
    refine (ihl boundl).operand (fun error fails => ?_) fun m left evall =>
      (ihr boundr).operand (fun error fails => ?_) fun n right evalr => binary_decided other left evall right evalr
    · rw [Expr.eval_binary, fails]
      rfl
    · rw [Expr.eval_binary, evall, fails]
      rfl

/-- An expression without reals, in a store that binds its variables to integers, has a value exactly if nothing in it
divides by zero or does not fit. The value is the exact integer, and otherwise the first node that does so gives the
error. -/
theorem integer_arithmetic_exact (integral : e.Integral)
    (bound : ∀ v ∈ e.reads, ∃ n, s.get? v.key = some (.int n)) :
    ((∃ n, e.eval s = .ok (.int n)) ↔ ∀ x ∈ e.nodes, ∀ error, ¬x.Offends s error) ∧
      (∀ n, e.eval s = .ok (.int n) → e.value? s = some n.toInt) ∧
      ∀ before x after error, e.nodes = before ++ x :: after → (∀ y ∈ before, ∀ error, ¬y.Offends s error) →
        x.Offends s error → e.eval s = .error error := by
  have decision := decided integral bound
  generalize e.nodes = nodes at decision
  cases decision with
  | @exact _ n fine value h =>
    refine ⟨⟨fun _ x mem error => (fine x mem).not_offends, fun _ => ⟨n, h⟩⟩, fun k h' => ?_, ?_⟩
    · cases h.symm.trans h'
      exact value
    · rintro before x after error rfl - offends
      exact absurd offends (fine x (List.mem_append_right _ List.mem_cons_self)).not_offends
  | @first before x after error fine offends h =>
    have mem : x ∈ before ++ x :: after := List.mem_append_right _ List.mem_cons_self
    refine ⟨⟨?_, fun none => absurd offends (none x mem error)⟩, fun n h' => ?_, ?_⟩
    · rintro ⟨n, h'⟩
      cases h.symm.trans h'
    · cases h.symm.trans h'
    · intro before' x' after' error' split fine' offends'
      obtain rfl := first_unique split (fun y mem error => (fine y mem).not_offends) fine' offends offends'
      rw [h, offends.unique offends']

/-- At the least integer, `X DIV (-1) + 1 DIV 0` overflows before it divides by zero, and `(-7) DIV 2` is three below
zero. -/
theorem integer_arithmetic_at_minimum :
    let s := (∅ : Store).set "x" (.int Int64.minValue)
    let quotient := binary .integerDiv (var ⟨"X"⟩) (literal (.int (-1)))
    (binary .add quotient (binary .integerDiv (literal (.int 1)) (literal (.int 0)))).eval s = .error .overflow ∧
      (binary .integerDiv (literal (.int (-7))) (literal (.int 2))).value? s = some (-3) := by
  intro s quotient
  have key : Var.key ⟨"X"⟩ = "x" := by decide +kernel
  have found : s.get? (Var.key ⟨"X"⟩) = some (.int Int64.minValue) := by
    rw [key, Store.get?_set, if_pos rfl]
  have exact : quotient.value? s = some (2 ^ 63) := by
    simp only [quotient, value?, found]
    decide
  have bound : ∀ v ∈ [(⟨"X"⟩ : Var)], ∃ n, s.get? v.key = some (.int n) :=
    List.forall_mem_singleton.mpr ⟨_, found⟩
  constructor
  · have fine : ∀ y ∈ [var ⟨"X"⟩, literal (.int (-1))], y.Fine s := by
      simp only [List.forall_mem_cons, Fine, value?, found]
      exact ⟨⟨_, rfl, fits_toInt _⟩, ⟨_, rfl, fits_toInt _⟩, nofun⟩
    have integral : Integral (binary .add quotient (binary .integerDiv (literal (.int 1)) (literal (.int 0)))) :=
      .binary nofun (.binary nofun (.var _) (.literal _)) (.binary nofun (.literal _) (.literal _))
    exact (integer_arithmetic_exact integral bound).2.2 _ quotient _ .overflow rfl
      (fun y mem error => (fine y mem).not_offends) (.overflow exact (by decide))
  · have integral : Integral (binary .integerDiv (literal (.int (-7))) (literal (.int 2))) :=
      .binary nofun (.literal _) (.literal _)
    exact (integer_arithmetic_exact (s := s) integral fun _ mem => nomatch mem).2.1 (-3) rfl

end Expr
end MiniPascal
