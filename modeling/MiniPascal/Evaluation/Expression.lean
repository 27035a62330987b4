import MiniPascal.Evaluation.Arithmetic
import MiniPascal.Parser.Expression
import MiniPascal.Store

/-! # Evaluating expressions

An expression is evaluated in a store, which it does not change. Operands are evaluated from left to
right, and the first error is the result.

The rules are stated for every monad that has errors and is told of the calls: the usual one takes no
notice of them, and another one may count them. -/

namespace MiniPascal

/-- The procedures of evaluation that recursion goes through. -/
inductive Procedure where
  | expression
  | block
deriving DecidableEq

/-- The monads that are told of every call of a procedure. -/
class Calls (m : Type → Type) where
  call {α : Type} : Procedure → m α → m α

/-- Calls of which no notice is taken. -/
instance : Calls (Except Error) where
  call _ body := body

theorem liftExcept_eq {α : Type} (x : Except Error α) : (liftExcept x : Except Error α) = x := by
  cases x <;> rfl

namespace Expr

/-- Evaluates an expression in a store, with a call for it and for each of its operands. -/
def evalIn {m : Type → Type} [Monad m] [MonadExceptOf Error m] [Calls m] (s : Store) : Expr → m Value
  | literal v => Calls.call .expression (pure v)
  | var v => Calls.call .expression <|
    match s.get? v.key with
    | some value => pure value
    | none => throw (.unbound v.name)
  | unary op e => Calls.call .expression do
    let v ← e.evalIn s
    liftExcept (op.apply v)
  | binary op l r => Calls.call .expression do
    let v ← l.evalIn s
    let w ← r.evalIn s
    liftExcept (op.apply v w)

/-- The value of an expression in a store. -/
def eval (s : Store) (e : Expr) : Except Error Value :=
  e.evalIn s

section
variable (s : Store)

@[simp] theorem eval_literal (v : Value) : (literal v).eval s = .ok v := rfl

@[simp] theorem eval_var (v : Var) :
    (var v).eval s =
      match s.get? v.key with
      | some value => .ok value
      | none => .error (.unbound v.name) := rfl

@[simp] theorem eval_unary (op : UnaryOp) (e : Expr) : (unary op e).eval s = e.eval s >>= op.apply := by
  have opened : (unary op e).eval s = e.eval s >>= fun v => liftExcept (op.apply v) := rfl
  simp only [opened, liftExcept_eq]

@[simp] theorem eval_binary (op : BinaryOp) (l r : Expr) :
    (binary op l r).eval s = (do
      let v ← l.eval s
      let w ← r.eval s
      op.apply v w) := by
  have opened : (binary op l r).eval s = (do
      let v ← l.eval s
      let w ← r.eval s
      liftExcept (op.apply v w)) := rfl
  simp only [opened, liftExcept_eq]

end
end Expr

/-- The value of a text that is an expression without variables. -/
def calculate (text : String) : Except Error Value := do
  let e ← Expr.parse text
  e.eval ∅

end MiniPascal
