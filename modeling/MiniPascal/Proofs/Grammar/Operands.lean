import MiniPascal.Proofs.Grammar.Expression
import MiniPascal.Proofs.Integers

/-! # Operands

The numbers and identifiers of an expression come back in its tree: the nodes of the tree without operands of their own
are these tokens, each once and in the order of the text. Nothing else in the text is such a node, as parentheses leave
no trace and signs and operators are nodes above the others. -/

namespace MiniPascal

/-- The operand that a token is. -/
def Token.operand? : Token → Option Expr
  | identifier name => some (.var ⟨name⟩)
  | number v => some (.literal v)
  | _ => none

/-- Whether an expression has no operator. -/
def Expr.isOperand : Expr → Bool
  | literal _ | var _ => true
  | unary _ _ | binary _ _ _ => false

namespace Grammar

theorem Chain.operands {operator : Token → BinaryOp → Prop} {operand : List Token → Expr → Nat → Prop}
    (operators : ∀ {t op}, operator t op → t.operand? = none)
    (operands : ∀ {ts e d}, operand ts e d → ts.filterMap Token.operand? = e.nodes.filter Expr.isOperand)
    {ts : List Token} {e : Expr} {d : Nat} (h : Chain operator operand ts e d) :
    ts.filterMap Token.operand? = e.nodes.filter Expr.isOperand := by
  induction h with
  | operand first => exact operands first
  | operator _ ht right ih =>
    simp [Expr.nodes, Expr.isOperand, operators ht, operands right, ih]

theorem Additive.operand? {t : Token} {op : BinaryOp} (h : Additive t op) : t.operand? = none := by
  cases h <;> rfl

theorem Multiplicative.operand? {t : Token} {op : BinaryOp} (h : Multiplicative t op) : t.operand? = none := by
  cases h <;> rfl

theorem Sign.operand? {t : Token} {op : UnaryOp} (h : Sign t op) : t.operand? = none := by
  cases h <;> rfl

theorem Factor.operands {ts : List Token} {e : Expr} {d : Nat} (h : Factor ts e d) :
    ts.filterMap Token.operand? = e.nodes.filter Expr.isOperand := by
  induction h using Factor.induction with
  | number v => rfl
  | identifier name => rfl
  | signed sign _ ih => simp [Expr.nodes, Expr.isOperand, sign.operand?, ih]
  | grouped _ inner =>
    have same := inner.operands Additive.operand?
      (Chain.operands Multiplicative.operand? fun factor => Exists.elim factor fun _ ih => ih)
    have parens (s : Symbol) : (Token.symbol s).operand? = none := rfl
    simp [parens, same]

/-- The numbers and identifiers of an expression are, in their order, the nodes of its tree without an operator. -/
theorem Expression.operands {ts : List Token} {e : Expr} {d : Nat} (h : Expression ts e d) :
    ts.filterMap Token.operand? = e.nodes.filter Expr.isOperand :=
  Chain.operands Additive.operand? (Chain.operands Multiplicative.operand? Factor.operands) h

end Grammar
end MiniPascal
