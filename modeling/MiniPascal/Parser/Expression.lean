import MiniPascal.Parser.Basic
import MiniPascal.Tree.Basic

/-! # Parsing expressions

    expression := term (("+" | "-") term)*
    term       := factor (("*" | "DIV" | "/") factor)*
    factor     := ("+" | "-") factor | number | "(" expression ")" | identifier

Operators of one level associate to the left, signs to the right. Each procedure gives the tree together
with its height, so that a tree that would become too high is refused as soon as it is built.

The recursion is bounded by the number of levels that may still be opened, and a chain of operators by
the height that its tree gains with each of them. `Parser.enter` and `Parser.checkHeight` fail before
either bound is reached, and so the procedures follow their rules as if there were none. -/

namespace MiniPascal

/-- The operator that a token stands for between terms. -/
def BinaryOp.additive? : Token → Option BinaryOp
  | .symbol .plus => some add
  | .symbol .minus => some sub
  | _ => none

/-- The operator that a token stands for between factors. -/
def BinaryOp.multiplicative? : Token → Option BinaryOp
  | .symbol .times => some mul
  | .keyword .integerDiv => some integerDiv
  | .symbol .divide => some realDiv
  | _ => none

namespace Parser
open Watched

section
variable {σ : Type} [Watched σ]

/-- Goes on with operators and operands after `left` and its height, for at most the given number of
operators. -/
def chainFrom (op? : Token → Option BinaryOp) (operand : Rule σ (Expr × Nat)) :
    Nat → Expr × Nat → Rule σ (Expr × Nat)
  | 0, _ => tooDeep
  | n + 1, (left, h) => do
    match (← ahead) >>= op? with
    | none => pure (left, h)
    | some op => do
      advance
      let (right, k) ← operand
      let h ← checkHeight (max h k + 1)
      chainFrom op? operand n (.binary op left right, h)

/-- Operands with operators between them, associated to the left. -/
def chain (op? : Token → Option BinaryOp) (operand : Rule σ (Expr × Nat)) : Rule σ (Expr × Nat) := do
  let first ← operand
  chainFrom op? operand (maxDepth + 1) first

/-- The rule of terms over a procedure for factors. -/
def termOf (factor : Rule σ (Expr × Nat)) : Rule σ (Expr × Nat) :=
  chain BinaryOp.multiplicative? factor

/-- The rule of expressions over a procedure for factors. -/
def expressionOf (factor : Rule σ (Expr × Nat)) : Rule σ (Expr × Nat) :=
  chain BinaryOp.additive? (termOf factor)

/-- A sign before a factor. -/
def signed (op : UnaryOp) (factor : Rule σ (Expr × Nat)) : Rule σ (Expr × Nat) := do
  enter
  advance
  let (e, h) ← factor
  leave
  let h ← checkHeight (h + 1)
  pure (.unary op e, h)

/-- The rule of factors over a procedure for factors. Parentheses leave no trace in the tree. -/
def factorOf (factor : Rule σ (Expr × Nat)) : Rule σ (Expr × Nat) := do
  match (← ahead) with
  | some (.symbol .plus) => signed .plus factor
  | some (.symbol .minus) => signed .minus factor
  | some (.symbol .leftParen) => enclosed (.symbol .leftParen) (.symbol .rightParen) (expressionOf factor)
  | some (.number v) => advance; pure (.literal v, 0)
  | some (.identifier _) => return (.var ⟨← identifier⟩, 0)
  | _ => fail .expression

/-- A factor inside of which fewer than `levels` more levels may be opened. -/
def factorWithin : (levels : Nat) → Rule σ (Expr × Nat)
  | 0 => call tooDeep
  | n + 1 => call (factorOf (factorWithin n))

/-- A factor and its height. -/
def factor : Rule σ (Expr × Nat) := bounded room factorWithin

/-- A term and its height. -/
def term : Rule σ (Expr × Nat) := bounded room fun n => termOf (factorWithin n)

/-- An expression and its height. -/
def expression : Rule σ (Expr × Nat) := bounded room fun n => expressionOf (factorWithin n)

end
end Parser

/-- The expression that a whole text is. -/
def Expr.parse (text : String) : Except Error Expr :=
  Parser.run (Prod.fst <$> Parser.expression) (.ofText text)

end MiniPascal
