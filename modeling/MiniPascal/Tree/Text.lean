import MiniPascal.Tree.Basic

/-! # Trees as text

The text of a tree shows its structure without precedence rules: every operator stands in parentheses of
its own, and statements are joined by separators, so an empty one leaves a separator behind. -/

namespace MiniPascal

/-- The text of an expression, with parentheses around every operator and its operands. -/
def Expr.text : Expr → String
  | literal v => v.text
  | var v => v.name
  | unary op e => "(" ++ op.text ++ e.text ++ ")"
  | binary op l r => "(" ++ l.text ++ " " ++ op.text ++ " " ++ r.text ++ ")"

mutual

/-- The text of a statement. An empty statement has none. -/
def Stmt.text : Stmt → String
  | .block body => "BEGIN " ++ "; ".intercalate (Stmt.texts body) ++ " END"
  | .assign target value => target.name ++ " := " ++ value.text
  | .skip => ""

/-- The texts of statements. -/
def Stmt.texts : List Stmt → List String
  | [] => []
  | s :: ss => s.text :: Stmt.texts ss

end

end MiniPascal
