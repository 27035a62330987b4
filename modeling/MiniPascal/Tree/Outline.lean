import MiniPascal.Tree.Basic

/-! # Outlines

An outline shows every kind of tree in one shape: nodes with labels, each over the list of its children.
Declarations and statements are children of the blocks they stand in, and an assignment has its target
and its value as children. -/

namespace MiniPascal

/-- What stands at a point of an outline. -/
inductive Node where
  | program (name : String)
  | block
  | declaration (v : Var)
  | type (t : TypeName)
  | compound
  | innerBlock
  | assignment
  | empty
  | target (v : Var)
  | var (v : Var)
  | literal (v : Value)
  | unary (op : UnaryOp)
  | binary (op : BinaryOp)
deriving DecidableEq

namespace Node

/-- The kind of a node. -/
def kind : Node → String
  | program _ => "Program"
  | block => "Block"
  | declaration _ => "VarDecl"
  | type _ => "Type"
  | compound => "Compound"
  | innerBlock | assignment | empty => "Statement"
  | target _ => "Var"
  | var _ | literal _ | unary _ | binary _ => "Expression"

/-- The label of a node. -/
def label : Node → String
  | program name => "PROGRAM " ++ name
  | block => "BLOCK"
  | declaration v => "VAR " ++ v.name
  | type t => t.text
  | compound | innerBlock => "COMPOUND"
  | assignment => ":="
  | empty => "NOOP"
  | target v | var v => v.name
  | literal v => v.text
  | unary op => op.text
  | binary op => op.text

end Node

/-- A node over its children. -/
inductive Outline where
  | mk (node : Node) (children : List Outline)

/-- The outline of an expression. -/
def Expr.outline : Expr → Outline
  | literal v => ⟨.literal v, []⟩
  | var v => ⟨.var v, []⟩
  | unary op e => ⟨.unary op, [e.outline]⟩
  | binary op l r => ⟨.binary op, [l.outline, r.outline]⟩

mutual

/-- The outline of a statement. -/
def Stmt.outline : Stmt → Outline
  | .block body => ⟨.innerBlock, Stmt.outlines body⟩
  | .assign target value => ⟨.assignment, [⟨.target target, []⟩, value.outline]⟩
  | .skip => ⟨.empty, []⟩

/-- The outlines of statements. -/
def Stmt.outlines : List Stmt → List Outline
  | [] => []
  | s :: ss => s.outline :: Stmt.outlines ss

end

/-- The outline of a list of statements. -/
def Stmt.compoundOutline (body : List Stmt) : Outline :=
  ⟨.compound, Stmt.outlines body⟩

/-- The outline of a declaration. -/
def Declaration.outline (d : Declaration) : Outline :=
  ⟨.declaration d.var, [⟨.type d.type, []⟩]⟩

/-- The outline of a program. -/
def Program.outline (p : Program) : Outline :=
  ⟨.program p.name,
    [⟨.block, p.declarations.map Declaration.outline ++ [Stmt.compoundOutline p.body]⟩]⟩

namespace Outline

/-- The node at the root. -/
def node : Outline → Node
  | ⟨n, _⟩ => n

/-- The outlines below the root. -/
def children : Outline → List Outline
  | ⟨_, cs⟩ => cs

/-- The outline that a path of child indices leads to. -/
def descend? (t : Outline) : List Nat → Option Outline
  | [] => some t
  | i :: path => t.children[i]? >>= (·.descend? path)

mutual

/-- Every node with its depth and its number of children, parents before their children. -/
def walk (depth : Nat) : Outline → List (Nat × Node × Nat)
  | ⟨n, cs⟩ => (depth, n, cs.length) :: walkAll (depth + 1) cs

/-- The walks through outlines at one depth, one after the other. -/
def walkAll (depth : Nat) : List Outline → List (Nat × Node × Nat)
  | [] => []
  | t :: ts => t.walk depth ++ walkAll depth ts

end

end Outline
end MiniPascal
