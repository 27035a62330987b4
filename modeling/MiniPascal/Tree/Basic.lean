import MiniPascal.Text.Lowercase
import MiniPascal.Value

/-! # Programs as trees

A program is a name, a list of declarations and a body. Parentheses leave no trace in an expression, and
the statement between two separators may be empty. An identifier keeps its spelling; its key, the
spelling in lower case, says which variable it is. -/

namespace MiniPascal

/-- The key of a name: its lower case. -/
def keyOf (name : String) : String :=
  String.ofList (Text.lowercase name.toList)

/-- A variable as it is spelled. -/
structure Var where
  name : String
deriving DecidableEq, Repr

/-- The key that all spellings of a variable share. -/
def Var.key (v : Var) : String :=
  keyOf v.name

/-- The operators with two operands. -/
inductive BinaryOp where
  | add
  | sub
  | mul
  | integerDiv
  | realDiv
deriving DecidableEq, Repr

/-- The text of an operator. -/
def BinaryOp.text : BinaryOp → String
  | add => "+"
  | sub => "-"
  | mul => "*"
  | integerDiv => "DIV"
  | realDiv => "/"

/-- The operators with one operand. -/
inductive UnaryOp where
  | plus
  | minus
deriving DecidableEq, Repr

/-- The text of a sign. -/
def UnaryOp.text : UnaryOp → String
  | plus => "+"
  | minus => "-"

/-- An expression. -/
inductive Expr where
  | literal (v : Value)
  | var (v : Var)
  | unary (op : UnaryOp) (operand : Expr)
  | binary (op : BinaryOp) (left right : Expr)
deriving DecidableEq

/-- The number of operators on the longest path through an expression. -/
def Expr.height : Expr → Nat
  | literal _ => 0
  | var _ => 0
  | unary _ e => e.height + 1
  | binary _ l r => max l.height r.height + 1

/-- A statement. -/
inductive Stmt where
  | block (body : List Stmt)
  | assign (target : Var) (value : Expr)
  | skip

mutual

/-- Whether two statements are the same tree. -/
def Stmt.decEq : (s t : Stmt) → Decidable (s = t)
  | .block ss, .block ts =>
    match Stmt.decEqAll ss ts with
    | .isTrue h => .isTrue (congrArg _ h)
    | .isFalse h => .isFalse fun e => h (Stmt.block.inj e)
  | .assign v e, .assign w f =>
    if h : v = w ∧ e = f then .isTrue (by rw [h.1, h.2])
    else .isFalse fun q => h (Stmt.assign.inj q)
  | .skip, .skip => .isTrue rfl
  | .block _, .assign _ _ => .isFalse nofun
  | .block _, .skip => .isFalse nofun
  | .assign _ _, .block _ => .isFalse nofun
  | .assign _ _, .skip => .isFalse nofun
  | .skip, .block _ => .isFalse nofun
  | .skip, .assign _ _ => .isFalse nofun

/-- Whether two lists of statements are the same trees. -/
def Stmt.decEqAll : (ss ts : List Stmt) → Decidable (ss = ts)
  | [], [] => .isTrue rfl
  | [], _ :: _ => .isFalse nofun
  | _ :: _, [] => .isFalse nofun
  | s :: ss, t :: ts =>
    match Stmt.decEq s t, Stmt.decEqAll ss ts with
    | .isTrue h, .isTrue hs => .isTrue (by rw [h, hs])
    | .isFalse h, _ => .isFalse fun e => h (List.cons.inj e).1
    | _, .isFalse hs => .isFalse fun e => hs (List.cons.inj e).2

end

instance : DecidableEq Stmt := Stmt.decEq

/-- The types that declarations name. -/
inductive TypeName where
  | integer
  | real
deriving DecidableEq, Repr

/-- The text of a type. -/
def TypeName.text : TypeName → String
  | integer => "INTEGER"
  | real => "REAL"

/-- The declaration of one variable. -/
structure Declaration where
  var : Var
  type : TypeName
deriving DecidableEq, Repr

/-- A program. -/
structure Program where
  name : String
  declarations : List Declaration
  body : List Stmt
deriving DecidableEq

end MiniPascal
