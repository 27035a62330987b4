import MiniPascal.Parser.Expression

/-! # Parsing statements

    block      := "BEGIN" statements "END"
    statements := statement (";" statement)*
    statement  := block | identifier ":=" expression | nothing

As nothing is a statement too, a separator may stand before `END`, and several may follow each other.
Two assignments without a separator between them are told as a missing separator. -/

namespace MiniPascal
namespace Parser
open Watched

section
variable {σ : Type} [Watched σ]

/-- An assignment. -/
def assignment : Rule σ Stmt := do
  let name ← identifier
  eat (.symbol .assign)
  let (value, _) ← expression
  pure (.assign ⟨name⟩ value)

/-- The rule of statements over a procedure for blocks. -/
def statementOf (block : Rule σ (List Stmt)) : Rule σ Stmt := do
  match (← ahead) with
  | some (.keyword .blockBegin) => Stmt.block <$> block
  | some (.identifier _) => assignment
  | _ => pure .skip

/-- The rule of statement lists over a procedure for blocks. There are no more separators than tokens. -/
def statementsOf (block : Rule σ (List Stmt)) : Rule σ (List Stmt) := do
  let s ← statementOf block
  let ss ← bounded (·.tokens.length) (repeated (.symbol .semicolon) (statementOf block))
  match (← ahead) with
  | some (.identifier _) => fail (.token (.symbol .semicolon))
  | _ => pure (s :: ss)

/-- The rule of blocks over a procedure for blocks. -/
def blockOf (block : Rule σ (List Stmt)) : Rule σ (List Stmt) :=
  enclosed (.keyword .blockBegin) (.keyword .blockEnd) (statementsOf block)

/-- A block inside of which fewer than `levels` more levels may be opened. -/
def blockWithin : (levels : Nat) → Rule σ (List Stmt)
  | 0 => call tooDeep
  | n + 1 => call (blockOf (blockWithin n))

/-- A block. -/
def block : Rule σ (List Stmt) := bounded room blockWithin

/-- A statement. -/
def statement : Rule σ Stmt := bounded room fun n => statementOf (blockWithin n)

/-- Statements with separators between them. -/
def statements : Rule σ (List Stmt) := bounded room fun n => statementsOf (blockWithin n)

end
end Parser

/-- The statements that a whole text is. -/
def Stmt.parseAll (text : String) : Except Error (List Stmt) :=
  Parser.run Parser.statements (.ofText text)

end MiniPascal
