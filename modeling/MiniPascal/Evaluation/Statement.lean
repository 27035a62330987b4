import MiniPascal.Evaluation.Expression
import MiniPascal.Parser.Program

/-! # Executing statements

Statements change a store, one after the other, and stop at the first error. What was assigned before it
stays assigned in the store that is left. Blocks only group statements, and declarations do nothing: a
variable takes the kind of whatever is assigned to it. -/

namespace MiniPascal

/-- An action on a store that may fail, and leaves a store in either case. -/
abbrev Action := EStateM Error Store

/-- Calls of which no notice is taken. -/
instance : Calls Action where
  call _ body := body

section
variable {m : Type → Type} [Monad m] [MonadStateOf Store m] [MonadExceptOf Error m] [Calls m]

mutual

/-- Executes a statement, with a call for every block and every expression. -/
def Stmt.execIn : Stmt → m Unit
  | .block body => Calls.call .block (Stmt.runIn body)
  | .assign target value => do
    let s ← get
    let v ← value.evalIn s
    set (s.set target.key v)
  | .skip => pure ()

/-- Executes the statements of one block in their order. -/
def Stmt.runIn : List Stmt → m Unit
  | [] => pure ()
  | s :: ss => do
    s.execIn
    Stmt.runIn ss

end

/-- Executes statements as a block, with a call for it. -/
def Stmt.execAllIn (ss : List Stmt) : m Unit :=
  Calls.call .block (Stmt.runIn ss)

end

/-- As a part of an action, an expression is evaluated as it is on its own. -/
theorem Expr.evalIn_action (e : Expr) (s : Store) : (e.evalIn s : Action Value) = liftExcept (e.eval s) := by
  induction e with
  | literal v => rfl
  | var v =>
    rw [evalIn, eval_var]
    cases s.get? v.key <;> rfl
  | unary op e ih =>
    rw [evalIn, ih, eval_unary]
    cases e.eval s <;> rfl
  | binary op l r ihl ihr =>
    rw [evalIn, ihl, ihr, eval_binary]
    cases l.eval s with
    | error e => rfl
    | ok v => cases r.eval s <;> rfl

namespace Stmt

/-- Executes a statement. -/
def exec (s : Stmt) : Action Unit :=
  s.execIn

/-- Executes statements in their order. -/
def execAll (ss : List Stmt) : Action Unit :=
  execAllIn ss

@[simp] theorem exec_block (body : List Stmt) : exec (.block body) = execAll body := rfl

@[simp] theorem exec_assign (target : Var) (value : Expr) (s : Store) :
    exec (.assign target value) s =
      match value.eval s with
      | .ok v => .ok () (s.set target.key v)
      | .error e => .error e s := by
  have opened : exec (.assign target value) s =
      (value.evalIn s >>= fun v => set (s.set target.key v) : Action Unit) s := rfl
  rw [opened, Expr.evalIn_action]
  cases value.eval s <;> rfl

@[simp] theorem exec_skip : exec .skip = pure () := rfl

@[simp] theorem execAll_nil : execAll [] = pure () := rfl

@[simp] theorem execAll_cons (s : Stmt) (ss : List Stmt) : execAll (s :: ss) = (do s.exec; execAll ss) := rfl

end Stmt

/-- Executes a program. -/
def Program.exec (p : Program) : Action Unit :=
  Stmt.execAll p.body

/-- The store that an action leaves, if it does not fail. -/
def Action.result? (a : Action Unit) (s : Store) : Except Error Store :=
  match a s with
  | .ok _ t => .ok t
  | .error e _ => .error e

/-- The store that a program leaves when it starts from `s`. -/
def Program.evaluate (p : Program) (s : Store) : Except Error Store :=
  Action.result? p.exec s

/-- The store that the program of a text leaves when it starts from nothing. -/
def interpret (text : String) : Except Error Store := do
  let p ← Program.parse text
  p.evaluate ∅

end MiniPascal
