import MiniPascal.Evaluation.Statement
import MiniPascal.Tree.Text

/-! # Sessions

A session runs texts one after the other and keeps a store between them. It runs either whole programs or
lines, where a line is an expression or a list of statements.

A run acts on the store of the session. Programs and statements are executed on a copy of it, which takes
its place if all goes well. An expression is evaluated in the store itself, which is taken out of the
session for that time and put back in any case. -/

namespace MiniPascal

/-- What the texts of a session are. -/
inductive Mode where
  | programs
  | lines
deriving DecidableEq, Repr

namespace Mode

/-- Executes on a copy of the store, puts the copy in its place, and shows it. -/
def commit (executed : Store → Except Error Store) : Action String := do
  let s ← get
  let t ← liftExcept (executed s)
  set t
  pure t.text

/-- Runs a program: what is shown is the store it leaves. -/
def runProgram (text : String) : Action String := do
  let p ← liftExcept (Program.parse text)
  commit p.evaluate

/-- Evaluates an expression, and shows its value. -/
def runExpression (e : Expr) : Action String := do
  let s ← getModify fun _ => ∅
  let value := e.eval s
  set s
  let v ← liftExcept value
  pure v.text

/-- Executes statements: what is shown is the store they leave. -/
def runStatements (text : String) : Action String := do
  let body ← liftExcept (Stmt.parseAll text)
  commit (Action.result? (Stmt.execAll body))

/-- Runs a line. What is no expression is taken for statements. -/
def runLine (text : String) : Action String :=
  match Expr.parse text with
  | .ok e => runExpression e
  | .error _ => runStatements text

/-- Runs a text of the session. -/
def run : Mode → String → Action String
  | programs => runProgram
  | lines => runLine

/-! ### The store that a run leaves -/

theorem commit_eq (executed : Store → Except Error Store) (s : Store) :
    commit executed s =
      match executed s with
      | .ok t => .ok t.text t
      | .error e => .error e s := by
  have opened : commit executed s =
      (liftExcept (executed s) >>= fun t => set t >>= fun _ => pure t.text : Action String) s := rfl
  rw [opened]
  cases executed s <;> rfl

theorem runProgram_eq (text : String) (s : Store) :
    runProgram text s =
      match Program.parse text with
      | .ok p => commit p.evaluate s
      | .error e => .error e s := by
  unfold runProgram
  cases Program.parse text <;> rfl

theorem runExpression_eq (e : Expr) (s : Store) :
    runExpression e s =
      match e.eval s with
      | .ok v => .ok v.text s
      | .error e => .error e s := by
  have opened : runExpression e s =
      (liftExcept (e.eval s) >>= fun v => pure v.text : Action String) s := rfl
  rw [opened]
  cases e.eval s <;> rfl

theorem runStatements_eq (text : String) (s : Store) :
    runStatements text s =
      match Stmt.parseAll text with
      | .ok body => commit (Action.result? (Stmt.execAll body)) s
      | .error e => .error e s := by
  unfold runStatements
  cases Stmt.parseAll text <;> rfl

theorem runLine_of_expression {text : String} {e : Expr} (h : Expr.parse text = .ok e) :
    runLine text = runExpression e := by
  unfold runLine
  rw [h]

theorem runLine_of_statements {text : String} {e : Error} (h : Expr.parse text = .error e) :
    runLine text = runStatements text := by
  unfold runLine
  rw [h]

end Mode

/-- A series of runs on one store. -/
structure Session where
  mode : Mode
  store : Store

namespace Session

/-- A session in which nothing is bound. -/
def start (mode : Mode) : Session := ⟨mode, ∅⟩

/-- Runs a text: what it shows, and the session with the store that the run leaves. -/
def run (s : Session) (text : String) : Except Error String × Session :=
  match s.mode.run text s.store with
  | .ok shown store => (.ok shown, { s with store })
  | .error e store => (.error e, { s with store })

/-- Runs texts one after the other, with the session after each. -/
def runAll (s : Session) : List String → List (Except Error String × Session)
  | [] => []
  | text :: texts =>
    let (shown, t) := s.run text
    (shown, t) :: t.runAll texts

/-- The session after all of the texts. -/
def afterAll (s : Session) (texts : List String) : Session :=
  texts.foldl (fun t text => (t.run text).2) s

@[simp] theorem afterAll_cons (s : Session) (text : String) (texts : List String) :
    s.afterAll (text :: texts) = (s.run text).2.afterAll texts := rfl

end Session
end MiniPascal
