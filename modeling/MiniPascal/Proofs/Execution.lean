import MiniPascal.Evaluation.Statement

/-! # What execution leaves

Execution changes a store by assignments only, one after the other, and an error leaves what was assigned before it.
So a property of stores that every assignment keeps is kept by execution, wherever it ends. -/

namespace MiniPascal

/-- The store that an action leaves, whether it fails or not. -/
def Action.left {α : Type} (a : Action α) (s : Store) : Store :=
  match a s with
  | .ok _ t => t
  | .error _ t => t

/-- What an action gives, and the store that it leaves. -/
def Action.outcome {α : Type} (a : Action α) (s : Store) : Except Error α × Store :=
  match a s with
  | .ok x t => (.ok x, t)
  | .error e t => (.error e, t)

section
variable {α β : Type} {a : Action α} {s t : Store}

theorem Action.outcome_map (f : α → β) : Action.outcome (f <$> a) s = ((a.outcome s).1.map f, a.left s) := by
  have opened : (f <$> a) s = EStateM.map f a s := rfl
  unfold outcome left
  rw [opened, EStateM.map]
  cases a s <;> rfl

theorem Action.left_of_ok {x : α} (h : a s = .ok x t) : a.left s = t := by
  rw [left, h]

theorem Action.left_of_error {e : Error} (h : a s = .error e t) : a.left s = t := by
  rw [left, h]

theorem Action.bind_of_ok {x : α} (h : a s = .ok x t) (k : α → Action β) : (a >>= k) s = k x t := by
  show EStateM.bind a k s = _
  rw [EStateM.bind, h]

theorem Action.bind_of_error {e : Error} (h : a s = .error e t) (k : α → Action β) : (a >>= k) s = .error e t := by
  show EStateM.bind a k s = _
  rw [EStateM.bind, h]

/-- A second action starts from what the first one leaves, if it starts at all. -/
theorem Action.left_bind {P : Store → Prop} {k : α → Action β} (first : P (a.left s))
    (second : ∀ x t, P t → P ((k x).left t)) : P (Action.left (a >>= k) s) := by
  rcases run : a s with ⟨x, t⟩ | ⟨e, t⟩
  · rw [left_of_ok run] at first
    rw [left, bind_of_ok run]
    exact second x t first
  · rw [left_of_error run] at first
    rwa [left_of_error (bind_of_error run k)]

end

/-! ### Evaluation -/

namespace Expr
variable {s : Store} {e l r : Expr} {v : Value} {error : Error}

theorem eval_var_of_some {x : Var} (h : s.get? x.key = some v) : (var x).eval s = .ok v := by
  rw [eval_var, h]

theorem get?_of_eval_var {x : Var} (h : (var x).eval s = .ok v) : s.get? x.key = some v := by
  rw [eval_var] at h
  split at h
  · next found =>
    cases h
    exact found
  · cases h

theorem unbound_of_eval_var {x : Var} (h : (var x).eval s = .error error) :
    s.get? x.key = none ∧ error = .unbound x.name := by
  rw [eval_var] at h
  split at h
  · cases h
  · next unbound =>
    cases h
    exact ⟨unbound, rfl⟩

theorem operand_of_eval {op : UnaryOp} (h : (unary op e).eval s = .ok v) :
    ∃ w, e.eval s = .ok w ∧ op.apply w = .ok v := by
  rcases operand : e.eval s with error | w <;> rw [eval_unary, operand] at h
  · cases h
  · exact ⟨w, rfl, h⟩

theorem operands_of_eval {op : BinaryOp} (h : (binary op l r).eval s = .ok v) :
    ∃ w w', l.eval s = .ok w ∧ r.eval s = .ok w' ∧ op.apply w w' = .ok v := by
  rcases left : l.eval s with error | w
  · rw [eval_binary, left] at h
    cases h
  · rcases right : r.eval s with error | w' <;> rw [eval_binary, left, right] at h
    · cases h
    · exact ⟨w, w', rfl, rfl, h⟩

theorem error_of_eval_unary {op : UnaryOp} (h : (unary op e).eval s = .error error) :
    e.eval s = .error error ∨ ∃ v, e.eval s = .ok v ∧ op.apply v = .error error := by
  rcases operand : e.eval s with error' | v <;> rw [eval_unary, operand] at h
  · cases h
    exact .inl rfl
  · exact .inr ⟨v, rfl, h⟩

/-- The right operand fails only behind a value of the left one, and the operator only behind values of both. -/
theorem error_of_eval_binary {op : BinaryOp} (h : (binary op l r).eval s = .error error) :
    l.eval s = .error error ∨ ∃ v, l.eval s = .ok v ∧
      (r.eval s = .error error ∨ ∃ w, r.eval s = .ok w ∧ op.apply v w = .error error) := by
  rcases left : l.eval s with error' | v
  · rw [eval_binary, left] at h
    cases h
    exact .inl rfl
  · rcases right : r.eval s with error' | w <;> rw [eval_binary, left, right] at h
    · cases h
      exact .inr ⟨v, rfl, .inl rfl⟩
    · exact .inr ⟨v, rfl, .inr ⟨w, rfl, h⟩⟩

end Expr

/-! ### Statements -/

namespace Stmt

mutual

/-- The assignments of a statement in the order in which they are executed, without the blocks around them. -/
def assignments : Stmt → List (Var × Expr)
  | .block body => allAssignments body
  | .assign target value => [(target, value)]
  | .skip => []

/-- The assignments of statements, one after the other. -/
def allAssignments : List Stmt → List (Var × Expr)
  | [] => []
  | s :: ss => s.assignments ++ allAssignments ss

end

theorem mem_allAssignments {ss : List Stmt} {a : Var × Expr} :
    a ∈ allAssignments ss ↔ ∃ s ∈ ss, a ∈ s.assignments := by
  induction ss with
  | nil => simp [allAssignments]
  | cons s ss ih => simp [allAssignments, ih]

/-- Every one of these assignments, wherever it is executed without an error, keeps the property of the store. -/
def Keeps (P : Store → Prop) (assignments : List (Var × Expr)) : Prop :=
  ∀ a ∈ assignments, ∀ s v, P s → a.2.eval s = .ok v → P (s.set a.1.key v)

theorem keeps_append {P : Store → Prop} {as bs : List (Var × Expr)} :
    Keeps P (as ++ bs) ↔ Keeps P as ∧ Keeps P bs :=
  List.forall_mem_append

section
variable {target : Var} {value : Expr} {s : Store} {v : Value} {e : Error}

theorem exec_assign_of_ok (h : value.eval s = .ok v) : exec (.assign target value) s = .ok () (s.set target.key v) := by
  rw [exec_assign, h]

theorem exec_assign_of_error (h : value.eval s = .error e) : exec (.assign target value) s = .error e s := by
  rw [exec_assign, h]

end

theorem execAll_singleton (s : Stmt) : execAll [s] = s.exec := by
  rw [execAll_cons, execAll_nil]
  exact bind_pure_unit

section
variable {a : Stmt} {s t : Store}

theorem execAll_pair_of_ok (h : a.exec s = .ok () t) (b : Stmt) : execAll [a, b] s = b.exec t := by
  rw [execAll_cons, execAll_singleton, Action.bind_of_ok h]

theorem execAll_pair_of_error {e : Error} (h : a.exec s = .error e t) (b : Stmt) : execAll [a, b] s = .error e t := by
  rw [execAll_cons, Action.bind_of_error h]

end

theorem assign_left {P : Store → Prop} {target : Var} {value : Expr} (keeps : Keeps P [(target, value)]) {s : Store}
    (h : P s) : P ((exec (.assign target value)).left s) := by
  rcases result : value.eval s with e | v
  · rwa [Action.left_of_error (exec_assign_of_error result)]
  · rw [Action.left_of_ok (exec_assign_of_ok result)]
    exact keeps _ List.mem_cons_self s v h result

mutual

theorem exec_left {P : Store → Prop} : ∀ s : Stmt, Keeps P s.assignments → ∀ {t : Store}, P t → P (s.exec.left t)
  | .block body, keeps, _, h => execAll_left body keeps h
  | .assign _ _, keeps, _, h => assign_left keeps h
  | .skip, _, _, h => h

/-- A property of stores that all of the assignments keep is kept by the statements, even if they fail. -/
theorem execAll_left {P : Store → Prop} :
    ∀ ss : List Stmt, Keeps P (allAssignments ss) → ∀ {t : Store}, P t → P ((execAll ss).left t)
  | [], _, _, h => h
  | s :: ss, keeps, _, h => by
    obtain ⟨first, others⟩ := keeps_append.mp keeps
    rw [execAll_cons]
    exact Action.left_bind (exec_left s first h) fun _ _ h => execAll_left ss others h

end

end Stmt

/-! ### Tasks -/

/-- What may be given to one store after the other: a program, statements or an expression. -/
inductive Task where
  | program (p : Program)
  | statements (ss : List Stmt)
  | expression (e : Expr)

namespace Task

/-- The task is what some text is parsed to. -/
def Parsed : Task → Prop
  | program p => ∃ text, Program.parse text = .ok p
  | statements ss => ∃ text, Stmt.parseAll text = .ok ss
  | expression e => ∃ text, Expr.parse text = .ok e

/-- Executes a program or statements, or evaluates an expression. Only an expression has a value. -/
def perform : Task → Action (Option Value)
  | program p => (fun _ => none) <$> p.exec
  | statements ss => (fun _ => none) <$> Stmt.execAll ss
  | expression e => fun s =>
    match e.eval s with
    | .ok v => .ok (some v) s
    | .error e => .error e s

/-- Performs tasks one after the other, also after failures, each in the store that the one before it left. -/
def performAll (s : Store) : List Task → List (Except Error (Option Value) × Store)
  | [] => []
  | t :: ts =>
    let done := t.perform.outcome s
    done :: performAll done.2 ts

/-- What holds of the outcome of every task, wherever it is performed with a property of stores that the tasks keep,
holds of all the outcomes. -/
theorem performAll_forall {P : Store → Prop} {Q : Except Error (Option Value) × Store → Prop} {tasks : List Task}
    (each : ∀ t ∈ tasks, ∀ s, P s → P (t.perform.outcome s).2 ∧ Q (t.perform.outcome s)) {s : Store} (h : P s) :
    ∀ r ∈ performAll s tasks, Q r := by
  induction tasks generalizing s with
  | nil => exact List.forall_mem_nil _
  | cons t ts ih =>
    obtain ⟨first, others⟩ := List.forall_mem_cons.mp each
    obtain ⟨kept, holds⟩ := first s h
    exact List.forall_mem_cons.mpr ⟨holds, ih others kept⟩

end Task
end MiniPascal
