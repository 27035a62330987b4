import MiniPascal.Proofs.Spelling.Parsing
import MiniPascal.Session

/-! # Evaluation and spelling

A store is asked for the keys of names only. So if names keep their keys when they are spelled otherwise, trees in
which they are respelled have the same values and leave the same stores, and their errors are respelled. -/

namespace MiniPascal

/-- The action with all names in its errors respelled. -/
def Action.respell {α : Type} (f : String → String) (a : Action α) : Action α :=
  EStateM.adaptExcept (Error.respell f) a

section
variable {f : String → String} {α β : Type}

theorem mapError_bind (x : Except Error α) (k : α → Except Error β) :
    (x >>= k).mapError (Error.respell f) =
      x.mapError (Error.respell f) >>= fun a => (k a).mapError (Error.respell f) := by
  cases x <;> rfl

theorem Action.respell_bind (a : Action α) (k : α → Action β) :
    (a >>= k).respell f = a.respell f >>= fun x => (k x).respell f := by
  funext s
  show Action.respell f (EStateM.bind a k) s = EStateM.bind (a.respell f) (fun x => (k x).respell f) s
  simp only [Action.respell, EStateM.adaptExcept, EStateM.bind]
  cases a s <;> rfl

/-! ### Arithmetic -/

theorem orOverflow_respell (v : Option Value) : (orOverflow v).mapError (Error.respell f) = orOverflow v := by
  cases v <;> rfl

theorem BinaryOp.apply_respell (op : BinaryOp) (v w : Value) :
    (op.apply v w).mapError (Error.respell f) = op.apply v w := by
  rcases op.apply_cases v w with result | ⟨k, result⟩ | ⟨z, result⟩ <;> rw [result]
  · rfl
  · exact orOverflow_respell _
  · exact orOverflow_respell _

theorem UnaryOp.apply_respell (op : UnaryOp) (v : Value) :
    (op.apply v).mapError (Error.respell f) = op.apply v := by
  cases op with
  | plus => rfl
  | minus =>
    cases v with
    | int n => exact orOverflow_respell _
    | real x => rfl

/-! ### Trees -/

theorem Expr.eval_respell (keys : ∀ name, keyOf (f name) = keyOf name) (s : Store) (e : Expr) :
    (e.respell f).eval s = (e.eval s).mapError (Error.respell f) := by
  induction e with
  | literal v => rfl
  | var v =>
    have same : (v.respell f).key = v.key := keys v.name
    simp only [respell, eval_var, same]
    cases s.get? v.key <;> rfl
  | unary op e ih =>
    simp only [respell, eval_unary, mapError_bind, ih, UnaryOp.apply_respell]
  | binary op l r ihl ihr =>
    simp only [respell, eval_binary, mapError_bind, ihl, ihr, BinaryOp.apply_respell]

mutual

theorem Stmt.exec_respell (keys : ∀ name, keyOf (f name) = keyOf name) :
    ∀ s : Stmt, (s.respell f).exec = s.exec.respell f
  | .block body => Stmt.execAll_respell keys body
  | .assign target value => by
    funext s
    have same : (target.respell f).key = target.key := keys target.name
    simp only [Stmt.respell, Stmt.exec_assign, Expr.eval_respell keys, same, Action.respell, EStateM.adaptExcept]
    cases value.eval s <;> rfl
  | .skip => rfl

theorem Stmt.execAll_respell (keys : ∀ name, keyOf (f name) = keyOf name) :
    ∀ ss : List Stmt, Stmt.execAll (Stmt.respellAll f ss) = (Stmt.execAll ss).respell f
  | [] => rfl
  | s :: ss => by
    simp only [Stmt.respellAll, Stmt.execAll_cons, Action.respell_bind, Stmt.exec_respell keys s,
      Stmt.execAll_respell keys ss]

end

theorem Action.result?_respell (a : Action Unit) (s : Store) :
    (a.respell f).result? s = (a.result? s).mapError (Error.respell f) := by
  simp only [result?, respell, EStateM.adaptExcept]
  cases a s <;> rfl

theorem Program.evaluate_respell (keys : ∀ name, keyOf (f name) = keyOf name) (p : Program) (s : Store) :
    (p.respell f).evaluate s = (p.evaluate s).mapError (Error.respell f) := by
  unfold evaluate exec
  rw [← Action.result?_respell, ← Stmt.execAll_respell keys]
  rfl

end
end MiniPascal
