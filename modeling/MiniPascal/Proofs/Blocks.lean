import MiniPascal.Proofs.Execution

/-! # Blocks

A block means its assignments. However deep blocks are nested, and wherever empty statements stand among them, execution
makes the assignments in the order of the text and stops at the first whose expression has no value. The store that it
leaves is then the one that the assignments before it made. -/

namespace MiniPascal
namespace Stmt

/-- Makes assignments one after the other, and stops at the first whose expression has no value. -/
def assignAll : List (Var × Expr) → Action Unit
  | [] => pure ()
  | (target, value) :: as => do
    exec (.assign target value)
    assignAll as

/-- The keys that assignments bind, one for each. -/
def keysWritten (as : List (Var × Expr)) : List String :=
  as.map fun a => a.1.key

/-- The expressions of the assignments have values, each in the store that the assignments before it made, and all of
them together lead from one store to the other. -/
inductive Makes : List (Var × Expr) → Store → Store → Prop
  | nil (s) : Makes [] s s
  | cons {target value as s t v} (h : value.eval s = .ok v) (rest : Makes as (s.set target.key v) t) :
      Makes ((target, value) :: as) s t

/-! ### Blocks are flat -/

theorem assignAll_append (as bs : List (Var × Expr)) :
    assignAll (as ++ bs) = assignAll as >>= fun _ => assignAll bs := by
  induction as with
  | nil => rfl
  | cons a as ih =>
    rw [List.cons_append, assignAll, assignAll, ih]
    exact (bind_assoc _ _ _).symm

mutual

theorem exec_eq_assignAll : ∀ s : Stmt, s.exec = assignAll s.assignments
  | .block body => execAll_eq_assignAll body
  | .assign _ _ => bind_pure_unit.symm
  | .skip => rfl

theorem execAll_eq_assignAll : ∀ ss : List Stmt, execAll ss = assignAll (allAssignments ss)
  | [] => rfl
  | s :: ss => by
    rw [execAll_cons, allAssignments, assignAll_append, exec_eq_assignAll s, execAll_eq_assignAll ss]

end

/-! ### Assignments in a row -/

section
variable {target : Var} {value : Expr} {as bs : List (Var × Expr)} {s t u : Store} {v : Value} {e : Error}

theorem assignAll_cons_of_ok (h : value.eval s = .ok v) :
    assignAll ((target, value) :: as) s = assignAll as (s.set target.key v) := by
  rw [assignAll, Action.bind_of_ok (exec_assign_of_ok h)]

theorem assignAll_cons_of_error (h : value.eval s = .error e) :
    assignAll ((target, value) :: as) s = .error e s := by
  rw [assignAll, Action.bind_of_error (exec_assign_of_error h)]

theorem Makes.append (h : Makes as s t) (h' : Makes bs t u) : Makes (as ++ bs) s u := by
  induction h with
  | nil => exact h'
  | cons value _ ih => exact .cons value (ih h')

theorem Makes.assignAll_append (h : Makes as s t) (bs : List (Var × Expr)) :
    assignAll (as ++ bs) s = assignAll bs t := by
  induction h with
  | nil => rfl
  | cons value _ ih =>
    rw [List.cons_append, assignAll_cons_of_ok value, ih]

/-- Assignments bind their targets and nothing else. -/
theorem Makes.unbound_iff (h : Makes as s t) (key : String) :
    t.get? key = none ↔ s.get? key = none ∧ key ∉ keysWritten as := by
  induction h with
  | nil => simp [keysWritten]
  | @cons target _ as s _ v _ _ ih =>
    rw [ih, Store.get?_set, keysWritten, keysWritten, List.map_cons, List.mem_cons]
    by_cases same : target.key = key
    · simp [same]
    · simp [same, Ne.symm same]

theorem Makes.isSome_iff (h : Makes as s t) (key : String) :
    (t.get? key).isSome ↔ (s.get? key).isSome ∨ key ∈ keysWritten as := by
  have free := h.unbound_iff key
  cases before : s.get? key <;> cases after : t.get? key <;> simp_all

theorem assignAll_ok_iff : assignAll as s = .ok () t ↔ Makes as s t := by
  constructor
  · intro h
    induction as generalizing s with
    | nil =>
      cases h
      exact .nil _
    | cons a as ih =>
      obtain ⟨target, value⟩ := a
      rcases result : value.eval s with e | v
      · rw [assignAll_cons_of_error result] at h
        cases h
      · rw [assignAll_cons_of_ok result] at h
        exact .cons result (ih h)
  · intro h
    have done := h.assignAll_append []
    rwa [List.append_nil] at done

theorem assignAll_error_iff :
    assignAll as s = .error e t ↔
      ∃ before a after, as = before ++ a :: after ∧ Makes before s t ∧ a.2.eval t = .error e := by
  constructor
  · intro h
    induction as generalizing s with
    | nil => cases h
    | cons a as ih =>
      obtain ⟨target, value⟩ := a
      rcases result : value.eval s with e | v
      · rw [assignAll_cons_of_error result] at h
        cases h
        exact ⟨[], _, as, rfl, .nil _, result⟩
      · rw [assignAll_cons_of_ok result] at h
        obtain ⟨before, a, after, rfl, makes, fails⟩ := ih h
        exact ⟨_ :: before, a, after, rfl, .cons result makes, fails⟩
  · rintro ⟨before, ⟨target, value⟩, after, rfl, makes, fails⟩
    rw [makes.assignAll_append, assignAll_cons_of_error fails]

end

/-- Statements do what their assignments do in a row, without the blocks around them. Without an error all of the
assignments are made. An error is that of the first expression that has none, and leaves the store in which it was
evaluated, which the assignments before it made. -/
theorem blocks_transparent (ss : List Stmt) (s : Store) :
    execAll ss s = assignAll (allAssignments ss) s ∧
      (∀ t, execAll ss s = .ok () t ↔ Makes (allAssignments ss) s t) ∧
      ∀ e t, execAll ss s = .error e t ↔ ∃ before a after, allAssignments ss = before ++ a :: after ∧
        Makes before s t ∧ a.2.eval t = .error e := by
  rw [execAll_eq_assignAll]
  exact ⟨rfl, fun _ => assignAll_ok_iff, fun _ _ => assignAll_error_iff⟩

end Stmt
end MiniPascal
