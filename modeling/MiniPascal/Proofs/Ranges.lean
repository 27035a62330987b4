import MiniPascal.Binary64.Bits
import MiniPascal.Proofs.Execution
import MiniPascal.Proofs.Integers
import MiniPascal.Proofs.Printing

/-! # Values in range

A value is in range if it is an integer of 64 bits or a finite real. Numerals are in range, and arithmetic gives a
value in range or an error, so from a store with values in range nothing else is ever computed or stored. -/

namespace MiniPascal

/-- An integer of 64 bits, or a finite real. -/
def Value.InRange : Value → Prop
  | int n => Fits n.toInt
  | real x => Binary64.isFinite x = true

/-- Every value of the store is in range. -/
def Store.InRange (s : Store) : Prop :=
  ∀ key v, s.get? key = some v → v.InRange

/-- Every number in the expression is in range. -/
inductive Expr.InRange : Expr → Prop
  | literal {v : Value} (h : v.InRange) : InRange (.literal v)
  | var (v) : InRange (.var v)
  | unary (op) {e} (h : InRange e) : InRange (.unary op e)
  | binary (op) {l r} (hl : InRange l) (hr : InRange r) : InRange (.binary op l r)

theorem Store.inRange_empty : (∅ : Store).InRange := by
  intro key v found
  rw [get?_empty] at found
  cases found

theorem Store.InRange.set {s : Store} {v : Value} (h : s.InRange) (hv : v.InRange) (key : String) :
    (s.set key v).InRange := by
  intro other w found
  rw [get?_set] at found
  split at found
  · cases found
    exact hv
  · exact h other w found

/-- Only the reals of a store can be out of range. -/
theorem Store.inRange_of_reals {s : Store} (h : ∀ key x, s.get? key = some (.real x) → Binary64.isFinite x = true) :
    s.InRange := by
  intro key v found
  cases v with
  | int n => exact fits_toInt n
  | real x => exact h key x found

/-! ### Arithmetic -/

section
variable {v w : Value}

theorem inRange_of_ofReal? {x : Float} (h : orOverflow (Value.ofReal? x) = .ok v) : v.InRange := by
  unfold Value.ofReal? at h
  split at h
  · next finite =>
    cases h
    exact finite
  · cases h

theorem inRange_of_ofInteger? {k : Int} (h : orOverflow (Value.ofInteger? k) = .ok v) : v.InRange := by
  rcases orOverflow_ofInteger? k with ⟨n, result, -⟩ | ⟨-, result⟩
  · cases result.symm.trans h
    exact fits_toInt n
  · cases result.symm.trans h

/-- An operator gives a value in range, whatever its operands are. -/
theorem BinaryOp.apply_inRange {op : BinaryOp} {u : Value} (h : op.apply v w = .ok u) : u.InRange := by
  rcases op.apply_cases v w with result | ⟨k, result⟩ | ⟨z, result⟩ <;> rw [result] at h
  · cases h
  · exact inRange_of_ofInteger? h
  · exact inRange_of_ofReal? h

/-- A sign keeps a value in range. It is not checked, as no finite real has an infinite negative. -/
theorem UnaryOp.apply_inRange {op : UnaryOp} (hv : v.InRange) (h : op.apply v = .ok w) : w.InRange := by
  cases op with
  | plus =>
    cases h
    exact hv
  | minus =>
    cases v with
    | int n => exact inRange_of_ofInteger? h
    | real x =>
      cases h
      exact Binary64.isFinite_negate hv

end

/-! ### Expressions -/

namespace Expr
variable {s : Store} {e : Expr}

theorem InRange.eval (h : e.InRange) (hs : s.InRange) {v : Value} (result : e.eval s = .ok v) : v.InRange := by
  induction h generalizing v with
  | literal hv =>
    cases result
    exact hv
  | var x => exact hs _ _ (get?_of_eval_var result)
  | @unary op e _ ih =>
    obtain ⟨w, operand, applied⟩ := operand_of_eval result
    exact UnaryOp.apply_inRange (ih operand) applied
  | binary =>
    obtain ⟨_, _, -, -, applied⟩ := operands_of_eval result
    exact BinaryOp.apply_inRange applied

theorem Legible.inRange (h : e.Legible) : e.InRange := by
  induction h with
  | literal spells =>
    refine .literal ?_
    cases spells with
    | integer => exact fits_toInt _
    | real _ _ finite => exact finite
  | var => exact .var _
  | unary op _ ih => exact .unary op ih
  | binary op _ _ ihl ihr => exact .binary op ihl ihr

end Expr

/-! ### Statements -/

namespace Stmt
variable {ss : List Stmt} {s : Store}

theorem Legible.assignments_inRange {x : Stmt} (h : x.Legible) : ∀ a ∈ x.assignments, a.2.InRange := by
  induction h with
  | block _ _ ih =>
    intro a mem
    obtain ⟨s, inside, mem⟩ := mem_allAssignments.mp mem
    exact ih s inside a mem
  | assign _ value => exact List.forall_mem_singleton.mpr value.inRange
  | skip => exact nofun

theorem execAll_inRange (h : ∀ a ∈ allAssignments ss, a.2.InRange) (hs : s.InRange) : ((execAll ss).left s).InRange :=
  execAll_left ss (fun a mem _ _ hs result => hs.set ((h a mem).eval hs result) _) hs

end Stmt

/-! ### Tasks -/

namespace Task

/-- Every number of the task is in range. -/
def InRange : Task → Prop
  | program p => ∀ a ∈ Stmt.allAssignments p.body, a.2.InRange
  | statements ss => ∀ a ∈ Stmt.allAssignments ss, a.2.InRange
  | expression e => e.InRange

theorem Parsed.inRange {t : Task} (h : t.Parsed) : t.InRange := by
  cases t with
  | program p =>
    obtain ⟨_, parsed⟩ := h
    exact (Parser.legible_of_program parsed).assignments_inRange
  | statements ss =>
    obtain ⟨_, parsed⟩ := h
    exact (Parser.legible_of_statements parsed).assignments_inRange
  | expression e =>
    obtain ⟨_, parsed⟩ := h
    exact (Parser.legible_of_expression parsed).inRange

/-- The value is in range, if there is one, and so are those of the store. -/
def Bounded (done : Except Error (Option Value) × Store) : Prop :=
  (∀ v, done.1 = .ok (some v) → v.InRange) ∧ done.2.InRange

theorem bounded_execAll {ss : List Stmt} {s : Store} (h : ∀ a ∈ Stmt.allAssignments ss, a.2.InRange)
    (hs : s.InRange) : Bounded (Action.outcome ((fun _ => none) <$> Stmt.execAll ss) s) := by
  rw [Action.outcome_map]
  refine ⟨fun v result => ?_, Stmt.execAll_inRange h hs⟩
  cases outcome : ((Stmt.execAll ss).outcome s).1 <;> rw [outcome] at result <;> cases result

theorem InRange.perform {t : Task} {s : Store} (h : t.InRange) (hs : s.InRange) : Bounded (t.perform.outcome s) := by
  cases t with
  | program p => exact bounded_execAll h hs
  | statements ss => exact bounded_execAll h hs
  | expression e =>
    rcases result : e.eval s with error | v <;> simp only [Task.perform, Action.outcome, result]
    · exact ⟨nofun, hs⟩
    · refine ⟨fun w same => ?_, hs⟩
      cases same
      exact h.eval hs result

/-- Tasks with their numbers in range give values in range and leave them in the store, also after failures. -/
theorem performAll_inRange {tasks : List Task} (h : ∀ t ∈ tasks, t.InRange) {s : Store} (hs : s.InRange) :
    ∀ done ∈ performAll s tasks, Bounded done :=
  performAll_forall (fun t mem _ hs => ⟨((h t mem).perform hs).2, (h t mem).perform hs⟩) hs

end Task
end MiniPascal
