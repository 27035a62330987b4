import Mathlib.Data.List.Basic
import MiniPascal.Proofs.Blocks
import MiniPascal.Proofs.Grammar.Operands
import MiniPascal.Proofs.Parsing

/-! # Definite assignment

Which variables a run reads before they are bound is settled by its statements and the keys that are bound at the start.
No number has to be known for it: execution evaluates all nodes of all expressions in the order of the text, unless an
error stops it, and every assignment that it gets past binds its target. So without a read that comes too early there is
no error about names, and the first such read is where execution stops, if arithmetic has not stopped it before. -/

namespace MiniPascal
open Grammar

/-- The errors of arithmetic. -/
inductive Error.Arithmetic : Error → Prop
  | divisionByZero : Arithmetic .divisionByZero
  | overflow : Arithmetic .overflow

theorem arithmetic_of_orOverflow {r : Option Value} {e : Error} (h : orOverflow r = .error e) : e.Arithmetic := by
  obtain rfl := orOverflow_eq_error h
  exact .overflow

theorem BinaryOp.arithmetic_of_apply {op : BinaryOp} {v w : Value} {e : Error} (h : op.apply v w = .error e) :
    e.Arithmetic := by
  rcases op.apply_cases v w with result | ⟨k, result⟩ | ⟨z, result⟩ <;> rw [result] at h
  · cases h
    exact .divisionByZero
  · exact arithmetic_of_orOverflow h
  · exact arithmetic_of_orOverflow h

theorem UnaryOp.arithmetic_of_apply {op : UnaryOp} {v : Value} {e : Error} (h : op.apply v = .error e) :
    e.Arithmetic := by
  cases op with
  | plus => cases h
  | minus =>
    cases v with
    | int n => exact arithmetic_of_orOverflow h
    | real x => cases h

/-! ### Nodes of one expression -/

namespace Expr
variable {s : Store} {e : Expr} {v : Value} {error : Error}

/-- An error comes from the node itself: it is a variable that is not bound, or an operator that has no result for the
values of its operands. -/
inductive Raises (s : Store) : Expr → Error → Prop
  | var {x : Var} (h : s.get? x.key = none) : Raises s (var x) (.unbound x.name)
  | unary {op e v error} (operand : e.eval s = .ok v) (h : op.apply v = .error error) : Raises s (unary op e) error
  | binary {op l r v w error} (left : l.eval s = .ok v) (right : r.eval s = .ok w)
      (h : op.apply v w = .error error) : Raises s (binary op l r) error

theorem Raises.unbound_or_arithmetic (h : e.Raises s error) :
    (∃ x : Var, e = .var x ∧ s.get? x.key = none ∧ error = .unbound x.name) ∨ error.Arithmetic := by
  cases h with
  | @var x h => exact .inl ⟨x, rfl, h, rfl⟩
  | unary _ h => exact .inr (UnaryOp.arithmetic_of_apply h)
  | binary _ _ h => exact .inr (BinaryOp.arithmetic_of_apply h)

/-- An expression has a value only if all of its nodes have. -/
theorem nodes_eval (h : e.eval s = .ok v) : ∀ x ∈ e.nodes, ∃ w, x.eval s = .ok w := by
  induction e generalizing v with
  | literal | var => exact List.forall_mem_singleton.mpr ⟨v, h⟩
  | unary op e ih =>
    obtain ⟨w, operand, -⟩ := operand_of_eval h
    exact List.forall_mem_append.mpr ⟨ih operand, List.forall_mem_singleton.mpr ⟨v, h⟩⟩
  | binary op l r ihl ihr =>
    obtain ⟨w, w', left, right, -⟩ := operands_of_eval h
    have operands := List.forall_mem_append.mpr ⟨ihl left, ihr right⟩
    exact List.forall_mem_append.mpr ⟨operands, List.forall_mem_singleton.mpr ⟨v, h⟩⟩

/-- An expression without a value has a first node without one, and the error comes from this node. -/
theorem exists_raises (h : e.eval s = .error error) :
    ∃ before x after, e.nodes = before ++ x :: after ∧ (∀ y ∈ before, ∃ w, y.eval s = .ok w) ∧ x.Raises s error := by
  induction e with
  | literal v => cases h
  | var x =>
    obtain ⟨unbound, rfl⟩ := unbound_of_eval_var h
    exact ⟨[], _, [], rfl, List.forall_mem_nil _, .var unbound⟩
  | unary op e ih =>
    obtain fails | ⟨v, operand, applied⟩ := error_of_eval_unary h
    · obtain ⟨before, x, after, split, fine, raises⟩ := ih fails
      exact ⟨before, x, after ++ [unary op e], by simp [nodes, split], fine, raises⟩
    · exact ⟨e.nodes, _, [], rfl, nodes_eval operand, .unary operand applied⟩
  | binary op l r ihl ihr =>
    obtain fails | ⟨v, left, fails | ⟨w, right, applied⟩⟩ := error_of_eval_binary h
    · obtain ⟨before, x, after, split, fine, raises⟩ := ihl fails
      exact ⟨before, x, after ++ r.nodes ++ [binary op l r], by simp [nodes, split], fine, raises⟩
    · obtain ⟨before, x, after, split, fine, raises⟩ := ihr fails
      exact ⟨l.nodes ++ before, x, after ++ [binary op l r], by simp [nodes, split],
        List.forall_mem_append.mpr ⟨nodes_eval left, fine⟩, raises⟩
    · exact ⟨l.nodes ++ r.nodes, _, [], rfl, List.forall_mem_append.mpr ⟨nodes_eval left, nodes_eval right⟩,
        .binary left right applied⟩

end Expr

/-! ### Nodes of a run -/

/-- A node that is evaluated, and the assignments that come before it. -/
structure Visit where
  made : List (Var × Expr)
  node : Expr

namespace Stmt

/-- The nodes of assignments, one assignment after the other, where some come before all of them. -/
def visitsFrom (made : List (Var × Expr)) : List (Var × Expr) → List Visit
  | [] => []
  | a :: as => a.2.nodes.map (Visit.mk made) ++ visitsFrom (made ++ [a]) as

/-- The nodes of statements in the order in which they are evaluated. -/
def visits (ss : List Stmt) : List Visit :=
  visitsFrom [] (allAssignments ss)

end Stmt

namespace Visit
variable {s t : Store} {v : Visit} {x : Var} {e : Error}

/-- The variable of a read that comes too early: it is not bound at the start, and no assignment before has it as its
target. -/
def unbound? (s : Store) (v : Visit) : Option Var :=
  match v.node with
  | .var x => if s.get? x.key = none ∧ x.key ∉ Stmt.keysWritten v.made then some x else none
  | _ => none

theorem unbound?_eq_some :
    v.unbound? s = some x ↔ v.node = .var x ∧ s.get? x.key = none ∧ x.key ∉ Stmt.keysWritten v.made := by
  unfold unbound?
  split
  · next y node =>
    rw [node, Option.ite_none_right_eq_some, Option.some_inj]
    constructor
    · rintro ⟨early, rfl⟩
      exact ⟨rfl, early⟩
    · rintro ⟨same, early⟩
      cases same
      exact ⟨early, rfl⟩
  · next other => exact ⟨nofun, fun ⟨node, _⟩ => absurd node (other x)⟩

theorem unbound?_of_bound {w : Value} (node : v.node = .var x) (found : s.get? x.key = some w) :
    v.unbound? s = none := by
  rw [unbound?, node]
  exact if_neg fun early => Option.some_ne_none w (found.symm.trans early.1)

theorem unbound?_of_written (node : v.node = .var x) (written : x.key ∈ Stmt.keysWritten v.made) :
    v.unbound? s = none := by
  rw [unbound?, node]
  exact if_neg fun early => early.2 written

/-- A run from the store gets to the node, and past it. -/
def Passed (s : Store) (v : Visit) : Prop :=
  ∃ t w, Stmt.Makes v.made s t ∧ v.node.eval t = .ok w

/-- A run from one store gets to the node, is then in the other store, and there the node raises the error. -/
def Fails (s t : Store) (v : Visit) (e : Error) : Prop :=
  Stmt.Makes v.made s t ∧ v.node.Raises t e

theorem not_bound (h : v.unbound? s = some x) (makes : Stmt.Makes v.made s t) : t.get? x.key = none :=
  (makes.unbound_iff _).mpr (unbound?_eq_some.mp h).2

theorem not_passed (h : v.unbound? s = some x) : ¬v.Passed s := by
  rintro ⟨t, w, makes, value⟩
  rw [(unbound?_eq_some.mp h).1, Expr.eval_var, not_bound h makes] at value
  cases value

theorem Fails.error_eq (fails : v.Fails s t e) (h : v.unbound? s = some x) : e = .unbound x.name := by
  have raises := fails.2
  rw [(unbound?_eq_some.mp h).1] at raises
  cases raises
  rfl

/-- A node fails because of arithmetic only, unless it is a read that comes too early. -/
theorem Fails.arithmetic (fails : v.Fails s t e) (h : v.unbound? s = none) : e.Arithmetic := by
  obtain ⟨makes, raises⟩ := fails
  rcases raises.unbound_or_arithmetic with ⟨x, node, free, -⟩ | arithmetic
  · have early := unbound?_eq_some.mpr ⟨node, (makes.unbound_iff _).mp free⟩
    exact nomatch h.symm.trans early
  · exact arithmetic

end Visit

namespace Stmt
variable {made as : List (Var × Expr)} {s t u : Store} {a : Var × Expr} {e : Error}

theorem passed_of_nodes {xs : List Expr} (prior : Makes made s t) (h : ∀ x ∈ xs, ∃ w, x.eval t = .ok w) :
    ∀ v ∈ xs.map (Visit.mk made), v.Passed s := by
  intro v mem
  obtain ⟨x, inside, rfl⟩ := List.mem_map.mp mem
  obtain ⟨w, value⟩ := h x inside
  exact ⟨t, w, prior, value⟩

theorem Makes.concat {target : Var} {value : Expr} {v : Value} (prior : Makes made s t) (h : value.eval t = .ok v) :
    Makes (made ++ [(target, value)]) s (t.set target.key v) :=
  prior.append (.cons h (.nil _))

/-- A run without an error gets past all nodes. -/
theorem Makes.passed (h : Makes as t u) (prior : Makes made s t) : ∀ v ∈ visitsFrom made as, v.Passed s := by
  induction h generalizing made with
  | nil => exact nofun
  | cons value _ ih =>
    exact List.forall_mem_append.mpr ⟨passed_of_nodes prior (Expr.nodes_eval value), ih (prior.concat value)⟩

/-- A run with an error gets past all nodes up to the one that raises it. -/
theorem exists_fails (prior : Makes made s t) (h : assignAll as t = .error e u) :
    ∃ before v after, visitsFrom made as = before ++ v :: after ∧ (∀ w ∈ before, w.Passed s) ∧ v.Fails s u e := by
  induction as generalizing made t with
  | nil => cases h
  | cons a as ih =>
    obtain ⟨target, value⟩ := a
    rcases result : value.eval t with error | v
    · rw [assignAll_cons_of_error result] at h
      cases h
      obtain ⟨before, x, after, split, fine, raises⟩ := Expr.exists_raises result
      have visits : visitsFrom made ((target, value) :: as) = before.map (Visit.mk made) ++ ⟨made, x⟩ ::
          (after.map (Visit.mk made) ++ visitsFrom (made ++ [(target, value)]) as) := by
        rw [visitsFrom, split, List.map_append, List.map_cons, List.append_assoc, List.cons_append]
      exact ⟨_, _, _, visits, passed_of_nodes prior fine, prior, raises⟩
    · rw [assignAll_cons_of_ok result] at h
      obtain ⟨before, w, after, split, passed, fails⟩ := ih (prior.concat result) h
      refine ⟨value.nodes.map (Visit.mk made) ++ before, w, after, ?_, ?_, fails⟩
      · rw [visitsFrom, split, List.append_assoc]
      · exact List.forall_mem_append.mpr ⟨passed_of_nodes prior (Expr.nodes_eval result), passed⟩

end Stmt

/-! ### Runs -/

theorem not_identifier_of_calculate {text : String} {v : Value} (h : calculate text = .ok v) (name : String) :
    .identifier name ∉ (TokenStream.ofText text).tokens := by
  intro mem
  rcases parsed : Expr.parse text with error | e <;> rw [calculate, parsed] at h
  · cases h
  · obtain ⟨ts, d, scanned, derived, -⟩ := Parser.expression_of_parse parsed
    rw [scanned] at mem
    have operand : Expr.var ⟨name⟩ ∈ ts.filterMap Token.operand? := List.mem_filterMap.mpr ⟨_, mem, rfl⟩
    rw [derived.operands] at operand
    obtain ⟨w, value⟩ := Expr.nodes_eval h _ (List.mem_filter.mp operand).1
    rw [Expr.eval_var, Store.get?_empty] at value
    cases value

/-- Statements without a read that comes too early give no error about a name. With one, they fail: at the first such
read with its name, as it is spelled there, or at a node before it with an error of arithmetic. And a text whose value
is calculated has no identifiers. -/
theorem definite_assignment (ss : List Stmt) (s : Store) :
    ((∀ v ∈ Stmt.visits ss, v.unbound? s = none) → ∀ name t, Stmt.execAll ss s ≠ .error (.unbound name) t) ∧
      (∀ before v after x, Stmt.visits ss = before ++ v :: after → (∀ u ∈ before, u.unbound? s = none) →
        v.unbound? s = some x → ∃ e t, Stmt.execAll ss s = .error e t ∧
          (e = .unbound x.name ∨ e.Arithmetic ∧ ∃ u ∈ before, u.Fails s t e)) ∧
      ∀ text v, calculate text = .ok v → ∀ name, .identifier name ∉ (TokenStream.ofText text).tokens := by
  rw [Stmt.execAll_eq_assignAll]
  refine ⟨fun bound name t fails => ?_, fun before v after x split bound early => ?_, fun _ _ =>
    not_identifier_of_calculate⟩
  · obtain ⟨before, v, after, split, -, fails⟩ := Stmt.exists_fails (.nil s) fails
    have mem : v ∈ Stmt.visits ss := List.mem_iff_append.mpr ⟨_, _, split⟩
    cases fails.arithmetic (bound v mem)
  · rcases result : Stmt.assignAll (Stmt.allAssignments ss) s with ⟨⟨⟩, t⟩ | ⟨e, t⟩
    · have passed := (Stmt.assignAll_ok_iff.mp result).passed (.nil s)
      have mem : v ∈ Stmt.visits ss := List.mem_iff_append.mpr ⟨_, _, split⟩
      exact absurd (passed v mem) (Visit.not_passed early)
    · obtain ⟨before', u, after', split', passed, fails⟩ := Stmt.exists_fails (.nil s) result
      refine ⟨e, t, rfl, ?_⟩
      -- The run stops at `u`. It cannot be behind the read, as no run gets past a read that comes too early.
      rcases before_or_same (split'.symm.trans split) with earlier | rfl | later
      · exact .inr ⟨fails.arithmetic (bound u earlier), u, earlier, fails⟩
      · exact .inl (fails.error_eq early)
      · exact absurd (passed v later) (Visit.not_passed early)

theorem definite_assignment_up_to_quotient :
    let quotient := Expr.binary .integerDiv (.var ⟨"a"⟩) (.literal (.int 0))
    let ss := [.assign ⟨"A"⟩ (.literal (.int 1)), .block [.skip, .assign ⟨"b"⟩ quotient], .assign ⟨"c"⟩ (.var ⟨"D"⟩)]
    let s := (∅ : Store).set "d" (.int 7)
    (∀ v ∈ Stmt.visits ss, v.unbound? s = none) ∧ (∀ name t, Stmt.execAll ss s ≠ .error (.unbound name) t) ∧
      (∀ u ∈ (Stmt.visits ss).take 4, u.unbound? ∅ = none) ∧
      (∃ e t, Stmt.execAll ss ∅ = .error e t ∧
        (e = .unbound "D" ∨ e.Arithmetic ∧ ∃ u ∈ (Stmt.visits ss).take 4, u.Fails ∅ t e)) ∧
      calculate "-(2 + 3)" = .ok (.int (-5)) ∧
      ∀ name, .identifier name ∉ (TokenStream.ofText "-(2 + 3)").tokens := by
  intro quotient ss s
  have key : Var.key ⟨"D"⟩ = "d" := by decide +kernel
  have found : s.get? (Var.key ⟨"D"⟩) = some (.int 7) := by rw [key, Store.get?_set, if_pos rfl]
  have written : Var.key ⟨"a"⟩ ∈ Stmt.keysWritten [(⟨"A"⟩, .literal (.int 1))] := by decide +kernel
  have before (t : Store) : ∀ u ∈ (Stmt.visits ss).take 4, u.unbound? t = none :=
    List.forall_mem_cons.mpr ⟨rfl, List.forall_mem_cons.mpr ⟨Visit.unbound?_of_written rfl written,
      List.forall_mem_cons.mpr ⟨rfl, List.forall_mem_singleton.mpr rfl⟩⟩⟩
  have last : ∀ u ∈ (Stmt.visits ss).drop 4, u.unbound? s = none :=
    List.forall_mem_singleton.mpr (Visit.unbound?_of_bound rfl found)
  have bound : ∀ v ∈ Stmt.visits ss, v.unbound? s = none := by
    rw [← List.take_append_drop 4 (Stmt.visits ss)]
    exact List.forall_mem_append.mpr ⟨before s, last⟩
  have early : Visit.unbound? ∅ ⟨[(⟨"A"⟩, .literal (.int 1)), (⟨"b"⟩, quotient)], .var ⟨"D"⟩⟩ = some ⟨"D"⟩ :=
    Visit.unbound?_eq_some.mpr ⟨rfl, Store.get?_empty _, by decide +kernel⟩
  have value : calculate "-(2 + 3)" = .ok (.int (-5)) := by decide +kernel
  have decided := (definite_assignment ss ∅).2.1 _ _ [] _ rfl (before ∅) early
  exact ⟨bound, (definite_assignment ss s).1 bound, before ∅, decided, value, (definite_assignment ss s).2.2 _ _ value⟩

end MiniPascal
