import Mathlib.Data.List.Basic
import MiniPascal.Proofs.Blocks

/-! # Kinds of numbers

Whether a value is an integer or a real can be told without the value. The kinds of the variables and of the literals
settle the kind of every expression, and every assignment gives the kind of its expression to its target. So the kinds
that a run leaves depend on the kinds that it starts from, and on no number and no declaration. -/

namespace MiniPascal

/-- The two kinds of numbers. -/
inductive Kind where
  | integer
  | real
deriving DecidableEq, Repr

/-- The kind of a value. -/
def Value.kind : Value → Kind
  | int _ => .integer
  | real _ => .real

/-- The kind of a result: `/` gives a real, and the other operators give an integer exactly if both operands are
integers. -/
def BinaryOp.kind : BinaryOp → Kind → Kind → Kind
  | realDiv, _, _ => .real
  | _, .integer, .integer => .integer
  | _, _, _ => .real

/-- The kinds of variables by their keys, where a variable that is not bound has none. -/
abbrev Kinds := String → Option Kind

/-- The kinds of the values in a store. -/
def Store.kinds (s : Store) : Kinds := fun key => (s.get? key).map Value.kind

/-- The kind of an expression, if all of its variables have one. A sign keeps the kind of its operand. -/
def Expr.kind? (ks : Kinds) : Expr → Option Kind
  | literal v => some v.kind
  | var v => ks v.key
  | unary _ e => e.kind? ks
  | binary op l r => do
    let k ← l.kind? ks
    let k' ← r.kind? ks
    some (op.kind k k')

/-- The kinds after assignments, which are made one after the other. -/
def Stmt.kindsAfter (ks : Kinds) (as : List (Var × Expr)) : Kinds :=
  as.foldl (fun ks a => Function.update ks a.1.key (a.2.kind? ks)) ks

/-! ### Arithmetic -/

section
variable {v w u : Value}

theorem kind_of_ofReal? {x : Float} (h : orOverflow (Value.ofReal? x) = .ok v) : v.kind = .real := by
  unfold Value.ofReal? at h
  split at h <;> cases h
  rfl

theorem kind_of_ofInteger? {n : Int} (h : orOverflow (Value.ofInteger? n) = .ok v) : v.kind = .integer := by
  unfold Value.ofInteger? at h
  split at h <;> cases h
  rfl

namespace BinaryOp
variable {op : BinaryOp}

theorem kind_of_onReals {x y : Float} (h : op.onReals x y = .ok u) : u.kind = .real := by
  rcases op.onReals_cases x y with result | ⟨z, result⟩ <;> rw [result] at h
  · cases h
  · exact kind_of_ofReal? h

theorem kind_of_onInts (integral : op ≠ realDiv) {m n : Int64} (h : op.onInts m n = .ok u) : u.kind = .integer := by
  rcases onInts_cases integral m n with result | ⟨k, result⟩ <;> rw [result] at h
  · cases h
  · exact kind_of_ofInteger? h

theorem kind_of_integral (integral : op ≠ realDiv) : op.kind .integer .integer = .integer := by
  cases op with
  | realDiv => exact absurd rfl integral
  | _ => rfl

theorem kind_real_left (op : BinaryOp) (k : Kind) : op.kind .real k = .real := by
  cases op <;> rfl

theorem kind_real_right (op : BinaryOp) (k : Kind) : op.kind k .real = .real := by
  cases op <;> cases k <;> rfl

/-- An operator gives a value of its kind, whatever numbers it is applied to. -/
theorem kind_of_apply (h : op.apply v w = .ok u) : u.kind = op.kind v.kind w.kind := by
  cases v with
  | real x => exact (kind_of_onReals h).trans (op.kind_real_left _).symm
  | int m =>
    cases w with
    | real y => exact (kind_of_onReals h).trans (op.kind_real_right _).symm
    | int n =>
      by_cases integral : op = realDiv
      · -- Integers are divided as reals.
        subst integral
        have quotient : realDiv.onReals (Binary64.ofInt m.toInt) (Binary64.ofInt n.toInt) = .ok u := h
        exact kind_of_onReals quotient
      · exact (kind_of_onInts integral h).trans (kind_of_integral integral).symm

end BinaryOp

theorem UnaryOp.kind_of_apply {op : UnaryOp} (h : op.apply v = .ok u) : u.kind = v.kind := by
  cases op with
  | plus =>
    cases h
    rfl
  | minus =>
    cases v with
    | int n => exact kind_of_ofInteger? h
    | real x =>
      cases h
      rfl

end

/-! ### Expressions -/

/-- An expression that has a value has a kind, and it is that of the value. -/
theorem Expr.kind_of_eval {s : Store} {e : Expr} {v : Value} (h : e.eval s = .ok v) :
    e.kind? s.kinds = some v.kind := by
  induction e generalizing v with
  | literal w =>
    cases h
    rfl
  | var x => rw [kind?, Store.kinds, get?_of_eval_var h, Option.map_some]
  | unary op e ih =>
    obtain ⟨w, operand, applied⟩ := operand_of_eval h
    rw [kind?, ih operand, UnaryOp.kind_of_apply applied]
  | binary op l r ihl ihr =>
    obtain ⟨w, w', left, right, applied⟩ := operands_of_eval h
    rw [kind?, ihl left, ihr right, BinaryOp.kind_of_apply applied]
    rfl

/-! ### Statements -/

theorem Store.kinds_set (s : Store) (key : String) (v : Value) :
    (s.set key v).kinds = Function.update s.kinds key (some v.kind) := by
  funext other
  rw [Function.update_apply, kinds, get?_set]
  by_cases same : key = other
  · rw [if_pos same, if_pos same.symm, Option.map_some]
  · rw [if_neg same, if_neg (Ne.symm same), kinds]

namespace Stmt

theorem Makes.kinds {as : List (Var × Expr)} {s t : Store} (h : Makes as s t) : t.kinds = kindsAfter s.kinds as := by
  induction h with
  | nil => rfl
  | cons value _ ih =>
    rw [ih, kindsAfter, kindsAfter, List.foldl_cons, Store.kinds_set, Expr.kind_of_eval value]

/-- Only the targets of assignments have other kinds after them. -/
theorem kindsAfter_frame {ks : Kinds} {as : List (Var × Expr)} {key : String} (unwritten : key ∉ keysWritten as) :
    kindsAfter ks as key = ks key := by
  induction as generalizing ks with
  | nil => rfl
  | cons a as ih =>
    obtain ⟨other, others⟩ := List.ne_and_not_mem_of_not_mem_cons unwritten
    rw [kindsAfter, List.foldl_cons]
    exact (ih others).trans (Function.update_of_ne other _ _)

theorem kinds_of_execAll {ss : List Stmt} {s t : Store} (h : execAll ss s = .ok () t) :
    t.kinds = kindsAfter s.kinds (allAssignments ss) := by
  rw [execAll_eq_assignAll] at h
  exact (assignAll_ok_iff.mp h).kinds

end Stmt

theorem Action.result?_of_ok {a : Action Unit} {s t : Store} (h : a s = .ok () t) : a.result? s = .ok t := by
  rw [result?, h]

theorem Action.ok_of_result? {a : Action Unit} {s t : Store} (h : a.result? s = .ok t) : a s = .ok () t := by
  unfold result? at h
  split at h <;> cases h
  assumption

/-- Kinds are static. An expression that has a value has the kind that follows from the kinds of the variables, and
statements without an error leave the kinds that follow for their assignments in a row, also in a program, whatever it
declares. -/
theorem kinds_static :
    (∀ s e v, Expr.eval s e = .ok v → e.kind? s.kinds = some v.kind) ∧
      (∀ ss s t, Stmt.execAll ss s = .ok () t → t.kinds = Stmt.kindsAfter s.kinds (Stmt.allAssignments ss)) ∧
      ∀ name declarations ss s t, Program.evaluate ⟨name, declarations, ss⟩ s = .ok t →
        t.kinds = Stmt.kindsAfter s.kinds (Stmt.allAssignments ss) :=
  ⟨fun _ _ _ => Expr.kind_of_eval, fun _ _ _ => Stmt.kinds_of_execAll,
    fun _ _ _ _ _ result => Stmt.kinds_of_execAll (Action.ok_of_result? result)⟩

theorem kinds_static_of_quotients :
    let half := Expr.binary .realDiv (.var ⟨"a"⟩) (.literal (.int 2))
    let ss := [.assign ⟨"a"⟩ (.literal (.int 8)), .assign ⟨"b"⟩ (.unary .minus (.var ⟨"A"⟩)),
      .block [.skip, .assign ⟨"A"⟩ half], .assign ⟨"c"⟩ (.binary .integerDiv (.var ⟨"a"⟩) (.var ⟨"b"⟩))]
    let s := (∅ : Store).set "a" (.int 7)
    (half.eval s = .ok (.real 3.5) ∧ half.kind? s.kinds = some .real) ∧
      (∃ t, Stmt.execAll ss s = .ok () t ∧ t.kinds "a" = some .real ∧ t.kinds "b" = some .integer) ∧
      ∃ t, Program.evaluate ⟨"p", [⟨⟨"a"⟩, .integer⟩], ss⟩ s = .ok t ∧ t.kinds "c" = some .real ∧
        t.kinds "d" = none := by
  intro half ss s
  have lower : Var.key ⟨"a"⟩ = "a" := by decide +kernel
  have upper : Var.key ⟨"A"⟩ = "a" := by decide +kernel
  have second : Var.key ⟨"b"⟩ = "b" := by decide +kernel
  have halves {t : Store} {v w : Value} (found : t.get? "a" = some v)
      (applied : BinaryOp.realDiv.apply v (.int 2) = .ok w) :
      half.eval t = .ok w := by
    rw [Expr.eval_binary, Expr.eval_var_of_some (lower ▸ found)]
    exact applied
  have value : half.eval s = .ok (.real 3.5) := halves (by rw [Store.get?_set, if_pos rfl]) (by decide +kernel)
  let t₁ := s.set (Var.key ⟨"a"⟩) (.int 8)
  let t₂ := t₁.set (Var.key ⟨"b"⟩) (.int (-8))
  let t₃ := t₂.set (Var.key ⟨"A"⟩) (.real 4)
  have negated : Expr.eval t₁ (.unary .minus (.var ⟨"A"⟩)) = .ok (.int (-8)) := by
    have operand : (Expr.var ⟨"A"⟩).eval t₁ = .ok (.int 8) :=
      Expr.eval_var_of_some (by rw [Store.get?_set, upper, lower, if_pos rfl])
    rw [Expr.eval_unary, operand]
    rfl
  have halved : half.eval t₂ = .ok (.real 4) := by
    have found : t₂.get? "a" = some (.int 8) := by simp [t₁, t₂, lower, second, Store.get?_set]
    exact halves found (by decide +kernel)
  have quotient : Expr.eval t₃ (.binary .integerDiv (.var ⟨"a"⟩) (.var ⟨"b"⟩)) = .ok (.real (-0.0)) := by
    have left : (Expr.var ⟨"a"⟩).eval t₃ = .ok (.real 4) :=
      Expr.eval_var_of_some (by rw [Store.get?_set, upper, lower, if_pos rfl])
    have right : (Expr.var ⟨"b"⟩).eval t₃ = .ok (.int (-8)) :=
      Expr.eval_var_of_some (by simp [second, upper, t₂, t₃, Store.get?_set])
    rw [Expr.eval_binary, left, right]
    decide +kernel
  have makes : Stmt.Makes (Stmt.allAssignments ss) s _ :=
    .cons rfl (.cons negated (.cons halved (.cons quotient (.nil _))))
  have done : Stmt.execAll ss s = .ok () _ := ((Stmt.blocks_transparent ss s).2.1 _).mpr makes
  have run : Program.evaluate ⟨"p", [⟨⟨"a"⟩, .integer⟩], ss⟩ s = .ok _ := Action.result?_of_ok done
  refine ⟨⟨value, kinds_static.1 _ _ _ value⟩, ⟨_, done, ?_⟩, _, run, ?_⟩
  · rw [kinds_static.2.1 _ _ _ done]
    decide +kernel
  · rw [kinds_static.2.2 _ _ _ _ _ run]
    have unbound : s.kinds "d" = none := by simp [s, Store.kinds, Store.get?_set]
    refine ⟨by decide +kernel, Eq.trans ?_ unbound⟩
    have others : "d" ∉ Stmt.keysWritten (Stmt.allAssignments ss) := by decide +kernel
    exact Stmt.kindsAfter_frame others

end MiniPascal
