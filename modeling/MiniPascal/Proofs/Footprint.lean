import Mathlib.Data.List.Basic
import MiniPascal.Proofs.Blocks
import MiniPascal.Proofs.Integers

/-! # Footprints

What a run can change are the targets of its assignments, and what it depends on are the variables that it reads. So it
keeps every other binding, and in two stores that agree on what it reads it goes the same way and leaves the same values
in what it reads and writes. Two statements of which neither writes what the other one touches may trade places. -/

namespace MiniPascal

/-- Two stores bind these keys to the same values, or both do not bind them. -/
def Store.AgreeOn (keys : List String) (s t : Store) : Prop :=
  ∀ key ∈ keys, s.get? key = t.get? key

instance (keys : List String) (s t : Store) : Decidable (Store.AgreeOn keys s t) :=
  inferInstanceAs (Decidable (∀ key ∈ keys, _))

namespace Store
variable {keys others : List String} {s t : Store}

theorem AgreeOn.mono (h : AgreeOn keys s t) (inside : others ⊆ keys) : AgreeOn others s t :=
  fun key mem => h key (inside mem)

theorem AgreeOn.set (h : AgreeOn keys s t) (key : String) (v : Value) :
    AgreeOn (keys ++ [key]) (s.set key v) (t.set key v) := by
  intro other mem
  rw [get?_set, get?_set]
  split
  · rfl
  · next distinct =>
    rcases List.mem_append.mp mem with mem | mem
    · exact h other mem
    · exact absurd (List.mem_singleton.mp mem).symm distinct

theorem agreeOn_set {key : String} (other : key ∉ keys) (s : Store) (v : Value) : AgreeOn keys s (s.set key v) := by
  intro inside mem
  rw [get?_set, if_neg]
  rintro rfl
  exact other mem

end Store

/-- The value of an expression depends on its variables only. -/
theorem Expr.eval_congr {s t : Store} {e : Expr} (h : Store.AgreeOn (e.reads.map Var.key) s t) :
    e.eval s = e.eval t := by
  induction e with
  | literal v => rfl
  | var x => rw [eval_var, eval_var, h x.key List.mem_cons_self]
  | unary op e ih => rw [eval_unary, eval_unary, ih h]
  | binary op l r ihl ihr =>
    rw [reads, List.map_append] at h
    rw [eval_binary, eval_binary, ihl (h.mono (List.subset_append_left _ _)),
      ihr (h.mono (List.subset_append_right _ _))]

namespace Stmt

/-- The keys of the variables in the expressions of assignments. -/
def keysRead (as : List (Var × Expr)) : List String :=
  as.flatMap fun a => a.2.reads.map Var.key

/-- The keys that assignments read or write. -/
def keysTouched (as : List (Var × Expr)) : List String :=
  keysRead as ++ keysWritten as

/-! ### One run -/

section
variable {key : String} {as : List (Var × Expr)}

theorem keeps_of_not_written {s : Store} (h : key ∉ keysWritten as) : Keeps (fun t => t.get? key = s.get? key) as := by
  intro a mem t v same _
  have distinct : a.1.key ≠ key := fun target => h (List.mem_map.mpr ⟨a, mem, target⟩)
  rw [Store.get?_set, if_neg distinct, same]

/-- A key that is not written keeps its value, even if the run fails. -/
theorem exec_frame {a : Stmt} (h : key ∉ keysWritten a.assignments) (s : Store) :
    (a.exec.left s).get? key = s.get? key :=
  exec_left a (keeps_of_not_written h) rfl

theorem execAll_frame {ss : List Stmt} (h : key ∉ keysWritten (allAssignments ss)) (s : Store) :
    ((execAll ss).left s).get? key = s.get? key :=
  execAll_left ss (keeps_of_not_written h) rfl

end

/-! ### Two runs -/

/-- Two runs both end without an error, in stores that agree, or both with the same error. -/
inductive Alike (keys : List String) : (r r' : EStateM.Result Error Store Unit) → Prop
  | ok {s t} (h : Store.AgreeOn keys s t) : Alike keys (.ok () s) (.ok () t)
  | error (e s t) : Alike keys (.error e s) (.error e t)

/-- In stores that agree on what they read, assignments go the same way, and leave stores that agree on what they wrote
as well. -/
theorem assignAll_alike {as : List (Var × Expr)} {keys : List String} {s t : Store} (reads : keysRead as ⊆ keys)
    (h : Store.AgreeOn keys s t) : Alike (keys ++ keysWritten as) (assignAll as s) (assignAll as t) := by
  induction as generalizing keys s t with
  | nil =>
    rw [keysWritten, List.map_nil, List.append_nil]
    exact .ok h
  | cons a as ih =>
    obtain ⟨target, value⟩ := a
    obtain ⟨first, others⟩ := List.append_subset.mp reads
    have same : value.eval s = value.eval t := Expr.eval_congr (h.mono first)
    rcases result : value.eval s with e | v
    · rw [assignAll_cons_of_error result, assignAll_cons_of_error (same.symm.trans result)]
      exact .error e s t
    · rw [assignAll_cons_of_ok result, assignAll_cons_of_ok (same.symm.trans result)]
      -- The target joins the keys on which the stores agree.
      have rest := ih (List.subset_append_of_subset_left _ others) (h.set target.key v)
      rwa [List.append_assoc] at rest

theorem Alike.of_ok {keys : List String} {s : Store} {r : EStateM.Result Error Store Unit}
    (h : Alike keys (.ok () s) r) : ∃ t, r = .ok () t ∧ Store.AgreeOn keys s t := by
  cases h with
  | ok agree => exact ⟨_, rfl, agree⟩

theorem Alike.of_error {keys : List String} {e : Error} {s : Store} {r : EStateM.Result Error Store Unit}
    (h : Alike keys (.error e s) r) : ∃ t, r = .error e t := by
  cases h with
  | error => exact ⟨_, rfl⟩

theorem exec_alike {a : Stmt} {s t : Store} (h : Store.AgreeOn (keysTouched a.assignments) s t) :
    Alike (keysTouched a.assignments) (a.exec s) (a.exec t) := by
  rw [exec_eq_assignAll]
  exact assignAll_alike (List.Subset.refl _) (h.mono (List.subset_append_left _ _))

/-- Statements bind their targets and keep all other bindings, also if they fail. In stores that agree on the variables
that they read they have the same error, or none, and then they leave stores that agree on what they read and write. -/
theorem footprint_of_run (ss : List Stmt) :
    (∀ s, ∀ key ∉ keysWritten (allAssignments ss), ((execAll ss).left s).get? key = s.get? key) ∧
      (∀ s t, execAll ss s = .ok () t →
        ∀ key, (t.get? key).isSome ↔ (s.get? key).isSome ∨ key ∈ keysWritten (allAssignments ss)) ∧
      ∀ s t, Store.AgreeOn (keysRead (allAssignments ss)) s t →
        Alike (keysTouched (allAssignments ss)) (execAll ss s) (execAll ss t) := by
  refine ⟨fun s key unwritten => execAll_frame unwritten s, fun s t done key => ?_, fun s t agree => ?_⟩
  · rw [execAll_eq_assignAll] at done
    exact (assignAll_ok_iff.mp done).isSome_iff key
  · rw [execAll_eq_assignAll]
    exact assignAll_alike (List.Subset.refl _) agree

theorem footprint_of_quotient :
    let quotient := Expr.binary .integerDiv (.var ⟨"X"⟩) (.var ⟨"w"⟩)
    let ss := [.assign ⟨"x"⟩ (.var ⟨"Y"⟩), .block [.assign ⟨"y"⟩ (.literal (.int 2)), .skip, .assign ⟨"z"⟩ quotient]]
    let s := ((∅ : Store).set "w" (.int 0)).set "y" (.int 1)
    let t := s.set "q" (.int 5)
    keysWritten (allAssignments ss) = ["x", "y", "z"] ∧ keysRead (allAssignments ss) = ["y", "x", "w"] ∧
      ((execAll ss).left t).get? "q" = some (.int 5) ∧
      Alike ["y", "x", "w", "x", "y", "z"] (execAll ss s) (execAll ss t) ∧
      ∀ u, execAll ss (t.set "w" (.int 1)) = .ok () u → (u.get? "z").isSome := by
  intro quotient ss s t
  have written : keysWritten (allAssignments ss) = ["x", "y", "z"] := by decide +kernel
  have read : keysRead (allAssignments ss) = ["y", "x", "w"] := by decide +kernel
  have touched : keysTouched (allAssignments ss) = ["y", "x", "w", "x", "y", "z"] := by decide +kernel
  have agree : Store.AgreeOn (keysRead (allAssignments ss)) s t := Store.agreeOn_set (by rw [read]; decide) s _
  have unwritten : "q" ∉ keysWritten (allAssignments ss) := by decide +kernel
  have target : "z" ∈ keysWritten (allAssignments ss) := by decide +kernel
  have found : t.get? "q" = some (.int 5) := by rw [Store.get?_set, if_pos rfl]
  obtain ⟨frame, bound, alike⟩ := footprint_of_run ss
  exact ⟨written, read, (frame t _ unwritten).trans found, touched ▸ alike s t agree,
    fun u done => (bound _ u done _).mpr (.inr target)⟩

/-! ### Two statements -/

/-- Neither statement writes a key that the other one reads or writes. -/
def Independent (a b : Stmt) : Prop :=
  (∀ key ∈ keysWritten a.assignments, key ∉ keysTouched b.assignments) ∧
    ∀ key ∈ keysWritten b.assignments, key ∉ keysTouched a.assignments

instance (a b : Stmt) : Decidable (a.Independent b) := inferInstanceAs (Decidable (_ ∧ _))

namespace Independent
variable {a b : Stmt} {s t u : Store} {e : Error}

theorem symm (h : a.Independent b) : b.Independent a := ⟨h.2, h.1⟩

/-- After an independent statement, a statement goes the same way. -/
theorem alike (h : a.Independent b) (first : a.exec s = .ok () t) :
    Alike (keysTouched b.assignments) (b.exec s) (execAll [a, b] s) := by
  have agree : Store.AgreeOn (keysTouched b.assignments) s t := by
    intro key touched
    have kept := exec_frame (fun written => h.1 key written touched) s
    rw [Action.left_of_ok first] at kept
    exact kept.symm
  rw [execAll_pair_of_ok first]
  exact exec_alike agree

theorem error_after (h : a.Independent b) (first : a.exec s = .ok () t) (second : b.exec s = .error e u) :
    ∃ w, execAll [a, b] s = .error e w := by
  have alike := h.alike first
  rw [second] at alike
  exact alike.of_error

/-- Every key has what the second statement writes to it, or else what the first one leaves. -/
theorem ok_after (h : a.Independent b) (first : a.exec s = .ok () t) (second : b.exec s = .ok () u) :
    ∃ w, execAll [a, b] s = .ok () w ∧
      ∀ key, w.get? key = if key ∈ keysWritten b.assignments then u.get? key else t.get? key := by
  have alike := h.alike first
  rw [second] at alike
  obtain ⟨w, both, agree⟩ := alike.of_ok
  refine ⟨w, both, fun key => ?_⟩
  split
  · next written => exact (agree key (List.mem_append_right _ written)).symm
  · next unwritten =>
    have kept := exec_frame unwritten t
    rw [execAll_pair_of_ok first] at both
    rwa [Action.left_of_ok both] at kept

theorem ok_both (h : a.Independent b) (first : a.exec s = .ok () t) (second : b.exec s = .ok () u) :
    ∃ w, execAll [a, b] s = .ok () w ∧ execAll [b, a] s = .ok () w := by
  obtain ⟨w, both, left⟩ := h.ok_after first second
  obtain ⟨w', both', right⟩ := h.symm.ok_after second first
  have same : w = w' := by
    refine Store.ext fun key => ?_
    rw [left, right]
    by_cases byFirst : key ∈ keysWritten a.assignments <;> by_cases bySecond : key ∈ keysWritten b.assignments
    · exact absurd (List.mem_append_right _ bySecond) (h.1 key byFirst)
    · rw [if_neg bySecond, if_pos byFirst]
    · rw [if_pos bySecond, if_neg byFirst]
    · -- No statement writes the key, so both leave it as it was.
      have kept := exec_frame byFirst s
      have kept' := exec_frame bySecond s
      rw [Action.left_of_ok first] at kept
      rw [Action.left_of_ok second] at kept'
      rw [if_neg bySecond, if_neg byFirst, kept, kept']
  exact ⟨w, both, same ▸ both'⟩

end Independent

/-- Of two independent statements it does not matter which comes first. In both orders they leave the same store, or in
both they fail; and if only one of them fails on its own, both orders fail with its error. -/
theorem independent_commute {a b : Stmt} (h : a.Independent b) (s : Store) :
    ((∃ t, execAll [a, b] s = .ok () t ∧ execAll [b, a] s = .ok () t) ∨
        ∃ e t e' t', execAll [a, b] s = .error e t ∧ execAll [b, a] s = .error e' t') ∧
      (∀ e t u, a.exec s = .error e t → b.exec s = .ok () u →
        (∃ t, execAll [a, b] s = .error e t) ∧ ∃ t, execAll [b, a] s = .error e t) ∧
      ∀ e t u, a.exec s = .ok () u → b.exec s = .error e t →
        (∃ t, execAll [a, b] s = .error e t) ∧ ∃ t, execAll [b, a] s = .error e t := by
  refine ⟨?_, fun e t u first second => ?_, fun e t u first second => ?_⟩
  · rcases first : a.exec s with ⟨⟨⟩, t⟩ | ⟨e, t⟩ <;> rcases second : b.exec s with ⟨⟨⟩, u⟩ | ⟨e', u⟩
    · exact .inl (h.ok_both first second)
    · obtain ⟨w, fails⟩ := h.error_after first second
      exact .inr ⟨e', w, e', u, fails, execAll_pair_of_error second a⟩
    · obtain ⟨w, fails⟩ := h.symm.error_after second first
      exact .inr ⟨e, t, e, w, execAll_pair_of_error first b, fails⟩
    · exact .inr ⟨e, t, e', u, execAll_pair_of_error first b, execAll_pair_of_error second a⟩
  · exact ⟨⟨t, execAll_pair_of_error first b⟩, h.symm.error_after second first⟩
  · exact ⟨h.error_after first second, ⟨t, execAll_pair_of_error second a⟩⟩

theorem independent_commute_with_failure :
    let quotient := Expr.binary .integerDiv (.var ⟨"z"⟩) (.literal (.int 0))
    let a := .block [.assign ⟨"x"⟩ (.literal (.int 1)), .skip, .assign ⟨"X"⟩ quotient]
    let b := .assign ⟨"w"⟩ (.var ⟨"Z"⟩)
    let s := (∅ : Store).set "z" (.int 7)
    a.Independent b ∧ (∃ t, execAll [a, b] s = .error .divisionByZero t) ∧
      ∃ t, execAll [b, a] s = .error .divisionByZero t := by
  intro quotient a b s
  have independent : a.Independent b := by decide +kernel
  have lower : Var.key ⟨"z"⟩ = "z" := by decide +kernel
  have upper : Var.key ⟨"Z"⟩ = "z" := by decide +kernel
  have other : Var.key ⟨"x"⟩ ≠ "z" := by decide +kernel
  have value : Expr.eval s (.var ⟨"Z"⟩) = .ok (.int 7) :=
    Expr.eval_var_of_some (by rw [upper, Store.get?_set, if_pos rfl])
  have operand : (Expr.var ⟨"z"⟩).eval (s.set (Var.key ⟨"x"⟩) (.int 1)) = .ok (.int 7) :=
    Expr.eval_var_of_some (by rw [lower, Store.get?_set, if_neg other, Store.get?_set, if_pos rfl])
  have fails : quotient.eval (s.set (Var.key ⟨"x"⟩) (.int 1)) = .error .divisionByZero := by
    rw [Expr.eval_binary, operand]
    rfl
  have first : a.exec s = .error .divisionByZero (s.set (Var.key ⟨"x"⟩) (.int 1)) := by
    rw [exec_eq_assignAll]
    exact assignAll_error_iff.mpr ⟨[_], _, [], rfl, .cons rfl (.nil _), fails⟩
  have second : b.exec s = .ok () (s.set (Var.key ⟨"w"⟩) (.int 7)) := exec_assign_of_ok value
  exact ⟨independent, (independent_commute independent s).2.1 _ _ _ first second⟩

end Stmt
end MiniPascal
