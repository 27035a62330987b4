import Mathlib.Logic.Function.Basic
import MiniPascal.Evaluation.Statement
import MiniPascal.Proofs.Grammar.Program

/-! # Evaluation within a number of calls

Evaluation goes down into the operands of an operator, and execution into the statements of a block, with one call
inside of another for each. Here the same rules run in a monad that gives up at a call that has as many calls of its
procedure around it as are allowed. The height of an expression and the levels of a derivation say how many calls are
enough, and then nothing is given up. -/

namespace MiniPascal
open Grammar

/-- How many calls of each procedure may be inside of each other. -/
abbrev Limits := Procedure → Nat

/-- Runs in which a call may be given up. -/
abbrev Limited (m : Type → Type) := ReaderT Limits (OptionT m)

/-- A call leaves one call less to its body. -/
instance {m : Type → Type} [Monad m] : Calls (Limited m) where
  call procedure body := fun limits =>
    match limits procedure with
    | 0 => failure
    | n + 1 => body (Function.update limits procedure n)

/-- So many calls for expressions, and so many for blocks. -/
def limitsOf (calls blocks : Nat) : Limits
  | .expression => calls
  | .block => blocks

/-- The value of an expression in a store, with at most this number of calls inside of each other. -/
def Expr.evalWithin (s : Store) (calls : Nat) (e : Expr) : OptionT (Except Error) Value :=
  (e.evalIn s : Limited (Except Error) Value) (limitsOf calls 0)

/-- Executes the statements of a block, with at most this number of calls inside of each other for an expression, and of
blocks inside of each other, itself included. -/
def Stmt.execAllWithin (calls blocks : Nat) (ss : List Stmt) : OptionT Action Unit :=
  (Stmt.execAllIn ss : Limited Action Unit) (limitsOf calls blocks)

/-! ### Enough calls -/

/-- The monads in which a call is its body, and an error ends a run. -/
structure Plain (m : Type → Type) [Monad m] [MonadExceptOf Error m] [Calls m] : Prop where
  call : ∀ {α : Type} (procedure : Procedure) (body : m α), Calls.call procedure body = body
  throw : ∀ {α β : Type} (e : Error) (k : α → m β), (throw e >>= k) = throw e

theorem plain_except : Plain (Except Error) := ⟨fun _ _ => rfl, fun _ _ => rfl⟩

theorem plain_action : Plain Action := ⟨fun _ _ => rfl, fun _ _ => rfl⟩

/-- With these limits nothing is given up: a run is that of the monad below. -/
def Enough {m : Type → Type} [Monad m] {α : Type} (limits : Limits) (x : Limited m α) (y : m α) : Prop :=
  x limits = OptionT.lift y

namespace Enough
variable {m : Type → Type} [Monad m] {α β : Type} {limits : Limits}

theorem throw [MonadExceptOf Error m] [Calls m] (plain : Plain m) (e : Error) :
    Enough limits (throwThe Error e : Limited m α) (throwThe Error e) :=
  congrArg OptionT.mk (plain.throw e _).symm

/-- One call is enough for a call whose body is content with the others. -/
theorem call [MonadExceptOf Error m] [Calls m] (plain : Plain m) {procedure : Procedure} {x : Limited m α} {y : m α}
    (one : 0 < limits procedure)
    (body : Enough (Function.update limits procedure (limits procedure - 1)) x y) :
    Enough limits (Calls.call procedure x) (Calls.call procedure y) := by
  obtain ⟨n, left⟩ := Nat.exists_eq_add_one.mpr one
  rw [left, Nat.add_sub_cancel] at body
  have made : Calls.call procedure x limits = x (Function.update limits procedure n) := by
    show (match limits procedure with
      | 0 => failure
      | n + 1 => x (Function.update limits procedure n)) = _
    rw [left]
  rw [plain.call, Enough, made]
  exact body

variable [LawfulMonad m]

theorem pure (a : α) : Enough limits (pure a : Limited m α) (pure a) :=
  (OptionT.lift_pure a).symm

theorem bind {x : Limited m α} {y : m α} {f : α → Limited m β} {g : α → m β} (first : Enough limits x y)
    (second : ∀ a, Enough limits (f a) (g a)) : Enough limits (x >>= f) (y >>= g) := by
  have opened : (x >>= f) limits = x limits >>= fun a => f a limits := rfl
  rw [Enough, opened, first, OptionT.lift_bind]
  exact congrArg (_ >>= ·) (funext second)

theorem liftExcept [MonadExceptOf Error m] [Calls m] (plain : Plain m) (x : Except Error α) :
    Enough limits (liftExcept x : Limited m α) (liftExcept x) := by
  cases x with
  | ok a => exact .pure a
  | error e => exact .throw plain e

end Enough

/-- More calls than the height of an expression are enough for it. -/
theorem Expr.evalIn_enough {m : Type → Type} [Monad m] [LawfulMonad m] [MonadExceptOf Error m] [Calls m]
    (plain : Plain m) {s : Store} {e : Expr} {limits : Limits} (low : e.height < limits .expression) :
    Enough limits (e.evalIn s : Limited m Value) (e.evalIn s) := by
  induction e generalizing limits with
  | literal v => exact .call plain low (.pure v)
  | var v =>
    refine .call plain low ?_
    cases s.get? v.key with
    | some value => exact .pure value
    | none => exact .throw plain _
  | unary op e ih =>
    refine .call plain (Nat.zero_lt_of_lt low) ((ih ?_).bind fun v => .liftExcept plain _)
    rw [Function.update_self]
    exact Nat.lt_sub_of_add_lt low
  | binary op l r ihl ihr =>
    obtain ⟨left, right⟩ : l.height < limits .expression - 1 ∧ r.height < limits .expression - 1 :=
      Nat.max_lt.mp (Nat.lt_sub_of_add_lt low)
    refine .call plain (Nat.zero_lt_of_lt low) ((ihl ?_).bind fun v => (ihr ?_).bind fun w => .liftExcept plain _)
    · rwa [Function.update_self]
    · rwa [Function.update_self]

theorem Expr.evalWithin_eq (s : Store) {e : Expr} {calls : Nat} (low : e.height < calls) :
    e.evalWithin s calls = liftM (e.eval s) :=
  e.evalIn_enough plain_except low

/-! ### Enough blocks -/

section
variable {limits : Limits}

theorem Stmt.runIn_enough {ss : List Stmt} (each : ∀ s ∈ ss, Enough limits (s.execIn : Limited Action Unit) s.execIn) :
    Enough limits (Stmt.runIn ss : Limited Action Unit) (Stmt.runIn ss) := by
  induction ss with
  | nil => exact .pure ()
  | cons s ss ih =>
    obtain ⟨first, others⟩ := List.forall_mem_cons.mp each
    exact first.bind fun _ => ih others

theorem Stmt.assign_enough (target : Var) {value : Expr} (low : value.height < limits .expression) :
    Enough limits ((assign target value).execIn : Limited Action Unit) (assign target value).execIn := by
  have got : Enough limits (get : Limited Action Store) (get : Action Store) := rfl
  have put (s : Store) : Enough limits (set s : Limited Action Unit) (set s : Action Unit) := rfl
  exact got.bind fun s => (value.evalIn_enough plain_action low).bind fun v => put _

/-- A call for a block leaves the calls for expressions as they are. -/
theorem Stmt.execAllIn_enough {ss : List Stmt} {d : Nat} (calls : maxDepth < limits .expression)
    (blocks : d < limits .block)
    (each : ∀ s ∈ ss, ∀ inner : Limits, maxDepth < inner .expression → d ≤ inner .block →
      Enough inner (s.execIn : Limited Action Unit) s.execIn) :
    Enough limits (Stmt.execAllIn ss : Limited Action Unit) (Stmt.execAllIn ss) := by
  have other : Procedure.expression ≠ .block := nofun
  refine .call plain_action (Nat.zero_lt_of_lt blocks) (Stmt.runIn_enough fun s mem => each s mem _ ?_ ?_)
  · rwa [Function.update_of_ne other]
  · rw [Function.update_self]
    exact Nat.le_sub_one_of_lt blocks

namespace Grammar

/-- As many calls as a statement has levels are enough for the blocks in it. -/
theorem Statement.execIn_enough {ts : List Token} {s : Stmt} {d : Nat} (h : Statement ts s d) (low : s.WithinHeight)
    (calls : maxDepth < limits .expression) (blocks : d ≤ limits .block) :
    Enough limits (s.execIn : Limited Action Unit) s.execIn := by
  induction h using Statement.induction generalizing limits with
  | @block ts ss d _ ih =>
    refine Stmt.execAllIn_enough calls blocks fun s mem inner calls blocks => ?_
    obtain ⟨us, k, ⟨_, ih⟩, le⟩ := ih.exists_item mem
    exact ih (Stmt.withinHeight_block.mp low s mem) calls (Nat.le_trans le blocks)
  | assign name _ => exact Stmt.assign_enough _ (Nat.lt_of_le_of_lt (Stmt.withinHeight_assign.mp low) calls)
  | skip => exact .pure ()

theorem Statements.execAllWithin_eq {calls blocks : Nat} (enough : maxDepth < calls) {ts : List Token} {ss : List Stmt}
    {d : Nat} (h : Statements ts ss d) (low : ∀ s ∈ ss, s.WithinHeight) (levels : d < blocks) :
    Stmt.execAllWithin calls blocks ss = liftM (Stmt.execAll ss) := by
  have expressions : maxDepth < limitsOf calls blocks .expression := enough
  refine Stmt.execAllIn_enough expressions levels fun s mem inner calls blocks => ?_
  obtain ⟨us, k, item, le⟩ := h.exists_item mem
  exact item.execIn_enough (low s mem) calls (Nat.le_trans le blocks)

end Grammar
end
end MiniPascal
