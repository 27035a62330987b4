import MiniPascal.Proofs.Ranges
import MiniPascal.Proofs.Sequencing
import MiniPascal.Proofs.Sessions

/-! # What sessions bind

A session that started from nothing binds a key only because of a text that ran without an error: an identifier of
this key stands before `:=` in it. The values that sessions bind are in range, and so are all values that are computed
from them. -/

namespace MiniPascal
open Grammar

/-! ### Targets in texts -/

/-- The tokens at the start of an assignment to the variable. -/
def Var.target (v : Var) : List Token := [.identifier v.name, .symbol .assign]

theorem Grammar.Separated.target {separator : Token} {item : List Token → Stmt → Nat → Prop} {ts : List Token}
    {ss : List Stmt} {d : Nat} (items : ∀ {ts s d}, item ts s d → ∀ a ∈ s.assignments, a.1.target <:+: ts)
    (h : Separated separator item ts ss d) : ∀ a ∈ Stmt.allAssignments ss, a.1.target <:+: ts := by
  induction h with
  | one last =>
    rw [Stmt.allAssignments, Stmt.allAssignments, List.append_nil]
    exact items last
  | more first _ ih =>
    intro a mem
    rcases List.mem_append.mp mem with mem | mem
    · exact (items first a mem).trans (List.prefix_append _ _).isInfix
    · exact (ih a mem).trans ((List.suffix_cons _ _).trans (List.suffix_append _ _)).isInfix

theorem infix_enclosed (opening closing : Token) (ts : List Token) : ts <:+: opening :: (ts ++ [closing]) :=
  ⟨[opening], [closing], by simp⟩

/-- An assignment in a statement starts with the name of its target. -/
theorem Grammar.Statement.target {ts : List Token} {s : Stmt} {d : Nat} (h : Statement ts s d) :
    ∀ a ∈ s.assignments, a.1.target <:+: ts := by
  induction h using Statement.induction with
  | block _ body =>
    intro a mem
    exact (body.target (fun ⟨_, ih⟩ => ih) a mem).trans (infix_enclosed _ _ _)
  | assign name _ =>
    exact List.forall_mem_singleton.mpr (List.prefix_append (Var.target ⟨name⟩) _).isInfix
  | skip => exact nofun

theorem Grammar.Program.target {ts : List Token} {p : MiniPascal.Program} {d : Nat} (h : Program ts p d) :
    ∀ a ∈ Stmt.allAssignments p.body, a.1.target <:+: ts := by
  intro a mem
  obtain @⟨before, _, _, _, _, name, _, ⟨body⟩⟩ := h
  have inside := (Separated.target Statement.target body a mem).trans
    (infix_enclosed (.keyword .blockBegin) (.keyword .blockEnd) _)
  exact inside.trans ⟨.keyword .program :: .identifier name :: .symbol .semicolon :: before, [.symbol .dot], by simp⟩

namespace Mode
variable {mode : Mode} {text shown : String} {s t : Store} {ss : List Stmt}

/-- The statements of a text: the body of a program, or those of a line. -/
def statements? : Mode → String → Except Error (List Stmt)
  | programs, text => Program.body <$> Program.parse text
  | lines, text => Stmt.parseAll text

/-- The name stands before `:=` in the text, and one of the assignments of the text has it as its target. -/
def Assigns (mode : Mode) (text name : String) : Prop :=
  Var.target ⟨name⟩ <:+: (TokenStream.ofText text).tokens ∧
    ∃ ss value, mode.statements? text = .ok ss ∧ (⟨name⟩, value) ∈ Stmt.allAssignments ss

theorem assigns_of_statements (h : mode.statements? text = .ok ss) :
    ∀ a ∈ Stmt.allAssignments ss, mode.Assigns text a.1.name := by
  intro a mem
  refine ⟨?_, ss, a.2, h, mem⟩
  cases mode with
  | programs =>
    rcases parsed : Program.parse text with e | p <;> rw [statements?, parsed] at h <;> cases h
    obtain ⟨ts, d, scanned, derived, -⟩ := Parser.program_of_parse parsed
    rw [scanned]
    exact derived.target a mem
  | lines =>
    obtain ⟨ts, d, scanned, derived, -⟩ := Parser.statements_of_parse h
    rw [scanned]
    exact Separated.target Statement.target derived a mem

/-! ### Runs that change the store -/

theorem left_of_commit {a : Action Unit} (h : commit (Action.result? a) s = .ok shown t) : a.left s = t := by
  rw [commit_eq, Action.result?] at h
  unfold Action.left
  cases run : a s <;> rw [run] at h <;> cases h
  rfl

/-- What a run without an error leaves is the store as it was, or what the statements of the text make of it. -/
theorem run_of_ok (h : mode.run text s = .ok shown t) :
    t = s ∨ ∃ ss, mode.statements? text = .ok ss ∧ (Stmt.execAll ss).left s = t := by
  cases mode with
  | programs =>
    change runProgram text s = .ok shown t at h
    rw [runProgram_eq] at h
    rcases parsed : Program.parse text with e | p <;> rw [parsed] at h
    · cases h
    · refine .inr ⟨p.body, ?_, left_of_commit h⟩
      rw [statements?, parsed]
      rfl
  | lines =>
    change runLine text s = .ok shown t at h
    rcases parsed : Expr.parse text with e | x
    · rw [runLine_of_statements parsed, runStatements_eq] at h
      rcases body : Stmt.parseAll text with e | ss <;> rw [body] at h
      · cases h
      · exact .inr ⟨ss, body, left_of_commit h⟩
    · rw [runLine_of_expression parsed] at h
      exact .inl (runExpression_of_ok h)

theorem legible_of_statements (h : mode.statements? text = .ok ss) : (Stmt.block ss).Legible := by
  cases mode with
  | programs =>
    rcases parsed : Program.parse text with e | p <;> rw [statements?, parsed] at h <;> cases h
    exact Parser.legible_of_program parsed
  | lines => exact Parser.legible_of_statements h

end Mode

namespace Session

/-- A text of the session ran without an error, and assigns to a variable of this key. -/
def Binds (mode : Mode) (texts : List String) (key : String) : Prop :=
  ∃ before text after shown name, texts = before ++ text :: after ∧
    (((start mode).afterAll before).run text).1 = .ok shown ∧ mode.Assigns text name ∧ key = keyOf name

variable {mode : Mode} {texts : List String} {key : String}

theorem Binds.concat (h : Binds mode texts key) (text : String) : Binds mode (texts ++ [text]) key := by
  obtain ⟨before, earlier, after, shown, name, rfl, others⟩ := h
  exact ⟨before, earlier, after ++ [text], shown, name, by simp, others⟩

theorem afterAll_concat (s : Session) (texts : List String) (text : String) :
    s.afterAll (texts ++ [text]) = ((s.afterAll texts).run text).2 := by
  simp [afterAll]

theorem afterAll_mode (s : Session) (texts : List String) : (s.afterAll texts).mode = s.mode := by
  induction texts generalizing s with
  | nil => rfl
  | cons text texts ih => rw [afterAll_cons, ih, run_mode]

/-- The store after a run is the one before it, or else the run went without an error and executed the statements of
the text. -/
theorem run_store (s : Session) (text : String) :
    (s.run text).2.store = s.store ∨
      ∃ shown ss, (s.run text).1 = .ok shown ∧ s.mode.statements? text = .ok ss ∧
        (s.run text).2.store = (Stmt.execAll ss).left s.store := by
  rcases outcome : s.mode.run text s.store with ⟨shown, t⟩ | ⟨e, t⟩ <;> simp only [run, outcome]
  · rcases Mode.run_of_ok outcome with rfl | ⟨ss, parsed, rfl⟩
    · exact .inl rfl
    · exact .inr ⟨shown, ss, rfl, parsed, rfl⟩
  · exact .inl (Mode.run_of_error outcome)

/-- A property of stores holds after every text of a session, if it holds of the store without bindings and is kept by
the assignments of every text that runs without an error. -/
theorem store_induction {P : List String → Store → Prop} (start_ : P [] ∅)
    (idle : ∀ texts text s, P texts s → P (texts ++ [text]) s)
    (assigns : ∀ texts text shown ss, (((start mode).afterAll texts).run text).1 = .ok shown →
      mode.statements? text = .ok ss → Stmt.Keeps (P (texts ++ [text])) (Stmt.allAssignments ss))
    (texts : List String) : P texts ((start mode).afterAll texts).store := by
  induction texts using List.reverseRecOn with
  | nil => exact start_
  | append_singleton texts text ih =>
    rw [afterAll_concat]
    -- If the text fails or shows a value only, the store is the one before it, in a session with one more text.
    have before := idle texts text _ ih
    rcases run_store ((start mode).afterAll texts) text with same | ⟨shown, ss, ok, parsed, left⟩
    · rwa [same]
    · rw [afterAll_mode] at parsed
      rw [left]
      exact Stmt.execAll_left ss (assigns texts text shown ss ok parsed) before

theorem store_inRange (mode : Mode) (texts : List String) : ((start mode).afterAll texts).store.InRange := by
  refine store_induction (P := fun _ s => s.InRange) Store.inRange_empty (fun _ _ _ h => h) ?_ texts
  intro texts text shown ss _ parsed a mem s v hs result
  exact hs.set (((Mode.legible_of_statements parsed).assignments_inRange a mem).eval hs result) _

theorem store_binds {v : Value} (found : ((start mode).afterAll texts).store.get? key = some v) :
    Binds mode texts key := by
  refine store_induction (P := fun texts s => ∀ key v, s.get? key = some v → Binds mode texts key) ?_ ?_ ?_ texts key v
    found
  · intro key v found
    rw [Store.get?_empty] at found
    cases found
  · intro texts text s h key v found
    exact (h key v found).concat text
  · intro texts text shown ss ok parsed a mem s v h _ key w found
    rw [Store.get?_set] at found
    split at found
    · next same =>
      have target := Mode.assigns_of_statements parsed a mem
      exact ⟨texts, text, [], shown, a.1.name, rfl, ok, target, same.symm⟩
    · exact h key w found

/-- In a session from nothing every value is in range, every key is that of a variable to which an earlier text that ran
without an error assigns, and expressions have values in range. Programs, statements and expressions that are given to
one store keep its values in range and give values in range, whether those before them failed or not. -/
theorem bindings_in_range :
    (∀ mode texts, let s := ((start mode).afterAll texts).store
      (∀ key v, s.get? key = some v → v.InRange ∧ Binds mode texts key) ∧
        ∀ e v, (Task.expression e).Parsed ∨ e.InRange → e.eval s = .ok v → v.InRange) ∧
      ∀ s : Store, (∀ key x, s.get? key = some (.real x) → Binary64.isFinite x = true) →
        ∀ tasks : List Task, (∀ t ∈ tasks, t.Parsed) → ∀ done ∈ Task.performAll s tasks, Task.Bounded done := by
  refine ⟨fun mode texts => ⟨fun key v found => ?_, fun e v numbers result => ?_⟩, fun s finite tasks parsed => ?_⟩
  · exact ⟨store_inRange mode texts key v found, store_binds found⟩
  · have inRange : e.InRange := numbers.elim Task.Parsed.inRange id
    exact inRange.eval (store_inRange mode texts) result
  · exact Task.performAll_inRange (fun t mem => (parsed t mem).inRange) (Store.inRange_of_reals finite)

theorem bindings_in_range_after_failures :
    let texts := ["aB := -2.5", "c := 1; d := c DIV 0", "Ab / 0"]
    let s := ((start .lines).afterAll texts).store
    s.get? "ab" = some (.real (-2.5)) ∧ (Value.real (-2.5)).InRange ∧ Binds .lines texts "ab" ∧
      Expr.parse "-ab * 2" = .ok (.binary .mul (.unary .minus (.var ⟨"ab"⟩)) (.literal (.int 2))) ∧
      (Value.real 5).InRange ∧
      ∀ done ∈ Task.performAll s [.statements [.assign ⟨"d"⟩ (.var ⟨"ab"⟩), .assign ⟨"c"⟩ (.var ⟨"c"⟩)]],
        Task.Bounded done := by
  intro texts s
  let stored := (∅ : Store).set "ab" (.real (-2.5))
  have upper : Var.key ⟨"aB"⟩ = "ab" := by decide +kernel
  have lower : Var.key ⟨"ab"⟩ = "ab" := by decide +kernel
  have first : ((start .lines).run "aB := -2.5").2 = ⟨.lines, stored⟩ := by
    have parsed : Stmt.parseAll "aB := -2.5" = .ok [.assign ⟨"aB"⟩ (.unary .minus (.literal (.real 2.5)))] := by
      decide +kernel
    have negative : Expr.eval ∅ (.unary .minus (.literal (.real 2.5))) = .ok (.real (-2.5)) := by decide +kernel
    rw [start, run_statements parsed, Stmt.execAll_singleton, Stmt.exec_assign_of_ok negative, upper]
  have second : (run ⟨.lines, stored⟩ "c := 1; d := c DIV 0").2 = ⟨.lines, stored⟩ := by
    have parsed : Stmt.parseAll "c := 1; d := c DIV 0" = .ok [.assign ⟨"c"⟩ (.literal (.int 1)),
        .assign ⟨"d"⟩ (.binary .integerDiv (.var ⟨"c"⟩) (.literal (.int 0)))] := by decide +kernel
    have operand : (Expr.var ⟨"c"⟩).eval (stored.set (Var.key ⟨"c"⟩) (.int 1)) = .ok (.int 1) :=
      Expr.eval_var_of_some (by rw [Store.get?_set, if_pos rfl])
    have fails : Expr.eval (stored.set (Var.key ⟨"c"⟩) (.int 1))
        (.binary .integerDiv (.var ⟨"c"⟩) (.literal (.int 0))) = .error .divisionByZero := by
      rw [Expr.eval_binary, operand]
      rfl
    rw [run_statements parsed, Stmt.execAll_pair_of_ok (Stmt.exec_assign_of_ok rfl), Stmt.exec_assign_of_error fails]
  have third : (run ⟨.lines, stored⟩ "Ab / 0").2 = ⟨.lines, stored⟩ := by
    have parsed : Expr.parse "Ab / 0" = .ok (.binary .realDiv (.var ⟨"Ab"⟩) (.literal (.int 0))) := by decide +kernel
    exact run_of_expression rfl parsed
  have reached : s = stored := by
    show ((start .lines).afterAll texts).store = stored
    rw [afterAll_cons, first, afterAll_cons, second, afterAll_cons, third]
    rfl
  have found : s.get? "ab" = some (.real (-2.5)) := by
    rw [reached, Store.get?_set, if_pos rfl]
  have parsed : Expr.parse "-ab * 2" = .ok (.binary .mul (.unary .minus (.var ⟨"ab"⟩)) (.literal (.int 2))) := by
    decide +kernel
  have statements : (Task.statements [.assign ⟨"d"⟩ (.var ⟨"ab"⟩), .assign ⟨"c"⟩ (.var ⟨"c"⟩)]).Parsed :=
    ⟨"d := ab; c := c", by decide +kernel⟩
  have value : Expr.eval s (.binary .mul (.unary .minus (.var ⟨"ab"⟩)) (.literal (.int 2))) = .ok (.real 5) := by
    rw [Expr.eval_binary, Expr.eval_unary, Expr.eval_var_of_some (lower ▸ found)]
    decide +kernel
  obtain ⟨bindings, values⟩ := bindings_in_range.1 .lines texts
  have tasks := bindings_in_range.2 s (fun key x found => (bindings key _ found).1) _
    (List.forall_mem_singleton.mpr statements)
  exact ⟨found, (bindings _ _ found).1, (bindings _ _ found).2, parsed, values _ _ (.inl ⟨_, parsed⟩) value, tasks⟩

end Session
end MiniPascal
