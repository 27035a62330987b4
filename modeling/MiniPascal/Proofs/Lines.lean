import MiniPascal.Proofs.Sequencing
import MiniPascal.Proofs.Stores

/-! # The two readings of a line

A line is taken for an expression, and for statements only if it is none. The order is of no consequence: no text is
an expression and statements as well, or a program and one of these. So a line that is accepted at all says the same
in either order, and a session that takes lines for statements first does the same with it. Only the error for a line
that is neither tells the two orders apart, since each of them shows what the reading that it tries last met. -/

namespace MiniPascal

/-- What a line says. -/
inductive Line where
  | expression (e : Expr)
  | statements (body : List Stmt)
deriving DecidableEq

namespace Line

/-- The line that a text is, where the text is taken for an expression first. -/
def ofText (text : String) : Except Error Line :=
  expression <$> Expr.parse text <|> statements <$> Stmt.parseAll text

/-- The line that a text is, where the text is taken for statements first. -/
def ofTextStatementsFirst (text : String) : Except Error Line :=
  statements <$> Stmt.parseAll text <|> expression <$> Expr.parse text

/-- Evaluates an expression in the store, or executes statements on a copy of it. -/
def run : Line → Action String
  | expression e => Mode.runExpression e
  | statements body => Mode.commit (Action.result? (Stmt.execAll body))

end Line

/-- Runs a line. What is no list of statements is taken for an expression. -/
def Mode.runLineStatementsFirst (text : String) : Action String :=
  match Stmt.parseAll text with
  | .ok body => commit (Action.result? (Stmt.execAll body))
  | .error _ => do
    let e ← liftExcept (Expr.parse text)
    runExpression e

section
variable {text : String}

/-! ### No text is read in two ways -/

theorem Expr.not_statements {e : Expr} {body : List Stmt} (h : Expr.parse text = .ok e) :
    Stmt.parseAll text ≠ .ok body := by
  intro h'
  obtain ⟨error, other⟩ := Stmt.parse_error_of_parseAll h'
  exact nomatch h.symm.trans other

theorem Program.not_expression {p : Program} {e : Expr} (h : Program.parse text = .ok p) :
    Expr.parse text ≠ .ok e := by
  intro h'
  obtain ⟨ts, d, scanned, program, -⟩ := Parser.program_of_parse h
  obtain ⟨us, k, scanned', expression, -⟩ := Parser.expression_of_parse h'
  obtain ⟨rfl, -⟩ := TokenStream.mk.inj (scanned.symm.trans scanned')
  exact program.not_expression expression

theorem Program.not_statements {p : Program} {body : List Stmt} (h : Program.parse text = .ok p) :
    Stmt.parseAll text ≠ .ok body := by
  intro h'
  obtain ⟨ts, d, scanned, program, -⟩ := Parser.program_of_parse h
  obtain ⟨us, k, scanned', statements, -⟩ := Parser.statements_of_parse h'
  obtain ⟨rfl, -⟩ := TokenStream.mk.inj (scanned.symm.trans scanned')
  exact program.not_statements statements

/-! ### Lines in either order -/

namespace Line
variable {line : Line} {e e' : Error}

theorem ofText_iff : ofText text = .ok line ↔ ofTextStatementsFirst text = .ok line := by
  unfold ofText ofTextStatementsFirst
  rcases first : Expr.parse text with e | x <;> rcases second : Stmt.parseAll text with e' | body
  · exact ⟨nofun, nofun⟩
  · exact Iff.rfl
  · exact Iff.rfl
  · exact absurd second (Expr.not_statements first)

theorem ofText_of_errors (first : Expr.parse text = .error e) (second : Stmt.parseAll text = .error e') :
    ofText text = .error e' ∧ ofTextStatementsFirst text = .error e := by
  rw [ofText, ofTextStatementsFirst, first, second]
  exact ⟨rfl, rfl⟩

end Line

namespace Mode

theorem runLine_eq (text : String) : runLine text = liftExcept (Line.ofText text) >>= Line.run := by
  unfold runLine runStatements Line.ofText
  rcases Expr.parse text with e | x
  · rcases Stmt.parseAll text with e' | body <;> rfl
  · rfl

theorem runLineStatementsFirst_eq (text : String) :
    runLineStatementsFirst text = liftExcept (Line.ofTextStatementsFirst text) >>= Line.run := by
  unfold runLineStatementsFirst Line.ofTextStatementsFirst
  rcases Stmt.parseAll text with e | body
  · rcases Expr.parse text with e' | x <;> rfl
  · rfl

theorem left_statementsFirst (text : String) (s : Store) :
    (runLineStatementsFirst text).left s = (runLine text).left s := by
  rw [runLine_eq, runLineStatementsFirst_eq]
  rcases accepted : Line.ofText text with e | line
  · rcases other : Line.ofTextStatementsFirst text with e' | line
    · rfl
    · exact nomatch accepted.symm.trans (Line.ofText_iff.mpr other)
  · rw [Line.ofText_iff.mp accepted]

end Mode

theorem Session.run_line (text : String) (s : Store) :
    (run ⟨.lines, s⟩ text).2 = ⟨.lines, (Mode.runLine text).left s⟩ := by
  rw [run, Mode.run, Action.left]
  cases Mode.runLine text s <;> rfl

/-- Line after line, statements first, leaves the store of a session. -/
theorem Session.store_statementsFirst (texts : List String) (s : Store) :
    texts.foldl (fun t text => (Mode.runLineStatementsFirst text).left t) s = (afterAll ⟨.lines, s⟩ texts).store := by
  induction texts generalizing s with
  | nil => rfl
  | cons text texts ih =>
    rw [List.foldl_cons, ih, afterAll_cons, run_line, Mode.left_statementsFirst]

/-- No text is accepted by two of the parsers. A line is accepted in one order if it is accepted in the other, and then
it says the same and is run in the same way on every store. A line that is rejected changes no store, and each order
shows the error of the reading that comes last. So line after line, either order leaves the store that a session has. -/
theorem reading_order_irrelevant :
    (∀ text,
      ((∀ e body, Expr.parse text = .ok e → Stmt.parseAll text ≠ .ok body) ∧
          (∀ p e, Program.parse text = .ok p → Expr.parse text ≠ .ok e) ∧
          ∀ p body, Program.parse text = .ok p → Stmt.parseAll text ≠ .ok body) ∧
        (∀ line, Line.ofText text = .ok line ↔ Line.ofTextStatementsFirst text = .ok line) ∧
        (∀ line, Line.ofText text = .ok line → ∀ s,
          Mode.runLine text s = line.run s ∧ Mode.runLineStatementsFirst text s = line.run s) ∧
        ∀ e e', Expr.parse text = .error e → Stmt.parseAll text = .error e' → ∀ s,
          Mode.runLine text s = .error e' s ∧ Mode.runLineStatementsFirst text s = .error e s) ∧
      ∀ texts s, texts.foldl (fun t text => (Mode.runLineStatementsFirst text).left t) s =
        (Session.afterAll ⟨.lines, s⟩ texts).store := by
  refine ⟨fun text => ⟨⟨fun _ _ => Expr.not_statements, fun _ _ => Program.not_expression,
    fun _ _ => Program.not_statements⟩, fun _ => Line.ofText_iff, fun line accepted s => ?_,
    fun e e' first second s => ?_⟩, Session.store_statementsFirst⟩
  · rw [Mode.runLine_eq, Mode.runLineStatementsFirst_eq, accepted, Line.ofText_iff.mp accepted]
    exact ⟨rfl, rfl⟩
  · obtain ⟨rejected, rejected'⟩ := Line.ofText_of_errors first second
    rw [Mode.runLine_eq, Mode.runLineStatementsFirst_eq, rejected, rejected']
    exact ⟨rfl, rfl⟩

/-- A line of each kind, and one that is neither. -/
theorem reading_order_irrelevant_of_quotient :
    let s := (∅ : Store).set "x" (.int 7)
    let failed : EStateM.Result Error Store String := .error .divisionByZero s
    Mode.runLine "x DIV 0" s = failed ∧ Mode.runLineStatementsFirst "x DIV 0" s = failed ∧
      Mode.runLineStatementsFirst "y := x DIV 2" s = .ok "x = 7\ny = 3" (s.set "y" (.int 3)) ∧
      Mode.runLine "x y" s = .error (.unexpected (.token (.symbol .assign)) (some (.identifier "y"))) s ∧
      Mode.runLineStatementsFirst "x y" s = .error (.unexpected .endOfInput (some (.identifier "y"))) s := by
  intro s failed
  have quotient : Line.ofText "x DIV 0" = .ok (.expression (.binary .integerDiv (.var ⟨"x"⟩) (.literal (.int 0)))) := by
    decide +kernel
  have assignment : Line.ofText "y := x DIV 2" =
      .ok (.statements [.assign ⟨"y"⟩ (.binary .integerDiv (.var ⟨"x"⟩) (.literal (.int 2)))]) := by
    decide +kernel
  obtain ⟨-, -, ran, -⟩ := reading_order_irrelevant.1 "x DIV 0"
  obtain ⟨-, -, assigned, -⟩ := reading_order_irrelevant.1 "y := x DIV 2"
  obtain ⟨-, -, -, rejected⟩ := reading_order_irrelevant.1 "x y"
  have key : Var.key ⟨"x"⟩ = "x" := by decide +kernel
  have target : Var.key ⟨"y"⟩ = "y" := by decide +kernel
  have operand : (Expr.var ⟨"x"⟩).eval s = .ok (.int 7) :=
    Expr.eval_var_of_some (by rw [key, Store.get?_set, if_pos rfl])
  have fails : (Line.expression (.binary .integerDiv (.var ⟨"x"⟩) (.literal (.int 0)))).run s = failed := by
    rw [Line.run, Mode.runExpression_eq, Expr.eval_binary, operand]
    rfl
  have half : Expr.eval s (.binary .integerDiv (.var ⟨"x"⟩) (.literal (.int 2))) = .ok (.int 3) := by
    rw [Expr.eval_binary, operand]
    rfl
  have ascends : Store.Ascends [("x", .int 7), ("y", .int 3)] := by decide
  have listing : (s.set "y" (.int 3)).toList = [("x", .int 7), ("y", .int 3)] := Store.toList_bindAll ascends
  have done : (Line.statements [.assign ⟨"y"⟩ (.binary .integerDiv (.var ⟨"x"⟩) (.literal (.int 2)))]).run s =
      .ok "x = 7\ny = 3" (s.set "y" (.int 3)) := by
    rw [Line.run, Mode.commit_eq, Action.result?, Stmt.execAll_singleton, Stmt.exec_assign_of_ok half, target]
    dsimp only
    rw [Store.text, listing]
    congr 1
  have assigns := (assigned _ assignment s).2.trans done
  refine ⟨(ran _ quotient s).1.trans fails, (ran _ quotient s).2.trans fails, assigns, ?_⟩
  exact rejected _ _ (by decide +kernel) (by decide +kernel) s

end
end MiniPascal
