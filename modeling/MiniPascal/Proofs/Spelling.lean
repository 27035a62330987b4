import MiniPascal.Proofs.Sequencing
import MiniPascal.Proofs.Spelling.Evaluation
import MiniPascal.Proofs.Spelling.Scanning
import MiniPascal.Proofs.Stores

/-! # The case of letters

Texts that differ only in the case of their letters do the same: keywords and keys are the same in either case, and
so are the places of all tokens. Only an error that tells a name tells it as it is spelled. -/

namespace MiniPascal

/-- The same errors, but for the case of letters in the name that they tell. -/
inductive Error.SameButCase : Error → Error → Prop
  | same (e) : SameButCase e e
  | unbound {name other} (h : name.toLower = other.toLower) : SameButCase (.unbound name) (.unbound other)
  | unexpected (x) {name other} (h : name.toLower = other.toLower) :
      SameButCase (.unexpected x (some (.identifier name))) (.unexpected x (some (.identifier other)))

/-- The same results, but for the case of letters in the name that an error tells. -/
inductive SameButCase {α : Type} : Except Error α → Except Error α → Prop
  | ok (a) : SameButCase (.ok a) (.ok a)
  | error {e e'} (h : e.SameButCase e') : SameButCase (.error e) (.error e')

theorem Token.respell_eq {f : String → String} {t u : Token} (h : t.respell f = u.respell f) :
    t = u ∨ ∃ name other, t = .identifier name ∧ u = .identifier other ∧ f name = f other := by
  cases t with
  | identifier name =>
    cases u with
    | identifier other => exact .inr ⟨name, other, rfl, rfl, Token.identifier.inj h⟩
    | _ => cases h
  | _ =>
    cases u with
    | identifier => cases h
    | _ => exact .inl h

theorem Error.sameButCase_of_respell {e e' : Error} (h : e.respell String.toLower = e'.respell String.toLower) :
    e.SameButCase e' := by
  cases e with
  | unbound name =>
    cases e' with
    | unbound other => exact .unbound (Error.unbound.inj h)
    | _ => cases h
  | unexpected x found =>
    cases e' with
    | unexpected y found' =>
      obtain ⟨rfl, same⟩ := Error.unexpected.inj h
      rcases found with _ | t <;> rcases found' with _ | u <;> try cases same
      · exact .same _
      · obtain rfl | ⟨name, other, rfl, rfl, spelling⟩ := Token.respell_eq (Option.some.inj same)
        · exact .same _
        · exact .unexpected x spelling
    | _ => cases h
  | lex | divisionByZero | overflow | tooDeep =>
    cases e' <;> cases h
    all_goals exact .same _

theorem sameButCase_of_respell {α : Type} {x y : Except Error α}
    (h : x.mapError (Error.respell String.toLower) = y.mapError (Error.respell String.toLower)) : SameButCase x y := by
  cases x with
  | error e =>
    cases y with
    | error e' => exact .error (Error.sameButCase_of_respell (Except.error.inj h))
    | ok b => cases h
  | ok a =>
    cases y with
    | error e' => cases h
    | ok b =>
      cases h
      exact .ok a

/-! ### Small letters -/

theorem parse_toLower {α : Type} {p : Parser α} {g : α → α} (hp : Parser.Respells String.toLower g p p)
    (text : String) :
    Parser.run p (.ofText text.toLower) =
      ((Parser.run p (.ofText text)).map g).mapError (Error.respell String.toLower) := by
  rw [TokenStream.ofText_toLower]
  exact Parser.run_respells hp _

theorem Program.parse_toLower (text : String) :
    Program.parse text.toLower =
      ((Program.parse text).map (Program.respell String.toLower)).mapError (Error.respell String.toLower) :=
  MiniPascal.parse_toLower Parser.program_respells text

theorem Stmt.parseAll_toLower (text : String) :
    Stmt.parseAll text.toLower =
      ((Stmt.parseAll text).map (Stmt.respellAll String.toLower)).mapError (Error.respell String.toLower) :=
  MiniPascal.parse_toLower Parser.statements_respells text

theorem Expr.parse_toLower (text : String) :
    Expr.parse text.toLower =
      ((Expr.parse text).map (Expr.respell String.toLower)).mapError (Error.respell String.toLower) :=
  MiniPascal.parse_toLower Parser.expressions_respells text

theorem interpret_toLower (text : String) :
    interpret text.toLower = (interpret text).mapError (Error.respell String.toLower) := by
  unfold interpret
  rw [Program.parse_toLower, mapError_bind]
  cases Program.parse text with
  | error e => rfl
  | ok p => exact p.evaluate_respell keyOf_toLower ∅

namespace Mode

theorem commit_respell {executed executed' : Store → Except Error Store} {f : String → String}
    (h : ∀ s, executed' s = (executed s).mapError (Error.respell f)) :
    commit executed' = (commit executed).respell f := by
  funext s
  simp only [Action.respell, EStateM.adaptExcept, commit_eq, h]
  cases executed s <;> rfl

theorem runProgram_toLower (text : String) : runProgram text.toLower = (runProgram text).respell String.toLower := by
  unfold runProgram
  rw [Program.parse_toLower, Action.respell_bind]
  cases Program.parse text with
  | error e => rfl
  | ok p => exact commit_respell (p.evaluate_respell keyOf_toLower)

theorem runStatements_toLower (text : String) :
    runStatements text.toLower = (runStatements text).respell String.toLower := by
  unfold runStatements
  rw [Stmt.parseAll_toLower, Action.respell_bind]
  cases Stmt.parseAll text with
  | error e => rfl
  | ok body =>
    refine commit_respell fun s => ?_
    rw [← Action.result?_respell, ← Stmt.execAll_respell keyOf_toLower]

theorem runExpression_toLower (e : Expr) :
    runExpression (e.respell String.toLower) = (runExpression e).respell String.toLower := by
  funext s
  simp only [Action.respell, EStateM.adaptExcept, runExpression_eq, e.eval_respell keyOf_toLower]
  cases e.eval s <;> rfl

theorem run_toLower (mode : Mode) (text : String) :
    mode.run text.toLower = (mode.run text).respell String.toLower := by
  cases mode with
  | programs => exact runProgram_toLower text
  | lines =>
    show runLine text.toLower = (runLine text).respell String.toLower
    unfold runLine
    rw [Expr.parse_toLower]
    cases Expr.parse text with
    | error _ => exact runStatements_toLower text
    | ok e => exact runExpression_toLower e

end Mode

theorem Session.run_toLower (s : Session) (text : String) :
    s.run text.toLower = ((s.run text).1.mapError (Error.respell String.toLower), (s.run text).2) := by
  unfold run
  rw [Mode.run_toLower]
  simp only [Action.respell, EStateM.adaptExcept]
  cases s.mode.run text s.store <;> rfl

/-- Texts that differ only in the case of letters give the same stores as programs, and from any session the same
session and the same that is shown, or else fail with the same error but for the case of the name it tells. -/
theorem case_of_letters_invisible {a b : String} (h : a.toLower = b.toLower) :
    SameButCase (interpret a) (interpret b) ∧
      ∀ s : Session, SameButCase (s.run a).1 (s.run b).1 ∧ (s.run a).2 = (s.run b).2 := by
  refine ⟨sameButCase_of_respell ?_, fun s => ?_⟩
  · rw [← interpret_toLower, ← interpret_toLower, h]
  · have same : s.run a.toLower = s.run b.toLower := by rw [h]
    rw [Session.run_toLower, Session.run_toLower] at same
    obtain ⟨shown, session⟩ := Prod.mk.inj same
    exact ⟨sameButCase_of_respell shown, session⟩

theorem case_of_letters_of_sigma :
    ((Session.start .programs).run "PROGRAM p; BEGIN xΣ := 1; Y := Xς + z END.").1 = .error (.unbound "z") ∧
      SameButCase (interpret "PROGRAM p; BEGIN xΣ := 1; Y := Xς + z END.")
        (interpret "Program P; Begin XΣ := 1; y := xς + Z End.") ∧
      ((Session.start .lines).run "xΣ := 1; Y := Xς").1 = .ok "xς = 1\ny = 1" ∧
      ((Session.start .lines).run "xΣ := 1; Y := Xς").2 = ((Session.start .lines).run "XΣ := 1; y := xς").2 := by
  have programs : "PROGRAM p; BEGIN xΣ := 1; Y := Xς + z END.".toLower =
      "Program P; Begin XΣ := 1; y := xς + Z End.".toLower := toLower_of_map (by decide +kernel)
  have lines : "xΣ := 1; Y := Xς".toLower = "XΣ := 1; y := xς".toLower := toLower_of_map (by decide +kernel)
  have upper : Var.key ⟨"xΣ"⟩ = "xς" := by decide +kernel
  have lower : Var.key ⟨"Xς"⟩ = "xς" := by decide +kernel
  have target : Var.key ⟨"Y"⟩ = "y" := by decide +kernel
  have unbound : Var.key ⟨"z"⟩ ≠ "xς" := by decide +kernel
  have program : Program.parse "PROGRAM p; BEGIN xΣ := 1; Y := Xς + z END." = .ok ⟨"p", [],
      [.assign ⟨"xΣ"⟩ (.literal (.int 1)), .assign ⟨"Y"⟩ (.binary .add (.var ⟨"Xς"⟩) (.var ⟨"z"⟩))]⟩ := by
    decide +kernel
  have line : Stmt.parseAll "xΣ := 1; Y := Xς" =
      .ok [.assign ⟨"xΣ"⟩ (.literal (.int 1)), .assign ⟨"Y"⟩ (.var ⟨"Xς"⟩)] := by decide +kernel
  let s := (∅ : Store).set (Var.key ⟨"xΣ"⟩) (.int 1)
  have operand : (Expr.var ⟨"Xς"⟩).eval s = .ok (.int 1) :=
    Expr.eval_var_of_some (by rw [Store.get?_set, if_pos (upper.trans lower.symm)])
  have missing : Expr.eval s (.binary .add (.var ⟨"Xς"⟩) (.var ⟨"z"⟩)) = .error (.unbound "z") := by
    rw [Expr.eval_binary, operand, Expr.eval_var, Store.get?_set, upper, if_neg unbound.symm, Store.get?_empty]
    rfl
  have fails : ((Session.start .programs).run "PROGRAM p; BEGIN xΣ := 1; Y := Xς + z END.").1 =
      .error (.unbound "z") := by
    rw [Session.start, Session.run, Mode.run, Mode.runProgram_eq, program]
    dsimp only
    rw [Mode.commit_eq, Program.evaluate, Program.exec, Action.result?,
      Stmt.execAll_pair_of_ok (Stmt.exec_assign_of_ok rfl), Stmt.exec_assign_of_error missing]
  have ascends : Store.Ascends [("xς", .int 1), ("y", .int 1)] := by decide
  have listing : (s.set (Var.key ⟨"Y"⟩) (.int 1)).toList = [("xς", .int 1), ("y", .int 1)] := by
    rw [target, show s = (∅ : Store).set "xς" (.int 1) from congrArg (Store.set ∅ · _) upper]
    exact Store.toList_bindAll ascends
  have shows : ((Session.start .lines).run "xΣ := 1; Y := Xς").1 = .ok "xς = 1\ny = 1" := by
    rw [Session.start, Session.run_statements line, Stmt.execAll_pair_of_ok (Stmt.exec_assign_of_ok rfl),
      Stmt.exec_assign_of_ok operand]
    dsimp only
    rw [Store.text, listing]
    rfl
  exact ⟨fails, (case_of_letters_invisible programs).1, shows, ((case_of_letters_invisible lines).2 _).2⟩

end MiniPascal
