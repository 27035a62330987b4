import MiniPascal.Proofs.Execution
import MiniPascal.Proofs.Grammar.Disjoint
import MiniPascal.Proofs.Parsing
import MiniPascal.Proofs.Printing.Writing
import MiniPascal.Session

/-! # Statements in one text or in two

Two lists of statements may be run one after the other, or as one text with a semicolon between them. Both ways
execute the same statements, and both ways leave the same store if all goes well. But one text is one run: if its
second half fails, what its first half did is gone as well. -/

namespace MiniPascal
open Grammar

namespace Stmt
variable {text more : String} {ss ts : List Stmt}

theorem parse_error_of_parseAll (h : parseAll text = .ok ss) : ∃ e, Expr.parse text = .error e := by
  rcases parsed : Expr.parse text with e | x
  · exact ⟨e, rfl⟩
  · obtain ⟨ts, d, scanned, derived, -⟩ := Parser.statements_of_parse h
    obtain ⟨-, k, expression⟩ := Parser.run_sound Parser.expressions_obeyed Parser.exists_expression parsed
    rw [scanned] at expression
    exact absurd expression derived.not_expression

theorem parseAll_append (h : parseAll text = .ok ss) (h' : parseAll more = .ok ts) :
    parseAll (text ++ ";" ++ more) = .ok (ss ++ ts) := by
  obtain ⟨us, d, scanned, derived, levels, low⟩ := Parser.statements_of_parse h
  obtain ⟨vs, k, scanned', derived', levels', low'⟩ := Parser.statements_of_parse h'
  have writes : Writes (text ++ ";" ++ more).toList (us ++ .symbol .semicolon :: vs) := by
    rw [String.toList_append, String.toList_append, List.append_assoc]
    exact (Writes.of_ofText scanned).append (.symbol (s := .semicolon) nofun (.of_ofText scanned')) fun _ _ =>
      delimits_cons _ (by decide)
  refine ((Parser.statements_text_decided writes.ofText).ok _).mpr ⟨_, derived.append derived', ?_, ?_⟩
  · exact Nat.max_le.mpr ⟨levels, levels'⟩
  · exact List.forall_mem_append.mpr ⟨low, low'⟩

section
variable {s t : Store} {a : Unit} {e : Error}

theorem execAll_append (ss ts : List Stmt) : execAll (ss ++ ts) = execAll ss >>= fun _ => execAll ts := by
  induction ss with
  | nil => rfl
  | cons s ss ih =>
    rw [List.cons_append, execAll_cons, execAll_cons, ih]
    exact (bind_assoc _ _ _).symm

theorem execAll_append_of_ok (h : execAll ss s = .ok a t) (ts : List Stmt) : execAll (ss ++ ts) s = execAll ts t := by
  rw [execAll_append, Action.bind_of_ok h]

theorem execAll_append_of_error (h : execAll ss s = .error e t) (ts : List Stmt) :
    execAll (ss ++ ts) s = .error e t := by
  rw [execAll_append, Action.bind_of_error h]

end
end Stmt

namespace Session
variable {text shown : String} {ss : List Stmt} {s : Store} {u : Session} {e : Error}

/-- A line of statements executes them on a copy of the store. -/
theorem run_statements (h : Stmt.parseAll text = .ok ss) (s : Store) :
    run ⟨.lines, s⟩ text = match Stmt.execAll ss s with
      | .ok _ t => (.ok t.text, ⟨.lines, t⟩)
      | .error e _ => (.error e, ⟨.lines, s⟩) := by
  obtain ⟨e, other⟩ := Stmt.parse_error_of_parseAll h
  have line : Mode.run .lines text s = Mode.commit (Action.result? (Stmt.execAll ss)) s := by
    rw [Mode.run, Mode.runLine_of_statements other, Mode.runStatements_eq, h]
  rw [run, line, Mode.commit_eq, Action.result?]
  cases Stmt.execAll ss s <;> rfl

theorem run_statements_ok (h : Stmt.parseAll text = .ok ss) :
    run ⟨.lines, s⟩ text = (.ok shown, u) ↔ ∃ t, Stmt.execAll ss s = .ok () t ∧ shown = t.text ∧ u = ⟨.lines, t⟩ := by
  rw [run_statements h]
  rcases Stmt.execAll ss s with ⟨-, t⟩ | ⟨e, t⟩
  · simp [eq_comm]
  · simp

theorem run_statements_error (h : Stmt.parseAll text = .ok ss) :
    run ⟨.lines, s⟩ text = (.error e, u) ↔ (∃ t, Stmt.execAll ss s = .error e t) ∧ u = ⟨.lines, s⟩ := by
  rw [run_statements h]
  rcases Stmt.execAll ss s with ⟨-, t⟩ | ⟨e, t⟩
  · simp
  · simp [eq_comm]

end Session

/-- Texts of statements with a semicolon between them are the text of all the statements. A line with both does in one
run what two lines do in two, but leaves the store as it was before the first if either of them fails. -/
theorem statements_compose {text more : String} {ss ts : List Stmt} (h : Stmt.parseAll text = .ok ss)
    (h' : Stmt.parseAll more = .ok ts) :
    Stmt.parseAll (text ++ ";" ++ more) = .ok (ss ++ ts) ∧
      ∀ (s : Store), let both := Session.run ⟨.lines, s⟩ (text ++ ";" ++ more)
        (∀ shown t shown' u, Session.run ⟨.lines, s⟩ text = (.ok shown, t) → t.run more = (.ok shown', u) →
          both = (.ok shown', u)) ∧
        (∀ e t, Session.run ⟨.lines, s⟩ text = (.error e, t) → both = (.error e, ⟨.lines, s⟩)) ∧
        ∀ shown t e u, Session.run ⟨.lines, s⟩ text = (.ok shown, t) → t.run more = (.error e, u) →
          both = (.error e, ⟨.lines, s⟩) := by
  have parsed := Stmt.parseAll_append h h'
  refine ⟨parsed, fun s => ⟨?_, ?_, ?_⟩⟩
  · intro shown t shown' u run run'
    obtain ⟨t, first, -, rfl⟩ := (Session.run_statements_ok h).mp run
    obtain ⟨u, second, shows⟩ := (Session.run_statements_ok h').mp run'
    exact (Session.run_statements_ok parsed).mpr ⟨u, (Stmt.execAll_append_of_ok first ts).trans second, shows⟩
  · intro e t run
    obtain ⟨⟨t, first⟩, -⟩ := (Session.run_statements_error h).mp run
    exact (Session.run_statements_error parsed).mpr ⟨⟨t, Stmt.execAll_append_of_error first ts⟩, rfl⟩
  · intro shown t e u run run'
    obtain ⟨t, first, -, rfl⟩ := (Session.run_statements_ok h).mp run
    obtain ⟨⟨u, second⟩, -⟩ := (Session.run_statements_error h').mp run'
    exact (Session.run_statements_error parsed).mpr ⟨⟨u, (Stmt.execAll_append_of_ok first ts).trans second⟩, rfl⟩

theorem statements_compose_up_to_failure :
    Stmt.parseAll "a := 2;" = .ok [.assign ⟨"a"⟩ (.literal (.int 2)), .skip] ∧
      Stmt.parseAll "{b}B := A DIV 0" =
        .ok [.assign ⟨"B"⟩ (.binary .integerDiv (.var ⟨"A"⟩) (.literal (.int 0)))] ∧
      Stmt.parseAll "a := 2;;{b}B := A DIV 0" =
        .ok [.assign ⟨"a"⟩ (.literal (.int 2)), .skip,
          .assign ⟨"B"⟩ (.binary .integerDiv (.var ⟨"A"⟩) (.literal (.int 0)))] ∧
      (Session.start .lines).run "a := 2;;{b}B := A DIV 0" = (.error .divisionByZero, .start .lines) := by
  have first : Stmt.parseAll "a := 2;" = .ok [.assign ⟨"a"⟩ (.literal (.int 2)), .skip] := by decide +kernel
  have second : Stmt.parseAll "{b}B := A DIV 0" =
      .ok [.assign ⟨"B"⟩ (.binary .integerDiv (.var ⟨"A"⟩) (.literal (.int 0)))] := by decide +kernel
  obtain ⟨parsed, runs⟩ := statements_compose first second
  have lower : Var.key ⟨"a"⟩ = "a" := by decide +kernel
  have upper : Var.key ⟨"A"⟩ = "a" := by decide +kernel
  have done : Stmt.execAll [.assign ⟨"a"⟩ (.literal (.int 2)), .skip] ∅ = .ok () ((∅ : Store).set "a" (.int 2)) := by
    rw [← lower]
    rfl
  have operand : (Expr.var ⟨"A"⟩).eval ((∅ : Store).set "a" (.int 2)) = .ok (.int 2) := by
    rw [Expr.eval_var, upper, Store.get?_set, if_pos rfl]
  have fails : Expr.eval ((∅ : Store).set "a" (.int 2)) (.binary .integerDiv (.var ⟨"A"⟩) (.literal (.int 0))) =
      .error .divisionByZero := by
    rw [Expr.eval_binary, operand]
    rfl
  have shows := (Session.run_statements_ok (s := ∅) first).mpr ⟨_, done, rfl, rfl⟩
  have refused := (Session.run_statements_error second).mpr
    ⟨⟨_, (congrFun (Stmt.execAll_singleton _) _).trans (Stmt.exec_assign_of_error fails)⟩, rfl⟩
  exact ⟨first, second, parsed, (runs ∅).2.2 _ _ _ _ shows refused⟩

end MiniPascal
