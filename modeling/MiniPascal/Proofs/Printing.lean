import MiniPascal.Proofs.Parsing
import MiniPascal.Proofs.Printing.Statement

/-! # Printing and parsing

The text of a tree parses back to the tree. The parentheses around its operators and its blocks take levels that
the text it came from may have done without: the text is as deep as the cost of the tree, and exactly from one
level above the limit on it is too deep to be parsed. -/

namespace MiniPascal.Parser
open Grammar

/-! ### Expressions -/

theorem legible_of_expression {text : String} {e : Expr} (h : Expr.parse text = .ok e) : e.Legible := by
  obtain ⟨-, _, derivation⟩ := run_sound expressions_obeyed exists_expression h
  exact derivation.legible (spelled_ofText text)

/-- An expression that some text was parsed to is the expression of its own text, as long as it costs no more
than the limit. -/
theorem parse_text_of_expression {text : String} {e : Expr} (h : Expr.parse text = .ok e) :
    Expr.parse e.text = if e.cost ≤ maxDepth then .ok e else .error (.tooDeep (maxDepth + 1) maxDepth) := by
  obtain ⟨ts, writes, factor⟩ := (legible_of_expression h).written
  rw [Expr.parse, writes.ofText]
  exact (expressions_decided ts).of_derives factor.expression (Nat.le_trans e.height_le_cost)

theorem parse_text_of_signs :
    (∃ e, Expr.parse "-1.50 DIV (x)" = .ok e ∧ e.text = "((-1.5) DIV x)" ∧ Expr.parse e.text = .ok e) ∧
      ∃ e, Expr.parse (String.ofList (List.replicate 65 '-') ++ "x") = .ok e ∧
        Expr.parse e.text = .error (.tooDeep 129 128) := by
  have quotient : Expr.parse "-1.50 DIV (x)" =
      .ok (.binary .integerDiv (.unary .minus (.literal (.real 1.5))) (.var ⟨"x"⟩)) := by decide +kernel
  have signs : Expr.parse (String.ofList (List.replicate 65 '-') ++ "x") =
      .ok (Nat.repeat (.unary .minus) 65 (.var ⟨"x"⟩)) := by decide +kernel
  exact ⟨⟨_, quotient, by decide +kernel, (parse_text_of_expression quotient).trans (if_pos (by decide))⟩,
    _, signs, (parse_text_of_expression signs).trans (if_neg (by decide))⟩

/-! ### Statements -/

theorem legible_of_program {text : String} {p : MiniPascal.Program} (h : Program.parse text = .ok p) :
    (Stmt.block p.body).Legible := by
  obtain ⟨-, _, derivation⟩ := run_sound program_obeys exists_program h
  exact derivation.legible (spelled_ofText text)

theorem legible_of_statements {text : String} {ss : List Stmt} (h : Stmt.parseAll text = .ok ss) :
    (Stmt.block ss).Legible := by
  obtain ⟨-, _, derivation⟩ := run_sound statements_obeys exists_statements h
  exact derivation.legible (spelled_ofText text)

/-- Statements that some text was parsed to, or the body of such a program, are the only block of their text as a
block, as long as the block costs no more than the limit. -/
theorem parse_text_of_statements {text : String} {ss : List Stmt}
    (h : Stmt.parseAll text = .ok ss ∨ ∃ p, Program.parse text = .ok p ∧ p.body = ss) :
    Stmt.parseAll (Stmt.block ss).text =
      if (Stmt.block ss).cost ≤ maxDepth then .ok [.block ss] else .error (.tooDeep (maxDepth + 1) maxDepth) := by
  have legible : (Stmt.block ss).Legible := by
    rcases h with h | ⟨p, h, rfl⟩
    · exact legible_of_statements h
    · exact legible_of_program h
  obtain ⟨ts, writes, statement⟩ := legible.written
  rw [Stmt.parseAll, writes.ofText]
  refine (statements_decided ts).of_derives (.one statement) fun fits => ?_
  exact List.forall_mem_singleton.mpr (Stmt.withinHeight_of_cost_le fits)

theorem parse_text_of_empty_statements :
    (∃ p, Program.parse "PROGRAM p; BEGIN ; X := 1; BEGIN END END." = .ok p ∧
        (Stmt.block p.body).text = "BEGIN ; X := 1; BEGIN  END END" ∧
        Stmt.parseAll (Stmt.block p.body).text = .ok [.block p.body]) ∧
      ∃ ss, Stmt.parseAll ("x := " ++ String.ofList (List.replicate 64 '-') ++ "x") = .ok ss ∧
        Stmt.parseAll (Stmt.block ss).text = .error (.tooDeep 129 128) := by
  have program : Program.parse "PROGRAM p; BEGIN ; X := 1; BEGIN END END." =
      .ok ⟨"p", [], [.skip, .assign ⟨"X"⟩ (.literal (.int 1)), .block [.skip]]⟩ := by decide +kernel
  have signs : Stmt.parseAll ("x := " ++ String.ofList (List.replicate 64 '-') ++ "x") =
      .ok [.assign ⟨"x"⟩ (Nat.repeat (.unary .minus) 64 (.var ⟨"x"⟩))] := by decide +kernel
  exact ⟨⟨_, program, by decide +kernel,
      (parse_text_of_statements (.inr ⟨_, program, rfl⟩)).trans (if_pos (by decide +kernel))⟩,
    _, signs, (parse_text_of_statements (.inl signs)).trans (if_neg (by decide +kernel))⟩

end MiniPascal.Parser
