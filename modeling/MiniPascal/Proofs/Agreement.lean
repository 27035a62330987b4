import MiniPascal.Proofs.Execution
import MiniPascal.Proofs.Parsing
import MiniPascal.Proofs.Printing.Writing
import MiniPascal.Proofs.Stores
import MiniPascal.Session

/-! # One expression in three places

The text of an expression may be calculated, typed as a line, or assigned to a variable in a program. All three give
its value, or its error, and the program binds nothing else. The program needs a level more, for the block around the
assignment, so it has no room for expressions that use all the levels there are. -/

namespace MiniPascal
open Grammar

namespace Expr
variable {text : String} {e : Expr}

/-- The program that assigns the expression to `r`. -/
def assigned (e : Expr) : Program := ⟨"p", [], [.assign ⟨"r"⟩ e]⟩

theorem evaluate_assigned (e : Expr) (s : Store) :
    e.assigned.evaluate s = (e.eval s).map fun v => s.set "r" v := by
  have key : Var.key ⟨"r"⟩ = "r" := by decide +kernel
  rw [Program.evaluate, Program.exec, assigned, Stmt.execAll_singleton, Action.result?, Stmt.exec_assign, key]
  cases e.eval s <;> rfl

theorem calculate_eq (h : parse text = .ok e) : calculate text = e.eval ∅ := by
  rw [calculate, h]
  rfl

end Expr

/-- The text of a program that assigns an expression to `r`. -/
def assigning (text : String) : String := "PROGRAM p; BEGIN r := " ++ text ++ " END."

/-- The expression is read as it stands, with one more level around it. -/
theorem parse_assigning {text : String} {ts : List Token} {e : Expr} {d : Nat}
    (scanned : TokenStream.ofText text = ⟨ts, none⟩) (derived : Expression ts e d) (low : e.height ≤ maxDepth) :
    Program.parse (assigning text) =
      if d + 1 ≤ maxDepth then .ok e.assigned else .error (.tooDeep (maxDepth + 1) maxDepth) := by
  have before : Writes "PROGRAM p; BEGIN r :=".toList
      [.keyword .program, .identifier "p", .symbol .semicolon, .keyword .blockBegin, .identifier "r",
        .symbol .assign] :=
    .of_ofText (by decide +kernel)
  have after : Writes "END.".toList [.keyword .blockEnd, .symbol .dot] := .of_ofText (by decide +kernel)
  have first : "PROGRAM p; BEGIN r := ".toList = "PROGRAM p; BEGIN r :=".toList ++ [' '] := by decide +kernel
  have last : " END.".toList = ' ' :: "END.".toList := by decide +kernel
  have characters := calc
    (assigning text).toList = "PROGRAM p; BEGIN r := ".toList ++ text.toList ++ " END.".toList :=
      String.toList_append.trans (congrArg (· ++ _) String.toList_append)
    _ = "PROGRAM p; BEGIN r :=".toList ++ [' '] ++ text.toList ++ ' ' :: "END.".toList :=
      congrArg₂ (· ++ text.toList ++ ·) first last
    _ = "PROGRAM p; BEGIN r :=".toList ++ ' ' :: (text.toList ++ ' ' :: "END.".toList) := by
      rw [List.append_assoc, List.append_assoc, List.singleton_append]
  have writes := before.append_blank ((Writes.of_ofText scanned).append_blank after)
  rw [← characters] at writes
  have program : Grammar.Program _ e.assigned (d + 1) := .mk "p" .none (.mk (.one (.assign "r" derived)))
  refine (Parser.program_text_decided writes.ofText).of_derives ?_ fun _ => ?_
  · simpa using program
  · exact List.forall_mem_singleton.mpr (Stmt.withinHeight_assign.mpr low)

/-- An expression has the same value, or the same error, when it is calculated, as the first line of a session, and
assigned to a variable by a program, as long as a level is left for the block of the program. If none is left, the
program is too deep. -/
theorem expression_agrees {text : String} {e : Expr} (h : Expr.parse text = .ok e) :
    ∃ ts d, TokenStream.ofText text = ⟨ts, none⟩ ∧ Expression ts e d ∧ d ≤ 128 ∧
      (d ≤ 127 →
        (∀ v, calculate text = .ok v →
          interpret (assigning text) = .ok ((∅ : Store).set "r" v) ∧
            ((∅ : Store).set "r" v).toList = [("r", v)] ∧
            (Session.start .lines).run text = (.ok v.text, .start .lines)) ∧
        ∀ e, calculate text = .error e →
          interpret (assigning text) = .error e ∧ (Session.start .lines).run text = (.error e, .start .lines)) ∧
      (d = 128 → interpret (assigning text) = .error (.tooDeep 129 128)) := by
  obtain ⟨ts, d, scanned, derived, levels, low⟩ := Parser.expression_of_parse h
  have program := parse_assigning scanned derived low
  have line : Mode.run .lines text ∅ = Mode.runExpression e ∅ := by
    rw [Mode.run, Mode.runLine_of_expression h]
  refine ⟨ts, d, scanned, derived, levels, fun room => ?_, fun full => ?_⟩
  · have fits : d + 1 ≤ maxDepth := Nat.succ_le_succ room
    rw [if_pos fits] at program
    have interpreted : interpret (assigning text) = (calculate text).map fun v => (∅ : Store).set "r" v := by
      rw [interpret, program, Expr.calculate_eq h, ← Expr.evaluate_assigned]
      rfl
    have shown : (Session.start .lines).run text = ((calculate text).map Value.text, .start .lines) := by
      rw [Session.run, Session.start, line, Mode.runExpression_eq, Expr.calculate_eq h]
      cases e.eval ∅ <;> rfl
    refine ⟨fun v value => ?_, fun e fails => ?_⟩
    · rw [interpreted, shown, value]
      exact ⟨rfl, Store.toList_bindAll (List.pairwise_singleton _ ("r", v)), rfl⟩
    · rw [interpreted, shown, fails]
      exact ⟨rfl, rfl⟩
  · rw [full, if_neg (by decide)] at program
    rw [interpret, program]
    rfl

theorem expression_agrees_on_quotient :
    calculate "7 / (-2){half}" = .ok (.real (-3.5)) ∧
      interpret (assigning "7 / (-2){half}") = .ok ((∅ : Store).set "r" (.real (-3.5))) ∧
      ((∅ : Store).set "r" (.real (-3.5))).toList = [("r", .real (-3.5))] ∧
      (Session.start .lines).run "7 / (-2){half}" = (.ok "-3.5", .start .lines) := by
  have parsed : Expr.parse "7 / (-2){half}" =
      .ok (.binary .realDiv (.literal (.int 7)) (.unary .minus (.literal (.int 2)))) := by decide +kernel
  have value : calculate "7 / (-2){half}" = .ok (.real (-3.5)) := by decide +kernel
  have shown : (Value.real (-3.5)).text = "-3.5" := by decide +kernel
  have tokens : TokenStream.ofText "7 / (-2){half}" = ⟨[.number (.int 7), .symbol .divide, .symbol .leftParen,
    .symbol .minus, .number (.int 2), .symbol .rightParen], none⟩ := by decide +kernel
  obtain ⟨ts, d, scanned, derived, -, agrees, -⟩ := expression_agrees parsed
  cases tokens.symm.trans scanned
  have divisor := Factor.grouped (Factor.signed .minus (.number (.int 2))).expression
  have quotient := Chain.operator (.operand (.number (.int 7))) Multiplicative.divide divisor
  have levels : d = 2 := (derived.unique (.operand quotient)).2
  have room : d ≤ 127 := by omega
  obtain ⟨program, listing, line⟩ := (agrees room).1 _ value
  exact ⟨value, program, listing, shown ▸ line⟩

end MiniPascal
