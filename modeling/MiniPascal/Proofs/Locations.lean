import MiniPascal.Proofs.Definite
import MiniPascal.Proofs.Interleaving
import MiniPascal.Proofs.Scanning
import MiniPascal.Proofs.Scanning.Places

/-! # Where errors of scanning point

However a text is scanned, parsed or run, an error of scanning has the position of what it is about. Calls of a scanner
only reach places where scans may start. Parsing passes on the error that ends the tokens, and evaluation adds none. -/

namespace MiniPascal
open Grammar

/-- The errors of scanning that a text leads to: through calls of a scanner in any order, through each way to parse the
text, and through running it. -/
inductive LexError.Raised (text : String) : LexError → Prop
  | scanner {e} (calls : List Call) (h : .error e ∈ ((Scanner.ofText text).steps calls).map Scanner.Step.outcome) :
      Raised text e
  | expression {e} (h : Expr.parse text = .error (.lex e)) : Raised text e
  | statements {e} (h : Stmt.parseAll text = .error (.lex e)) : Raised text e
  | program {e} (h : Program.parse text = .error (.lex e)) : Raised text e
  | calculate {e} (h : calculate text = .error (.lex e)) : Raised text e
  | interpret {e} (h : interpret text = .error (.lex e)) : Raised text e

/-! ### Calls of a scanner -/

namespace Scanner
variable {text : List Char} {s : Scanner}

theorem answer_reached (h : Reached text s.cursor) (call : Call) :
    Reached text (s.answer call).2.cursor ∧ ∀ e, (s.answer call).1 = .error e → e.PointsInto text := by
  have scanned := h.scanned (scan_iff.mp rfl)
  obtain ⟨c, _ | _⟩ := s
  · obtain ⟨ended, given, -⟩ := answer_active c call
    rw [given]
    exact scanned
  · cases call with
    | request => exact scanned
    | next => exact ⟨h, nofun⟩

theorem steps_point (h : Reached text s.cursor) (calls : List Call) :
    ∀ x ∈ s.steps calls, ∀ e, x.outcome = .error e → e.PointsInto text := by
  induction calls generalizing s with
  | nil => exact List.forall_mem_nil _
  | cons c cs ih =>
    obtain ⟨reached, points⟩ := answer_reached h c
    exact List.forall_mem_cons.mpr ⟨points, ih reached⟩

theorem Yields.points {ts : List Token} {ending : Option LexError} (yields : s.Yields ts ending)
    (h : Reached text s.cursor) : ∀ e, ending = some e → e.PointsInto text := by
  induction yields with
  | stop => exact nofun
  | fail run =>
    rintro _ ⟨⟩
    exact (answer_reached h .next).2 _ (congrArg Prod.fst run)
  | token run _ ih =>
    have reached := (answer_reached h .next).1
    rw [answer, run] at reached
    exact ih reached

end Scanner

theorem reached_start (text : String) : Reached text.toList (Scanner.ofText text).cursor :=
  .between (.start _) .nil (.inl nofun)

/-! ### Parsing and running -/

section
variable {text : String} {e : LexError}

theorem TokenStream.points (h : (TokenStream.ofText text).ending = some e) : e.PointsInto text.toList :=
  (yields_ofCursor (.ofText text)).points (reached_start text) e h

theorem Expr.eval_ne_lex (x : Expr) (s : Store) : x.eval s ≠ .error (.lex e) := by
  intro failed
  obtain ⟨-, y, -, -, -, raises⟩ := Expr.exists_raises failed
  rcases raises.unbound_or_arithmetic with ⟨_, _, _, wrong⟩ | wrong <;> cases wrong

theorem Program.evaluate_ne_lex (p : Program) (s : Store) : p.evaluate s ≠ .error (.lex e) := by
  intro failed
  rw [evaluate, exec, Stmt.execAll_eq_assignAll, Action.result?] at failed
  split at failed
  · cases failed
  · next run =>
    cases failed
    obtain ⟨before, a, after, -, -, value⟩ := Stmt.assignAll_error_iff.mp run
    exact a.2.eval_ne_lex _ value

theorem expression_points (h : Expr.parse text = .error (.lex e)) : e.PointsInto text.toList :=
  TokenStream.points (Parser.lex_of_run Parser.expressions_obeyed Parser.exists_expression h).1

theorem program_points (h : Program.parse text = .error (.lex e)) : e.PointsInto text.toList :=
  TokenStream.points (Parser.lex_of_run Parser.program_obeys Parser.exists_program h).1

end

/-- Every error of scanning points to what it is about. -/
theorem LexError.points_into_text (text : String) (e : LexError) (h : e.Raised text) : e.PointsInto text.toList := by
  cases h with
  | scanner calls h =>
    obtain ⟨x, mem, outcome⟩ := List.mem_map.mp h
    exact Scanner.steps_point (reached_start text) calls x mem e outcome
  | expression h => exact expression_points h
  | statements h => exact TokenStream.points (Parser.lex_of_run Parser.statements_obeys Parser.exists_statements h).1
  | program h => exact program_points h
  | calculate h =>
    rcases parsed : Expr.parse text with error | x <;> rw [calculate, parsed] at h
    · cases h
      exact expression_points parsed
    · exact absurd h (x.eval_ne_lex ∅)
  | interpret h =>
    rcases parsed : Program.parse text with error | p <;> rw [interpret, parsed] at h
    · cases h
      exact program_points parsed
    · exact absurd h (p.evaluate_ne_lex ∅)

theorem LexError.points_into_text_of_numeral :
    let text := "1 := \x7b\n\x7d\n 9223372036854775808 #"
    let calls : List Call := [.next, .request, .request, .next, .request]
    let numeral := invalidNumber "9223372036854775808" ⟨3, 2⟩
    let sign := unexpectedChar '#' ⟨3, 22⟩
    let comment := unterminatedComment ⟨2, 4⟩
    let unfinished := "PROGRAM p;\nVAR\x7b never\nclosed"
    ((Scanner.ofText text).steps calls).map Scanner.Step.outcome =
        [.ok (some (.number (.int 1))), .ok (some (.symbol .assign)), .error numeral, .error sign, .error sign] ∧
      numeral.PointsInto text.toList ∧ sign.PointsInto text.toList ∧
      interpret unfinished = .error (.lex comment) ∧ comment.PointsInto unfinished.toList := by
  intro text calls numeral sign comment unfinished
  have outcomes : ((Scanner.ofText text).steps calls).map Scanner.Step.outcome =
      [.ok (some (.number (.int 1))), .ok (some (.symbol .assign)), .error numeral, .error sign, .error sign] := by
    decide +kernel
  have run : interpret unfinished = .error (.lex comment) := by
    have parsed : Program.parse unfinished = .error (.lex comment) := by decide +kernel
    rw [interpret, parsed]
    rfl
  refine ⟨outcomes, ?_, ?_, run, points_into_text _ _ (.interpret run)⟩
  · exact points_into_text _ _ (.scanner calls (by simp [outcomes]))
  · exact points_into_text _ _ (.scanner calls (by simp [outcomes]))

end MiniPascal
