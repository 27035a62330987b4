import MiniPascal.Proofs.Lines
import MiniPascal.Proofs.Nesting

/-! # Lines that are nested too deep

An expression that is nested too deep is told to be so when it is computed on its own, and also when a line assigns it.
A line that is this expression and nothing else is taken for statements after that, and shows what these have met: the
sign after a name where `:=` should stand, or the first token of the line where it should end. So the depth is never
told for such a line. -/

namespace MiniPascal
open Grammar

namespace Parser
variable {s : ParserState} {block : Parser (List Stmt)}

theorem eat_of_other {t : Token} (h : s.ahead ≠ some t) : eat t s = fail (.token t) s := by
  rw [eat, ahead_bind, if_neg h]

theorem statementsOf_of_error {e : Error} {t : ParserState} (h : statementOf block s = .error e t) :
    statementsOf block s = .error e t :=
  bind_of_error h

/-- Where no statement starts and no separator stands, there is one statement, which is nothing. -/
theorem statementsOf_of_nothing (noBlock : s.ahead ≠ some (.keyword .blockBegin))
    (noName : ∀ name, s.ahead ≠ some (.identifier name)) (noMore : s.ahead ≠ some (.symbol .semicolon)) :
    statementsOf block s = .ok [.skip] s := by
  have more : bounded (·.tokens.length) (repeated (.symbol .semicolon) (statementOf block)) s = .ok [] s :=
    repeated_of_end noMore
  rw [statementsOf, bind_of_ok (statementOf_of_other noBlock noName)]
  refine (bind_of_ok more).trans ?_
  rw [ahead_bind]
  rcases ahead : s.ahead with _ | t
  · rfl
  · cases t with
    | identifier name => exact absurd ahead (noName name)
    | _ => rfl

theorem assignment_of_other {name : String} {k : List Token} (tokens : s.tokens = .identifier name :: k)
    (open_ : s.ending = none) (other : k.head? ≠ some (.symbol .assign)) :
    assignment s = .error (.unexpected (.token (.symbol .assign)) k.head?) (s.skip 1) := by
  have ahead : (s.skip 1).ahead = k.head? := by simp [ParserState.ahead, ParserState.skip, tokens]
  rw [assignment, bind_of_ok (identifier_reads tokens open_)]
  refine bind_of_error ?_
  rw [eat_of_other (ahead ▸ other), fail, step_eq, Step.fail, ahead]

section
variable {t : Token} {ts : List Token} {name : String}

/-- A name is the start of an assignment, whatever comes after it. -/
theorem run_statements_of_identifier (other : ts.head? ≠ some (.symbol .assign)) :
    run statements ⟨.identifier name :: ts, none⟩ = .error (.unexpected (.token (.symbol .assign)) ts.head?) := by
  have settled : (ParserState.start ⟨.identifier name :: ts, none⟩).Settled := fun _ => rfl
  refine run_of_whole_error (t := (ParserState.start ⟨.identifier name :: ts, none⟩).skip 1) ?_
  rw [whole_of_settled settled]
  refine bind_of_error (statementsOf_of_error ?_)
  rw [statementOf_of_identifier rfl]
  exact assignment_of_other rfl rfl other

/-- Where no statement starts, the text should have ended. -/
theorem run_statements_of_other (noBlock : t ≠ .keyword .blockBegin) (noName : ∀ name, t ≠ .identifier name)
    (noMore : t ≠ .symbol .semicolon) :
    run statements ⟨t :: ts, none⟩ = .error (.unexpected .endOfInput (some t)) := by
  have settled : (ParserState.start ⟨t :: ts, none⟩).Settled := fun _ => rfl
  have ahead : (ParserState.start ⟨t :: ts, none⟩).ahead = some t := rfl
  have nothing : statements (ParserState.start ⟨t :: ts, none⟩) = .ok [.skip] (.start ⟨t :: ts, none⟩) := by
    rw [statements_eq]
    refine statementsOf_of_nothing ?_ ?_ ?_ <;> rw [ahead]
    · simpa using noBlock
    · simpa using noName
    · simpa using noMore
  have open_ : (ParserState.start ⟨t :: ts, none⟩).ahead ≠ none := ahead ▸ Option.some_ne_none t
  refine run_of_whole_error (t := .start ⟨t :: ts, none⟩) ?_
  rw [whole_of_settled settled, bind_of_ok nothing]
  refine bind_of_error ?_
  rw [endOfInput_of_some open_, fail, step_eq, Step.fail, ahead]

end

end Parser

/-- The error for tokens that are an expression and are taken for statements. -/
def misread : List Token → Error
  | .identifier _ :: ts => .unexpected (.token (.symbol .assign)) ts.head?
  | ts => .unexpected .endOfInput ts.head?

theorem misread_of_other {t : Token} {ts : List Token} (h : ∀ name, t ≠ .identifier name) :
    misread (t :: ts) = .unexpected .endOfInput (some t) := by
  cases t with
  | identifier name => exact absurd rfl (h name)
  | _ => rfl

section
variable {text : String} {ts : List Token} {e : Expr} {d : Nat}

theorem Stmt.parseAll_of_expression (scanned : TokenStream.ofText text = ⟨ts, none⟩) (derived : Expression ts e d) :
    Stmt.parseAll text = .error (misread ts) := by
  rw [Stmt.parseAll, scanned]
  rcases ts with _ | ⟨t, ts⟩
  · exact absurd derived Expression.ne_nil
  by_cases named : ∃ name, t = .identifier name
  · obtain ⟨name, rfl⟩ := named
    refine Parser.run_statements_of_identifier fun assign => ?_
    obtain ⟨rest, rfl⟩ := List.head?_eq_some_iff.mp assign
    exact Expression.not_assignment derived
  · have noName := not_exists.mp named
    obtain ⟨noMore, noKeyword⟩ := derived.starts
    rw [misread_of_other noName]
    exact Parser.run_statements_of_other (noKeyword .blockBegin) noName noMore

theorem Session.run_line_of_errors {first error : Error} (expression : Expr.parse text = .error first)
    (statements : Stmt.parseAll text = .error error) (s : Store) :
    (⟨.lines, s⟩ : Session).run text = (.error error, ⟨.lines, s⟩) := by
  have ran : Mode.run .lines text s = .error error s := by
    change Mode.runLine text s = _
    rw [Mode.runLine_of_statements expression, Mode.runStatements_eq, statements]
  rw [Session.run, ran]

/-- A line that assigns what is nested too deep tells the depth. -/
theorem Session.run_deep_assignment {name : String} (derived : Expression ts e d)
    (deep : ¬(d ≤ maxDepth ∧ e.height ≤ maxDepth))
    (scanned : TokenStream.ofText text = ⟨.identifier name :: .symbol .assign :: ts, none⟩) (s : Store) :
    (⟨.lines, s⟩ : Session).run text = (.error (.tooDeep (maxDepth + 1) maxDepth), ⟨.lines, s⟩) := by
  obtain ⟨first, expression⟩ := (Parser.expression_text_decided scanned).error fun _ _ => Expression.not_assignment
  have statements : Statements (.identifier name :: .symbol .assign :: ts) [.assign ⟨name⟩ e] d :=
    .one (.assign name derived)
  refine run_line_of_errors expression ?_ s
  refine (Parser.statements_text_decided scanned).tooDeep _ _ statements fun fits => deep ⟨fits.1, ?_⟩
  exact Stmt.withinHeight_assign.mp (fits.2 _ List.mem_cons_self)

/-- An expression that is nested too deep is told to be so, alone and in an assignment, but a line that is this
expression shows on every store what it has in place of a statement. -/
theorem deep_lines_misread (scanned : TokenStream.ofText text = ⟨ts, none⟩) (derived : Expression ts e d)
    (deep : ¬(d ≤ maxDepth ∧ e.height ≤ maxDepth)) :
    calculate text = .error (.tooDeep (maxDepth + 1) maxDepth) ∧
      (∀ s, (⟨.lines, s⟩ : Session).run text = (.error (misread ts), ⟨.lines, s⟩)) ∧
      ∀ name more, TokenStream.ofText more = ⟨.identifier name :: .symbol .assign :: ts, none⟩ → ∀ s,
        (⟨.lines, s⟩ : Session).run more = (.error (.tooDeep (maxDepth + 1) maxDepth), ⟨.lines, s⟩) := by
  have expression := (Parser.expression_text_decided scanned).tooDeep e d derived deep
  refine ⟨?_, fun s => ?_, fun name more assigned s => Session.run_deep_assignment derived deep assigned s⟩
  · rw [calculate, expression]
    rfl
  · exact Session.run_line_of_errors expression (Stmt.parseAll_of_expression scanned derived) s

end

/-! ### Signs -/

/-- The tokens of a name with this many signs before it. -/
def minusTokens (n : Nat) : List Token := List.replicate n (.symbol .minus) ++ [.identifier "x"]

/-- The tree of a name with this many signs before it. -/
def manyMinuses : Nat → Expr
  | 0 => .var ⟨"x"⟩
  | n + 1 => .unary .minus (manyMinuses n)

theorem minusTokens_factor (n : Nat) : Factor (minusTokens n) (manyMinuses n) n := by
  induction n with
  | zero => exact .identifier "x"
  | succ n ih => exact .signed .minus ih

theorem spells_x : Spells ['x'] (.identifier "x") := by
  have name : Token.ofWord ['x'] = .identifier "x" := by decide +kernel
  exact name ▸ ofWord_spells (.mk (by decide +kernel) nofun)

theorem manySigns_writes (n : Nat) : Writes (manySigns n).toList (minusTokens n) := by
  rw [manySigns, String.toList_append, String.toList_ofList]
  induction n with
  | zero => exact .token spells_x
  | succ n ih => exact ih.symbol (s := .minus) nofun

theorem ofText_assignment {text : String} {ts : List Token} (scanned : TokenStream.ofText text = ⟨ts, none⟩) :
    TokenStream.ofText ("x := " ++ text) = ⟨.identifier "x" :: .symbol .assign :: ts, none⟩ := by
  refine Writes.ofText ?_
  rw [String.toList_append]
  exact (Writes.token spells_x).append_blank ((Writes.of_ofText scanned).blank.symbol (s := .assign) nofun)

theorem deep_lines_misread_of_signs :
    TokenStream.ofText (manySigns 129) = ⟨minusTokens 129, none⟩ ∧
      Expression (minusTokens 129) (manyMinuses 129) 129 ∧ ¬129 ≤ maxDepth ∧
      calculate (manySigns 129) = .error (.tooDeep 129 128) ∧
      ∀ s, (⟨.lines, s⟩ : Session).run (manySigns 129) =
          (.error (.unexpected .endOfInput (some (.symbol .minus))), ⟨.lines, s⟩) ∧
        (⟨.lines, s⟩ : Session).run ("x := " ++ manySigns 129) = (.error (.tooDeep 129 128), ⟨.lines, s⟩) := by
  have scanned := (manySigns_writes 129).ofText
  have derived := (minusTokens_factor 129).expression
  have deep : ¬129 ≤ maxDepth := by decide
  obtain ⟨alone, line, assignment⟩ := deep_lines_misread scanned derived fun fits => deep fits.1
  exact ⟨scanned, derived, deep, alone, fun s => ⟨line s, assignment _ _ (ofText_assignment scanned) s⟩⟩

/-- So it is not the case that a line tells the depth of every expression that is nested too deep. -/
theorem not_deep_lines_told :
    ¬∀ (text : String) (ts : List Token) (e : Expr) (d : Nat), TokenStream.ofText text = ⟨ts, none⟩ →
      Expression ts e d → ¬(d ≤ maxDepth ∧ e.height ≤ maxDepth) →
      ∀ s, ((⟨.lines, s⟩ : Session).run text).1 = .error (.tooDeep (maxDepth + 1) maxDepth) := by
  intro told
  have scanned := (manySigns_writes 129).ofText
  have derived := (minusTokens_factor 129).expression
  have deep : ¬(129 ≤ maxDepth ∧ (manyMinuses 129).height ≤ maxDepth) := fun fits => absurd fits.1 (by decide)
  have alone := (Parser.expression_text_decided scanned).tooDeep _ _ derived deep
  have line := told _ _ _ _ scanned derived deep ∅
  rw [Session.run_line_of_errors alone (Stmt.parseAll_of_expression scanned derived)] at line
  cases line

end MiniPascal
