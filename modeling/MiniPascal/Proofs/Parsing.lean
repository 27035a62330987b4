import MiniPascal.Proofs.Parsing.Earliest

/-! # The parser and the grammar

For each of the three ways to parse a text, the grammar and two limits decide the result: an expression and
its levels and height, a list of statements, or a program. Every error of syntax is reported at the earliest
token that shows it. -/

namespace MiniPascal.Parser
open Grammar

/-! ### Expressions -/

theorem expressions_accepted :
    Accepts 0 (Prod.fst <$> expression) Expression (fun e => e.height ≤ maxDepth) id EndsExpression := by
  intro ts e d h s k tokens open_ hd hk
  rw [map_eq_pure_bind]
  exact .last (expression_accepts (Nat.zero_le _) h tokens open_ hd hk) rfl

theorem expressions_obeyed : Obeys (.of Expression) (Prod.fst <$> expression) := by
  intro s settled
  rw [map_eq_pure_bind]
  refine .bind (expression_obeys s settled) (fun ts r h => .of_word (a := r.1) h) ?_
  rintro ts ⟨e, _⟩ t passes ⟨d, h⟩
  exact .done passes.settled ⟨d, by simpa using h⟩

theorem expressions_local (n n' : Nat) : Local n n' (Prod.fst <$> expression) (Prod.fst <$> expression) := by
  rw [map_eq_pure_bind]
  exact expression_local.bind fun _ => .of_ok _

theorem expressions_decided (ts : List Token) :
    Decides (Expression ts) (fun e => e.height ≤ maxDepth) (run (Prod.fst <$> expression) ⟨ts, none⟩) :=
  run_decides expressions_accepted ⟨rfl, rfl⟩ expressions_obeyed exists_expression ts

theorem expression_text_decided {text : String} {ts : List Token} (scanned : TokenStream.ofText text = ⟨ts, none⟩) :
    Decides (Expression ts) (fun e => e.height ≤ maxDepth) (Expr.parse text) := by
  rw [Expr.parse, scanned]
  exact expressions_decided ts

theorem expression_of_parse {text : String} {e : Expr} (h : Expr.parse text = .ok e) :
    ∃ ts d, TokenStream.ofText text = ⟨ts, none⟩ ∧ Expression ts e d ∧ d ≤ maxDepth ∧ e.height ≤ maxDepth :=
  exists_of_run expressions_obeyed exists_expression expressions_decided h

/-- The tokens of a text are an expression in at most one way, and it is the result of parsing the text if it
keeps the limits. -/
theorem parse_expression_decides {text : String} {ts : List Token} (scanned : TokenStream.ofText text = ⟨ts, none⟩) :
    Decides (Expression ts) (fun e => e.height ≤ maxDepth) (Expr.parse text) ∧
      ∀ e f d k, Expression ts e d → Expression ts f k → e = f :=
  ⟨expression_text_decided scanned, fun _ _ _ _ h h' => (h.unique h').1⟩

example : Error.tooDeep (maxDepth + 1) maxDepth = .tooDeep 129 128 := rfl

theorem parse_signed_sum :
    Expr.parse "-(a + 1)" = .ok (.unary .minus (.binary .add (.var ⟨"a"⟩) (.literal (.int 1)))) := by
  have scanned : TokenStream.ofText "-(a + 1)" = ⟨[.symbol .minus, .symbol .leftParen, .identifier "a", .symbol .plus,
    .number (.int 1), .symbol .rightParen], none⟩ := by decide +kernel
  have sum : Expression ([.identifier "a"] ++ .symbol .plus :: [.number (.int 1)]) _ 0 :=
    .operator (Factor.identifier "a").expression .plus (.operand (.number (.int 1)))
  have signed : Expression _ _ 2 := (Factor.signed .minus (.grouped sum)).expression
  exact ((parse_expression_decides scanned).1.ok _).mpr ⟨2, signed, by decide, by decide⟩

/-! ### Programs -/

theorem statements_decided (ts : List Token) :
    Decides (Statements ts) (fun ss => ∀ s ∈ ss, s.WithinHeight) (run statements ⟨ts, none⟩) :=
  run_decides (statements_accepts (Nat.zero_le _)) (.inl rfl) statements_obeys exists_statements ts

theorem programs_decided (ts : List Token) :
    Decides (Grammar.Program ts) (fun p => ∀ s ∈ p.body, s.WithinHeight) (run program ⟨ts, none⟩) :=
  run_decides program_accepts trivial program_obeys exists_program ts

section
variable {text : String} {ts : List Token}

theorem statements_text_decided (scanned : TokenStream.ofText text = ⟨ts, none⟩) :
    Decides (Statements ts) (fun ss => ∀ s ∈ ss, s.WithinHeight) (Stmt.parseAll text) := by
  rw [Stmt.parseAll, scanned]
  exact statements_decided ts

theorem program_text_decided (scanned : TokenStream.ofText text = ⟨ts, none⟩) :
    Decides (Grammar.Program ts) (fun p => ∀ s ∈ p.body, s.WithinHeight) (Program.parse text) := by
  rw [Program.parse, scanned]
  exact programs_decided ts

end

theorem statements_of_parse {text : String} {ss : List Stmt} (h : Stmt.parseAll text = .ok ss) :
    ∃ ts d, TokenStream.ofText text = ⟨ts, none⟩ ∧ Statements ts ss d ∧ d ≤ maxDepth ∧ ∀ s ∈ ss, s.WithinHeight :=
  exists_of_run statements_obeys exists_statements statements_decided h

theorem program_of_parse {text : String} {p : MiniPascal.Program} (h : Program.parse text = .ok p) :
    ∃ ts d, TokenStream.ofText text = ⟨ts, none⟩ ∧ Grammar.Program ts p d ∧ d ≤ maxDepth ∧
      ∀ s ∈ p.body, s.WithinHeight :=
  exists_of_run program_obeys exists_program programs_decided h

/-- A text is a program, or statements, as the grammar and the limits say. -/
theorem parse_program_decides {text : String} {ts : List Token} (scanned : TokenStream.ofText text = ⟨ts, none⟩) :
    Decides (Grammar.Program ts) (fun p => ∀ s ∈ p.body, s.WithinHeight) (Program.parse text) ∧
      Decides (Statements ts) (fun ss => ∀ s ∈ ss, s.WithinHeight) (Stmt.parseAll text) :=
  ⟨program_text_decided scanned, statements_text_decided scanned⟩

theorem parse_assignment :
    Program.parse "PROGRAM p; VAR a, b : REAL; BEGIN a := 1; END." =
        .ok ⟨"p", [⟨⟨"a"⟩, .real⟩, ⟨⟨"b"⟩, .real⟩], [.assign ⟨"a"⟩ (.literal (.int 1)), .skip]⟩ ∧
      Stmt.parseAll "a := 1;" = .ok [.assign ⟨"a"⟩ (.literal (.int 1)), .skip] := by
  have scanned : TokenStream.ofText "a := 1;" =
    ⟨[.identifier "a", .symbol .assign, .number (.int 1), .symbol .semicolon], none⟩ := by decide +kernel
  have scanned' : TokenStream.ofText "PROGRAM p; VAR a, b : REAL; BEGIN a := 1; END." =
    ⟨[.keyword .program, .identifier "p", .symbol .semicolon, .keyword .var, .identifier "a", .symbol .comma,
      .identifier "b", .symbol .colon, .keyword .real, .symbol .semicolon, .keyword .blockBegin, .identifier "a",
      .symbol .assign, .number (.int 1), .symbol .semicolon, .keyword .blockEnd, .symbol .dot], none⟩ := by
    decide +kernel
  have body : Statements _ _ 0 :=
    .more (Statement.assign "a" (Factor.number (.int 1)).expression) (.one Statement.skip)
  have names : Separated (.symbol .comma) Identifier _ _ 0 := .more (Identifier.mk "a") (.one (Identifier.mk "b"))
  have declared := Declarations.more (.one (.mk names .real)) .none
  have low : ∀ s ∈ [.assign ⟨"a"⟩ (.literal (.int 1)), .skip], Stmt.WithinHeight s := by
    simp [Stmt.withinHeight_assign, Stmt.withinHeight_skip, Expr.height]
  exact ⟨((parse_program_decides scanned').1.ok _).mpr ⟨1, .mk "p" declared (.mk body), by decide, low⟩,
    ((parse_program_decides scanned).2.ok _).mpr ⟨0, body, by decide, low⟩⟩

/-! ### Errors -/

/-- Errors are reported at the first token that no word continues with, in each way to parse a text. -/
theorem parse_errors_earliest (text : String) :
    Earliest (.of Grammar.Program) (.ofText text) (Program.parse text) ∧
      Earliest (.of Statements) (.ofText text) (Stmt.parseAll text) ∧
      Earliest (.of Expression) (.ofText text) (Expr.parse text) :=
  ⟨run_earliest programs_decided program_obeys (fun _ _ => program_local) exists_program _,
    run_earliest statements_decided statements_obeys (fun _ _ => statements_local) exists_statements _,
    run_earliest expressions_decided expressions_obeyed expressions_local exists_expression _⟩

end MiniPascal.Parser
