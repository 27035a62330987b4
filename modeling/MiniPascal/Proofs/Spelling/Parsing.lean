import MiniPascal.Proofs.Parsing.Whole

/-! # Parsing and spelling

The parser carries the names in a text to its trees and errors, and never looks at them. So the trees and errors of
a text in which the names are spelled otherwise are those of the text, with the names in them spelled otherwise. -/

namespace MiniPascal

/-- A token in which a name `n` is spelled `f n`. -/
def Token.respell (f : String → String) : Token → Token
  | identifier name => identifier (f name)
  | t => t

/-- Tokens in which all names are respelled. -/
def TokenStream.respell (f : String → String) (ts : TokenStream) : TokenStream :=
  ⟨ts.tokens.map (Token.respell f), ts.ending⟩

/-- A variable with its name respelled. -/
def Var.respell (f : String → String) (v : Var) : Var := ⟨f v.name⟩

/-- An expression in which all names are respelled. -/
def Expr.respell (f : String → String) : Expr → Expr
  | literal v => literal v
  | var v => var (v.respell f)
  | unary op e => unary op (e.respell f)
  | binary op l r => binary op (l.respell f) (r.respell f)

mutual

/-- A statement in which all names are respelled. -/
def Stmt.respell (f : String → String) : Stmt → Stmt
  | .block body => .block (Stmt.respellAll f body)
  | .assign target value => .assign (target.respell f) (value.respell f)
  | .skip => .skip

/-- Statements in which all names are respelled. -/
def Stmt.respellAll (f : String → String) : List Stmt → List Stmt
  | [] => []
  | s :: ss => s.respell f :: Stmt.respellAll f ss

end

/-- A declaration with its name respelled. -/
def Declaration.respell (f : String → String) (d : Declaration) : Declaration :=
  { d with var := d.var.respell f }

/-- A program in which all names are respelled. -/
def Program.respell (f : String → String) (p : Program) : Program :=
  ⟨f p.name, p.declarations.map (Declaration.respell f), Stmt.respellAll f p.body⟩

/-- An error with its name respelled, if it tells one: the name that was found where something else was looked
for, or the name of a variable without a value. -/
def Error.respell (f : String → String) : Error → Error
  | unexpected x found => unexpected x (found.map (Token.respell f))
  | unbound name => unbound (f name)
  | e => e

theorem Stmt.respellAll_eq_map (f : String → String) (ss : List Stmt) :
    Stmt.respellAll f ss = ss.map (Stmt.respell f) := by
  induction ss with
  | nil => rfl
  | cons s ss ih => rw [Stmt.respellAll, ih, List.map_cons]

/-- Whether a token is an identifier. -/
def Token.isIdentifier : Token → Bool
  | identifier _ => true
  | _ => false

theorem Token.identifier_ne {t : Token} (h : t.isIdentifier = false) (name : String) :
    some (.identifier name) ≠ some t := by
  rintro ⟨⟩
  cases h

namespace Parser

/-- A state in which all names to come are respelled. -/
def respellState (f : String → String) (s : ParserState) : ParserState :=
  { s with tokens := s.tokens.map (Token.respell f) }

/-- The result of a run in which all names are respelled, where `g` does that to what it gives. -/
def respellResult {α : Type} (f : String → String) (g : α → α) :
    EStateM.Result Error ParserState α → EStateM.Result Error ParserState α
  | .ok a t => .ok (g a) (respellState f t)
  | .error e t => .error (e.respell f) (respellState f t)

/-- Where all names are respelled, `p'` does what `p` does. -/
def Respells {α : Type} (f : String → String) (g : α → α) (p p' : Parser α) : Prop :=
  ∀ s, p' (respellState f s) = respellResult f g (p s)

section Respells
variable {f : String → String} {α β : Type} {g : α → α} {h : β → β} {p p' : Parser α} {q q' : α → Parser β}

theorem ahead_respellState (s : ParserState) : (respellState f s).ahead = s.ahead.map (Token.respell f) :=
  List.head?_map

namespace Respells

theorem bind (hp : Respells f g p p') (hq : ∀ a, Respells f h (q a) (q' (g a))) :
    Respells f h (p >>= q) (p' >>= q') := by
  intro s
  have first := hp s
  rcases run : p s with ⟨a, t⟩ | ⟨e, t⟩
  · rw [run] at first
    rw [bind_of_ok run, bind_of_ok first]
    exact hq a t
  · rw [run] at first
    rw [bind_of_error run, bind_of_error first]
    rfl

theorem of_ok {a b : α} (h : b = g a) : Respells f g (pure a) (pure b) := fun _ => h ▸ rfl

theorem of_throw {e : Error} (h : e.respell f = e) : Respells f g (throw e) (throw e) := fun s =>
  congrArg (EStateM.Result.error · (respellState f s)) h.symm

theorem of_fail (x : Expectation) : Respells f g (fail x) (fail x) := by
  intro s
  simp only [fail, step_eq, Step.fail, ahead_respellState]
  rfl

/-- A procedure that looks at the next token has to take all names alike. -/
theorem of_ahead {k k' : Lookahead → Parser α}
    (names : ∀ name, Respells f g (k (some (.identifier name))) (k' (some (.identifier (f name)))))
    (others : ∀ x, (∀ name, x ≠ some (.identifier name)) → Respells f g (k x) (k' x)) :
    Respells f g (ahead >>= k) (ahead >>= k') := by
  intro s
  rw [ahead_bind, ahead_bind, ahead_respellState]
  rcases s.ahead with _ | t
  · exact others none nofun s
  · cases t with
    | identifier name => exact names name s
    | number v => exact others (some (.number v)) (by simp) s
    | keyword k => exact others (some (.keyword k)) (by simp) s
    | symbol x => exact others (some (.symbol x)) (by simp) s

theorem of_depth {k k' : Nat → Parser α} (h : ∀ d, Respells f g (k d) (k' d)) :
    Respells f g (bounded room k) (bounded room k') := fun s => h (room s) s

theorem of_length {k k' : Nat → Parser α} (h : ∀ n, Respells f g (k n) (k' n)) :
    Respells f g (bounded (·.tokens.length) k) (bounded (·.tokens.length) k') := by
  intro s
  have same : (respellState f s).tokens.length = s.tokens.length := List.length_map _
  rw [bounded_eq, bounded_eq, same]
  exact h _ s

end Respells

/-! ### Primitive procedures -/

theorem settle_respells : Respells f id settle settle := by
  rintro ⟨tokens, ending, depth, requests⟩
  cases tokens with
  | nil => cases ending <;> rfl
  | cons => rfl

theorem advance_respells : Respells f id advance advance := by
  intro s
  have next : ({ respellState f s with
      tokens := (respellState f s).tokens.tail, requests := s.requests + 1 } : ParserState) =
      respellState f { s with tokens := s.tokens.tail, requests := s.requests + 1 } := by
    simp [respellState]
  have taken : advance s = settle { s with tokens := s.tokens.tail, requests := s.requests + 1 } := rfl
  rw [taken, ← settle_respells, ← next]
  rfl

theorem eat_respells {t : Token} (sign : t.isIdentifier = false) : Respells f id (eat t) (eat t) := by
  refine .of_ahead (fun name => ?_) fun x _ => ?_
  · rw [if_neg (Token.identifier_ne sign _), if_neg (Token.identifier_ne sign _)]
    exact .of_fail _
  · split
    · exact advance_respells
    · exact .of_fail _

theorem identifier_respells : Respells f f identifier identifier := by
  refine .of_ahead (fun name => advance_respells.bind fun _ => .of_ok rfl) fun x other => ?_
  split
  · exact absurd rfl (other _)
  · exact .of_fail _

theorem enter_respells : Respells f id enter enter := by
  intro s
  simp only [enter, step_eq, Step.enter, respellState]
  split <;> rfl

theorem leave_respells : Respells f id leave leave := fun _ => rfl

theorem checkHeight_respells (n : Nat) : Respells f id (checkHeight n) (checkHeight n) := by
  rw [checkHeight, step_eq, Step.checkHeight]
  split
  · exact .of_throw rfl
  · exact .of_ok rfl

theorem endOfInput_respells : Respells f id endOfInput endOfInput := by
  refine .of_ahead (fun name => ?_) fun x _ => ?_
  · exact .of_fail _
  · split
    · exact .of_ok rfl
    · exact .of_fail _

/-! ### Expressions -/

/-- Respells a tree that comes with its height. -/
def respellTree (f : String → String) (x : Expr × Nat) : Expr × Nat := (x.1.respell f, x.2)

section Expression
variable {op? : Token → Option BinaryOp} {operand operand' : Parser (Expr × Nat)}

theorem chainFrom_respells (names : ∀ name, op? (.identifier name) = none)
    (hp : Respells f (respellTree f) operand operand') (n : Nat) (x : Expr × Nat) :
    Respells f (respellTree f) (chainFrom op? operand n x) (chainFrom op? operand' n (respellTree f x)) := by
  induction n generalizing x with
  | zero => exact .of_throw rfl
  | succ n ih =>
    unfold chainFrom
    refine .of_ahead (fun name => ?_) fun a _ => ?_
    · simp only [Option.bind_eq_bind, Option.bind_some, names]
      exact .of_ok rfl
    · split
      · exact .of_ok rfl
      · exact advance_respells.bind fun _ => hp.bind fun _ => (checkHeight_respells _).bind fun _ => ih _

theorem chain_respells (names : ∀ name, op? (.identifier name) = none)
    (hp : Respells f (respellTree f) operand operand') :
    Respells f (respellTree f) (chain op? operand) (chain op? operand') :=
  hp.bind fun _ => chainFrom_respells names hp _ _

theorem expressionOf_respells (hp : Respells f (respellTree f) operand operand') :
    Respells f (respellTree f) (expressionOf operand) (expressionOf operand') :=
  chain_respells (fun _ => rfl) (chain_respells (fun _ => rfl) hp)

end Expression

theorem enclosed_respells {opening closing : Token} (opens : opening.isIdentifier = false)
    (closes : closing.isIdentifier = false) (hp : Respells f g p p') :
    Respells f g (enclosed opening closing p) (enclosed opening closing p') :=
  enter_respells.bind fun _ => (eat_respells opens).bind fun _ => hp.bind fun _ => (eat_respells closes).bind fun _ =>
    leave_respells.bind fun _ => .of_ok rfl

theorem factorOf_respells {p p' : Parser (Expr × Nat)} (hp : Respells f (respellTree f) p p') :
    Respells f (respellTree f) (factorOf p) (factorOf p') := by
  have sign (op : UnaryOp) : Respells f (respellTree f) (signed op p) (signed op p') :=
    enter_respells.bind fun _ => advance_respells.bind fun _ => hp.bind fun _ => leave_respells.bind fun _ =>
      (checkHeight_respells _).bind fun _ => .of_ok rfl
  refine .of_ahead (fun name => ?_) fun a other => ?_
  · exact identifier_respells.bind fun _ => .of_ok rfl
  · split
    · exact sign .plus
    · exact sign .minus
    · exact enclosed_respells rfl rfl (expressionOf_respells hp)
    · exact advance_respells.bind fun _ => .of_ok rfl
    · exact absurd rfl (other _)
    · exact .of_fail _

theorem factorWithin_respells (n : Nat) : Respells f (respellTree f) (factorWithin n) (factorWithin n) := by
  induction n with
  | zero => exact .of_throw rfl
  | succ n ih => exact factorOf_respells ih

theorem expression_respells : Respells f (respellTree f) expression expression :=
  .of_depth (k := fun d => expressionOf (factorWithin d)) fun _ => expressionOf_respells (factorWithin_respells _)

theorem expressions_respells : Respells f (Expr.respell f) (Prod.fst <$> expression) (Prod.fst <$> expression) := by
  rw [map_eq_pure_bind]
  exact expression_respells.bind fun _ => .of_ok rfl

/-! ### Repetition -/

theorem repeated_respells {separator : Token} (sign : separator.isIdentifier = false) (hp : Respells f g p p')
    (n : Nat) : Respells f (List.map g) (repeated separator p n) (repeated separator p' n) := by
  induction n with
  | zero => exact .of_ok rfl
  | succ n ih =>
    refine .of_ahead (fun name => ?_) fun a _ => ?_
    · rw [if_neg (Token.identifier_ne sign _), if_neg (Token.identifier_ne sign _)]
      exact .of_ok rfl
    · split
      · exact advance_respells.bind fun _ => hp.bind fun _ => ih.bind fun _ => .of_ok rfl
      · exact .of_ok rfl

/-! ### Statements -/

theorem assignment_respells : Respells f (Stmt.respell f) assignment assignment :=
  identifier_respells.bind fun _ => (eat_respells rfl).bind fun _ => expression_respells.bind fun _ => .of_ok rfl

theorem statementOf_respells {block block' : Parser (List Stmt)} (hp : Respells f (Stmt.respellAll f) block block') :
    Respells f (Stmt.respell f) (statementOf block) (statementOf block') := by
  refine .of_ahead (fun name => assignment_respells) fun a other => ?_
  split
  · rw [map_eq_pure_bind, map_eq_pure_bind]
    exact hp.bind fun _ => .of_ok rfl
  · exact absurd rfl (other _)
  · exact .of_ok rfl

theorem statementsOf_respells {block block' : Parser (List Stmt)} (hp : Respells f (Stmt.respellAll f) block block') :
    Respells f (Stmt.respellAll f) (statementsOf block) (statementsOf block') := by
  unfold statementsOf
  have item := statementOf_respells hp
  refine item.bind fun s => (Respells.of_length fun n => repeated_respells rfl item n).bind fun ss => ?_
  refine .of_ahead (fun name => .of_fail _) fun a other => ?_
  split
  · exact absurd rfl (other _)
  · refine .of_ok ?_
    rw [Stmt.respellAll_eq_map, List.map_cons]

theorem blockWithin_respells (n : Nat) : Respells f (Stmt.respellAll f) (blockWithin n) (blockWithin n) := by
  induction n with
  | zero => exact .of_throw rfl
  | succ n ih => exact enclosed_respells rfl rfl (statementsOf_respells ih)

theorem block_respells : Respells f (Stmt.respellAll f) Parser.block Parser.block :=
  .of_depth blockWithin_respells

theorem statements_respells : Respells f (Stmt.respellAll f) statements statements :=
  .of_depth (k := fun d => statementsOf (blockWithin d)) fun d => statementsOf_respells (blockWithin_respells d)

/-! ### Declarations and programs -/

theorem typeName_respells : Respells f id typeName typeName := by
  refine .of_ahead (fun name => .of_fail _) fun a _ => ?_
  split
  · exact advance_respells.bind fun _ => .of_ok rfl
  · exact advance_respells.bind fun _ => .of_ok rfl
  · exact .of_fail _

theorem declaration_respells : Respells f (List.map (Declaration.respell f)) declaration declaration := by
  unfold declaration
  refine identifier_respells.bind fun name => ?_
  refine (Respells.of_length fun n => repeated_respells rfl identifier_respells n).bind fun names => ?_
  refine (eat_respells rfl).bind fun _ => typeName_respells.bind fun _ => .of_ok ?_
  rw [← List.map_cons, List.map_map, List.map_map]
  rfl

theorem declarationsFrom_respells (n : Nat) :
    Respells f (List.map (Declaration.respell f)) (declarationsFrom n) (declarationsFrom n) := by
  induction n with
  | zero => exact .of_ok rfl
  | succ n ih =>
    refine declaration_respells.bind fun ds => (eat_respells rfl).bind fun _ => ?_
    refine .of_ahead (fun name => ih.bind fun _ => .of_ok List.map_append.symm) fun a other => ?_
    split
    · exact absurd rfl (other _)
    · exact .of_ok rfl

theorem declarationList_respells : Respells f (List.map (Declaration.respell f)) declarationList declarationList :=
  .of_length (k := fun n => declarationsFrom (n + 1)) fun _ => declarationsFrom_respells _

theorem sectionsFrom_respells (n : Nat) :
    Respells f (List.map (Declaration.respell f)) (sectionsFrom n) (sectionsFrom n) := by
  induction n with
  | zero => exact .of_ok rfl
  | succ n ih =>
    refine .of_ahead (fun name => .of_ok rfl) fun a _ => ?_
    split
    · exact advance_respells.bind fun _ => declarationList_respells.bind fun _ => ih.bind fun _ =>
        .of_ok List.map_append.symm
    · exact .of_ok rfl

theorem program_respells : Respells f (Program.respell f) program program := by
  have declarations : Respells f (List.map (Declaration.respell f)) declarations declarations :=
    .of_length fun _ => sectionsFrom_respells _
  exact (eat_respells rfl).bind fun _ => identifier_respells.bind fun _ => (eat_respells rfl).bind fun _ =>
    declarations.bind fun _ => block_respells.bind fun _ => (eat_respells rfl).bind fun _ => .of_ok rfl

/-! ### Whole texts -/

/-- Parsing respelled tokens gives the respelled result. -/
theorem run_respells (hp : Respells f g p p) (ts : TokenStream) :
    run p (ts.respell f) = ((run p ts).map g).mapError (Error.respell f) := by
  have whole : Respells f g (whole p) (whole p) :=
    settle_respells.bind fun _ => hp.bind fun _ => endOfInput_respells.bind fun _ => .of_ok rfl
  have both : Parser.whole p (.start (ts.respell f)) = respellResult f g (Parser.whole p (.start ts)) :=
    whole (.start ts)
  rw [run_eq, run_eq, both]
  cases Parser.whole p (.start ts) <;> rfl

end Respells
end Parser
end MiniPascal
