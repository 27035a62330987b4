import Mathlib.Data.List.Basic
import MiniPascal.Proofs.Parsing
import MiniPascal.Tree.Outline

/-! # Walks through parsed texts

Nothing is lost between a text and the walk through its tree. The walk meets every identifier and every number of the
text, in their order and each of them once. It meets an assignment for each `:=` and a block for each `BEGIN`, and a
statement for each `BEGIN` or semicolon, as one of these stands before every statement. -/

namespace MiniPascal
open Grammar

/-- An identifier or a number. -/
def Token.isAtom : Token → Bool
  | identifier _ | number _ => true
  | _ => false

namespace Node

/-- The identifier or the number that a node shows. -/
def atom? : Node → Option Token
  | program name => some (.identifier name)
  | declaration v | target v | var v => some (.identifier v.name)
  | literal v => some (.number v)
  | _ => none

/-- A list of statements, by itself or as a statement. -/
def isBlock : Node → Bool
  | compound | innerBlock => true
  | _ => false

/-- A statement of any form. -/
def isStatement : Node → Bool
  | innerBlock | assignment | empty => true
  | _ => false

end Node

namespace Outline

/-- The nodes of the walk through an outline. -/
def nodes (t : Outline) : List Node :=
  (t.walk 0).map fun x => x.2.1

mutual

theorem map_walk : ∀ (t : Outline) (depth : Nat), (t.walk depth).map (fun x => x.2.1) = t.nodes
  | ⟨n, cs⟩, depth => by
    rw [nodes, walk, walk, List.map_cons, List.map_cons, map_walkAll cs, map_walkAll cs]

theorem map_walkAll : ∀ (ts : List Outline) (depth : Nat),
    (walkAll depth ts).map (fun x => x.2.1) = ts.flatMap nodes
  | [], _ => rfl
  | t :: ts, depth => by
    rw [walkAll, List.map_append, map_walk t, map_walkAll ts, List.flatMap_cons]

end

theorem nodes_mk (n : Node) (cs : List Outline) : nodes ⟨n, cs⟩ = n :: cs.flatMap nodes := by
  rw [nodes, walk, List.map_cons, map_walkAll]

end Outline

/-! ### Tokens and nodes that mirror each other -/

/-- The tokens that stand for no node of their own. -/
def Token.isSilent : Token → Bool
  | identifier _ | number _ | keyword .blockBegin | symbol .assign | symbol .semicolon => false
  | _ => true

/-- The nodes that stand for the form of a tree only. -/
def Node.isSilent : Node → Bool
  | block | type _ | unary _ | binary _ => true
  | _ => false

section
variable {α : Type} {f : Token → Option α} {g : Node → Option α}

/-- Tokens and nodes show the same in every rule for expressions and statements. The semicolon belongs to the statement
that follows it, and before the first statement of a block stands `BEGIN`. -/
structure Mirrors (f : Token → Option α) (g : Node → Option α) : Prop where
  token : ∀ t, t.isSilent = true → f t = none
  node : ∀ n, n.isSilent = true → g n = none
  -- For given functions the two sides of the others compute to the same.
  number : ∀ v, f (.number v) = g (.literal v) := by intro v; rfl
  identifier : ∀ name, f (.identifier name) = g (.var ⟨name⟩) := by intro name; rfl
  assign : ∀ name, [.symbol .semicolon, .identifier name, .symbol .assign].filterMap f =
    [.assignment, .target ⟨name⟩].filterMap g := by intro name; rfl
  skip : [.symbol .semicolon].filterMap f = [.empty].filterMap g := by rfl
  block : [.symbol .semicolon, .keyword .blockBegin].filterMap f =
    [.innerBlock].filterMap g ++ [.symbol .semicolon].filterMap f := by rfl
  body : [.keyword .blockBegin].filterMap f = [.compound].filterMap g ++ [.symbol .semicolon].filterMap f := by rfl

/-- They show the same in the rules for programs and declarations, too, where semicolons show nothing. -/
structure MirrorsHeading (f : Token → Option α) (g : Node → Option α) : Prop extends Mirrors f g where
  semicolon : f (.symbol .semicolon) = none := by rfl
  program : ∀ name, f (.identifier name) = g (.program name) := by intro name; rfl
  declaration : ∀ name, f (.identifier name) = g (.declaration ⟨name⟩) := by intro name; rfl

/-! ### Expressions -/

namespace Grammar
variable {ts : List Token} {e : Expr} {d : Nat}

theorem Chain.mirrored {operator : Token → BinaryOp → Prop} {operand : List Token → Expr → Nat → Prop}
    (h : Mirrors f g) (operators : ∀ {t op}, operator t op → t.isSilent = true)
    (operands : ∀ {ts e d}, operand ts e d → ts.filterMap f = e.outline.nodes.filterMap g)
    (derived : Chain operator operand ts e d) : ts.filterMap f = e.outline.nodes.filterMap g := by
  induction derived with
  | operand first => exact operands first
  | operator _ ht right ih =>
    rw [List.filterMap_append, List.filterMap_cons_none (h.token _ (operators ht)), ih, operands right, Expr.outline,
      Outline.nodes_mk, List.filterMap_cons_none (h.node _ rfl)]
    simp

theorem Additive.isSilent {t : Token} {op : BinaryOp} (h : Additive t op) : t.isSilent = true := by
  cases h <;> rfl

theorem Multiplicative.isSilent {t : Token} {op : BinaryOp} (h : Multiplicative t op) : t.isSilent = true := by
  cases h <;> rfl

theorem Sign.isSilent {t : Token} {op : UnaryOp} (h : Sign t op) : t.isSilent = true := by
  cases h <;> rfl

theorem Factor.mirrored (h : Mirrors f g) (derived : Factor ts e d) :
    ts.filterMap f = e.outline.nodes.filterMap g := by
  induction derived using Factor.induction with
  | number v => simp [Expr.outline, Outline.nodes_mk, List.filterMap_cons, h.number]
  | identifier name => simp [Expr.outline, Outline.nodes_mk, List.filterMap_cons, h.identifier]
  | signed sign _ ih =>
    rw [List.filterMap_cons_none (h.token _ sign.isSilent), ih, Expr.outline, Outline.nodes_mk,
      List.filterMap_cons_none (h.node _ rfl)]
    simp
  | grouped _ inner =>
    have same := inner.mirrored h Additive.isSilent
      (Chain.mirrored h Multiplicative.isSilent fun factor => Exists.elim factor fun _ ih => ih)
    rw [List.filterMap_cons_none (h.token _ rfl), List.filterMap_append, List.filterMap_cons_none (h.token _ rfl), same]
    simp

theorem Expression.mirrored (h : Mirrors f g) (derived : Expression ts e d) :
    ts.filterMap f = e.outline.nodes.filterMap g :=
  Chain.mirrored h Additive.isSilent (Chain.mirrored h Multiplicative.isSilent (Factor.mirrored h)) derived

/-! ### Statements -/

theorem Separated.mirrored {item : List Token → Stmt → Nat → Prop} {ss : List Stmt}
    (items : ∀ {ts s d}, item ts s d →
      (.symbol .semicolon :: ts).filterMap f = s.outline.nodes.filterMap g)
    (derived : Separated (.symbol .semicolon) item ts ss d) :
    (.symbol .semicolon :: ts).filterMap f = ((Stmt.outlines ss).flatMap Outline.nodes).filterMap g := by
  induction derived with
  | one last => simp [Stmt.outlines, items last]
  | more first _ ih =>
    rw [← List.cons_append, List.filterMap_append, items first, ih, ← List.filterMap_append]
    rfl

theorem filterMap_enclosed (h : Mirrors f g) (before ts : List Token) :
    (before ++ Token.keyword .blockBegin :: (ts ++ [Token.keyword .blockEnd])).filterMap f =
      (before ++ [Token.keyword .blockBegin]).filterMap f ++ ts.filterMap f := by
  have closing : [Token.keyword .blockEnd].filterMap f = [] := List.filterMap_cons_none (h.token _ rfl)
  rw [← List.singleton_append, List.filterMap_append, List.filterMap_append, List.filterMap_append,
    List.filterMap_append, closing, List.append_nil, List.append_assoc]

theorem Statement.mirrored (h : Mirrors f g) {s : Stmt} (derived : Statement ts s d) :
    (.symbol .semicolon :: ts).filterMap f = s.outline.nodes.filterMap g := by
  induction derived using Statement.induction with
  | @block ts ss _ _ body =>
    have inside := body.mirrored fun item => Exists.elim item fun _ ih => ih
    calc
      _ = [.symbol .semicolon, .keyword .blockBegin].filterMap f ++ ts.filterMap f :=
        filterMap_enclosed h [.symbol .semicolon] ts
      _ = [.innerBlock].filterMap g ++ (.symbol .semicolon :: ts).filterMap f := by
        rw [h.block, List.append_assoc, ← List.filterMap_append, List.singleton_append]
      _ = _ := by
        rw [inside, ← List.filterMap_append, Stmt.outline, Outline.nodes_mk, List.singleton_append]
  | @assign ts e _ name value =>
    calc
      _ = [.symbol .semicolon, .identifier name, .symbol .assign].filterMap f ++ ts.filterMap f := by
        rw [← List.filterMap_append]
        rfl
      _ = [.assignment, .target ⟨name⟩].filterMap g ++ e.outline.nodes.filterMap g := by
        rw [h.assign, value.mirrored h]
      _ = _ := by
        rw [← List.filterMap_append, Stmt.outline, Outline.nodes_mk]
        simp [Outline.nodes_mk]
  | skip => exact h.skip

theorem Statements.mirrored (h : Mirrors f g) {ss : List Stmt} (derived : Statements ts ss d) :
    (.symbol .semicolon :: ts).filterMap f = ((Stmt.outlines ss).flatMap Outline.nodes).filterMap g :=
  Separated.mirrored (Statement.mirrored h) derived

theorem Block.mirrored (h : Mirrors f g) {ss : List Stmt} (derived : Block ts ss d) :
    ts.filterMap f = (Stmt.compoundOutline ss).nodes.filterMap g := by
  obtain @⟨ts, _, _, body⟩ := derived
  calc
    _ = [.keyword .blockBegin].filterMap f ++ ts.filterMap f := filterMap_enclosed h [] ts
    _ = [.compound].filterMap g ++ (.symbol .semicolon :: ts).filterMap f := by
      rw [h.body, List.append_assoc, ← List.filterMap_append, List.singleton_append]
    _ = _ := by
      rw [Statements.mirrored h body, ← List.filterMap_append, Stmt.compoundOutline, Outline.nodes_mk,
        List.singleton_append]

/-! ### Programs -/

theorem typeToken_isSilent (type : TypeName) : (typeToken type).isSilent = true := by
  cases type <;> rfl

section
variable {ds : List MiniPascal.Declaration}

theorem Separated.names_mirrored (h : MirrorsHeading f g) {names : List String}
    (derived : Separated (.symbol .comma) Identifier ts names d) (type : TypeName) :
    ts.filterMap f =
      ((names.map fun n => MiniPascal.Declaration.outline ⟨⟨n⟩, type⟩).flatMap Outline.nodes).filterMap g := by
  have one (name : String) : [.identifier name].filterMap f =
      (MiniPascal.Declaration.outline ⟨⟨name⟩, type⟩).nodes.filterMap g := by
    have last : g (.type type) = none := h.node _ rfl
    simp [MiniPascal.Declaration.outline, Outline.nodes_mk, List.filterMap_cons, h.declaration, last]
  have comma : f (.symbol .comma) = none := h.token _ rfl
  induction derived with
  | one last =>
    cases last
    simpa using one _
  | more first _ ih =>
    cases first
    rw [List.filterMap_append, List.filterMap_cons_none comma, ih, one, ← List.filterMap_append]
    rfl

theorem Declaration.mirrored (h : MirrorsHeading f g) (derived : Declaration ts ds) :
    ts.filterMap f = ((ds.map MiniPascal.Declaration.outline).flatMap Outline.nodes).filterMap g := by
  obtain ⟨names, type⟩ := derived
  rw [List.filterMap_append, List.filterMap_cons_none (h.token _ rfl),
    List.filterMap_cons_none (h.token _ (typeToken_isSilent type)), names.names_mirrored h type, List.map_map]
  exact List.append_nil _

theorem Section.mirrored (h : MirrorsHeading f g) (derived : Section ts ds) :
    ts.filterMap f = ((ds.map MiniPascal.Declaration.outline).flatMap Outline.nodes).filterMap g := by
  induction derived with
  | one declaration =>
    rw [List.filterMap_append, List.filterMap_cons_none h.semicolon, declaration.mirrored h]
    exact List.append_nil _
  | more declaration _ ih =>
    rw [List.filterMap_append, List.filterMap_cons_none h.semicolon, declaration.mirrored h, ih]
    simp

theorem Declarations.mirrored (h : MirrorsHeading f g) (derived : Declarations ts ds) :
    ts.filterMap f = ((ds.map MiniPascal.Declaration.outline).flatMap Outline.nodes).filterMap g := by
  induction derived with
  | none => rfl
  | more declared _ ih =>
    rw [List.filterMap_cons_none (h.token _ rfl), List.filterMap_append, declared.mirrored h, ih]
    simp

theorem Program.mirrored (h : MirrorsHeading f g) {p : MiniPascal.Program} (derived : Program ts p d) :
    ts.filterMap f = p.outline.nodes.filterMap g := by
  obtain @⟨ts, ds, us, ss, _, name, declarations, body⟩ := derived
  have heading : [.keyword .program, .identifier name, .symbol .semicolon].filterMap f =
      [.program name, .block].filterMap g := by
    have first : f (.keyword .program) = none := h.token _ rfl
    have block : g .block = none := h.node _ rfl
    simp [List.filterMap_cons, first, block, h.semicolon, h.program]
  have dot : [.symbol .dot].filterMap f = [] := List.filterMap_cons_none (h.token _ rfl)
  calc
    _ = [.keyword .program, .identifier name, .symbol .semicolon].filterMap f ++
        (ts.filterMap f ++ (us.filterMap f ++ [.symbol .dot].filterMap f)) := by
      rw [← List.filterMap_append, ← List.filterMap_append, ← List.filterMap_append]
      rfl
    _ = _ := by
      rw [heading, dot, declarations.mirrored h, body.mirrored h.toMirrors, List.append_nil, ← List.filterMap_append,
        ← List.filterMap_append, MiniPascal.Program.outline]
      simp [Outline.nodes_mk]

end
end Grammar
end

/-! ### What is mirrored -/

theorem atoms_mirrored : MirrorsHeading (Option.guard Token.isAtom) Node.atom? where
  token := by rintro (_ | _ | ⟨⟨⟩⟩ | ⟨⟨⟩⟩) h <;> first | rfl | cases h
  node := by rintro ⟨⟩ h <;> first | rfl | cases h

/-- A mark for what has the property. -/
def tally {α : Type} (p : α → Bool) (a : α) : Option Unit :=
  (Option.guard p a).map fun _ => ()

theorem countP_eq_of_tally {p : Token → Bool} {q : Node → Bool} {ts : List Token} {ns : List Node}
    (h : ts.filterMap (tally p) = ns.filterMap (tally q)) : ns.countP q = ts.countP p := by
  simpa [List.length_filterMap_eq_countP, tally] using congrArg List.length h.symm

theorem assignments_mirrored : MirrorsHeading (tally (· == .symbol .assign)) (tally (· == .assignment)) where
  token := by rintro (_ | _ | ⟨⟨⟩⟩ | ⟨⟨⟩⟩) h <;> first | rfl | cases h
  node := by rintro ⟨⟩ h <;> first | rfl | cases h

theorem blocks_mirrored : MirrorsHeading (tally (· == .keyword .blockBegin)) (tally Node.isBlock) where
  token := by rintro (_ | _ | ⟨⟨⟩⟩ | ⟨⟨⟩⟩) h <;> first | rfl | cases h
  node := by rintro ⟨⟩ h <;> first | rfl | cases h

theorem statements_mirrored :
    Mirrors (tally fun t => t == .keyword .blockBegin || t == .symbol .semicolon) (tally Node.isStatement) where
  token := by rintro (_ | _ | ⟨⟨⟩⟩ | ⟨⟨⟩⟩) h <;> first | rfl | cases h
  node := by rintro ⟨⟩ h <;> first | rfl | cases h

/-! ### The statements of a program -/

section
variable {ts us : List Token} {ds : List MiniPascal.Declaration} {ss : List Stmt} {d : Nat}

theorem countP_starts (ts : List Token) :
    ts.countP (fun t => t == .keyword .blockBegin || t == .symbol .semicolon) =
      ts.count (.keyword .blockBegin) + ts.count (.symbol .semicolon) := by
  induction ts with
  | nil => rfl
  | cons t ts ih =>
    rw [List.countP_cons, List.count_cons, List.count_cons, ih]
    by_cases begins : t = .keyword .blockBegin
    · simp [begins]
      omega
    · simp [begins]
      omega

theorem Declaration.countP_outlines {q : Node → Bool} (h : ∀ v, q (.declaration v) = false)
    (h' : ∀ type, q (.type type) = false) (ds : List MiniPascal.Declaration) :
    ((ds.map Declaration.outline).flatMap Outline.nodes).countP q = 0 := by
  induction ds with
  | nil => rfl
  | cons d ds ih =>
    rw [List.map_cons, List.flatMap_cons, List.countP_append, ih, Declaration.outline]
    simp [Outline.nodes_mk, h, h']

theorem Grammar.Declarations.begin_not_mem (derived : Grammar.Declarations ts ds) : .keyword .blockBegin ∉ ts := by
  have same := countP_eq_of_tally (derived.mirrored blocks_mirrored)
  rw [Declaration.countP_outlines (fun _ => rfl) fun _ => rfl] at same
  exact List.count_eq_zero.mp same.symm

end

/-! ### Walks and tokens -/

theorem Grammar.Program.countP_isStatement {ts : List Token} {p : MiniPascal.Program} {d : Nat}
    (derived : Grammar.Program ts p d) :
    p.outline.nodes.countP Node.isStatement =
      ts.count (.keyword .blockBegin) + (ts.dropWhile (· ≠ .keyword .blockBegin)).count (.symbol .semicolon) := by
  obtain @⟨ts, ds, us, ss, _, name, declarations, body⟩ := derived
  -- There is neither a statement nor `BEGIN` among the declarations, so both sides count in the block only.
  have absent := declarations.begin_not_mem
  have block := countP_eq_of_tally (body.mirrored statements_mirrored)
  rw [countP_starts] at block
  have walked : (MiniPascal.Program.outline ⟨name, ds, ss⟩).nodes.countP Node.isStatement =
      (Stmt.compoundOutline ss).nodes.countP Node.isStatement := by
    have none : ((ds.map Declaration.outline).flatMap Outline.nodes).countP Node.isStatement = 0 :=
      Declaration.countP_outlines (fun _ => rfl) (fun _ => rfl) ds
    simp [MiniPascal.Program.outline, Outline.nodes_mk, none, Node.isStatement]
  have fromBegin : (Token.keyword .program :: .identifier name :: .symbol .semicolon ::
      (ts ++ (us ++ [.symbol .dot]))).dropWhile (· ≠ .keyword .blockBegin) = us ++ [.symbol .dot] := by
    obtain ⟨_⟩ := body
    have passed : ∀ t ∈ Token.keyword .program :: .identifier name :: .symbol .semicolon :: ts,
        decide (t ≠ .keyword .blockBegin) = true := by
      have others : ∀ t ∈ ts, t ≠ .keyword .blockBegin := fun _ mem => ne_of_mem_of_not_mem mem absent
      simpa using others
    exact (List.dropWhile_append_of_pos passed).trans rfl
  rw [walked, block, fromBegin]
  simp [List.count_append, List.count_eq_zero.mpr absent]

/-- What a parsed text says stands in the walk through its tree. The names and the numbers are those of the text and
in the order of the text. There is an assignment for each `:=` and a block for each `BEGIN`, where the list of
statements that is the root of a tree is no block of the text. Each `BEGIN` of a program and each semicolon from the
first of them on stands before one statement, and in statements without a program the first of them needs neither. -/
theorem walk_keeps_tokens (text : String) :
    let ts := (TokenStream.ofText text).tokens
    (∀ e, Expr.parse text = .ok e → e.outline.nodes.filterMap Node.atom? = ts.filter Token.isAtom) ∧
    (∀ ss, Stmt.parseAll text = .ok ss →
      let ns := (Stmt.compoundOutline ss).nodes
      ns.filterMap Node.atom? = ts.filter Token.isAtom ∧
      ns.count .assignment = ts.count (.symbol .assign) ∧
      ns.tail.countP Node.isBlock = ts.count (.keyword .blockBegin) ∧
      ns.countP Node.isStatement = ts.count (.keyword .blockBegin) + ts.count (.symbol .semicolon) + 1) ∧
    (∀ p, Program.parse text = .ok p →
      let ns := p.outline.nodes
      ns.filterMap Node.atom? = ts.filter Token.isAtom ∧
      ns.count .assignment = ts.count (.symbol .assign) ∧
      ns.tail.countP Node.isBlock = ts.count (.keyword .blockBegin) ∧
      ns.countP Node.isStatement = ts.count (.keyword .blockBegin) +
        (ts.dropWhile (· ≠ .keyword .blockBegin)).count (.symbol .semicolon)) := by
  refine ⟨fun e h => ?_, fun ss h => ?_, fun p h => ?_⟩
  · obtain ⟨ts, d, scanned, derived, -, -⟩ := Parser.expression_of_parse h
    rw [scanned]
    have same := derived.mirrored atoms_mirrored.toMirrors
    rw [List.filterMap_eq_filter] at same
    exact same.symm
  · obtain ⟨ts, d, scanned, derived, -, -⟩ := Parser.statements_of_parse h
    rw [scanned]
    have atoms := derived.mirrored atoms_mirrored.toMirrors
    have assignments := countP_eq_of_tally (derived.mirrored assignments_mirrored.toMirrors)
    have blocks := countP_eq_of_tally (derived.mirrored blocks_mirrored.toMirrors)
    have statements := countP_eq_of_tally (derived.mirrored statements_mirrored)
    rw [List.filterMap_eq_filter] at atoms
    rw [countP_starts] at statements
    simp only [Stmt.compoundOutline, Outline.nodes_mk]
    refine ⟨atoms.symm, ?_, ?_, ?_⟩
    · simpa [List.count] using assignments
    · simpa [List.count] using blocks
    · simpa [Node.isStatement, Nat.add_assoc] using statements
  · obtain ⟨ts, d, scanned, derived, -, -⟩ := Parser.program_of_parse h
    rw [scanned]
    have atoms := derived.mirrored atoms_mirrored
    rw [List.filterMap_eq_filter] at atoms
    have assignments := countP_eq_of_tally (derived.mirrored assignments_mirrored)
    have blocks := countP_eq_of_tally (derived.mirrored blocks_mirrored)
    exact ⟨atoms.symm, assignments, blocks, derived.countP_isStatement⟩

theorem walk_keeps_tokens_of_sums :
    let e := .binary .add (.var ⟨"a"⟩) (.literal (.int 1))
    let ss := [.assign ⟨"a"⟩ e, .block [.skip, .skip]]
    let p : Program := ⟨"p", [⟨⟨"a"⟩, .real⟩], ss⟩
    let atoms := [.identifier "a", .number (.int 1)]
    (Expr.parse "(a + 1)" = .ok e ∧ e.outline.nodes.filterMap Node.atom? = atoms) ∧
    (Stmt.parseAll "a := a + 1; BEGIN ; END" = .ok ss ∧
      (Stmt.compoundOutline ss).nodes.filterMap Node.atom? = .identifier "a" :: atoms ∧
      (Stmt.compoundOutline ss).nodes.countP Node.isStatement = 1 + 2 + 1) ∧
    Program.parse "PROGRAM p; VAR a: REAL; BEGIN a := a + 1; BEGIN ; END END." = .ok p ∧
      p.outline.nodes.filterMap Node.atom? = .identifier "p" :: .identifier "a" :: .identifier "a" :: atoms ∧
      p.outline.nodes.count .assignment = 1 ∧ p.outline.nodes.tail.countP Node.isBlock = 2 ∧
      p.outline.nodes.countP Node.isStatement = 2 + 2 := by
  intro e ss p atoms
  let sum : List Token := [.identifier "a", .symbol .plus, .number (.int 1)]
  let body : List Token := .identifier "a" :: .symbol .assign :: sum ++
    [.symbol .semicolon, .keyword .blockBegin, .symbol .semicolon, .keyword .blockEnd]
  have scanned : TokenStream.ofText "(a + 1)" = ⟨.symbol .leftParen :: sum ++ [.symbol .rightParen], none⟩ := by
    decide +kernel
  have scanned' : TokenStream.ofText "a := a + 1; BEGIN ; END" = ⟨body, none⟩ := by decide +kernel
  have scanned'' : TokenStream.ofText "PROGRAM p; VAR a: REAL; BEGIN a := a + 1; BEGIN ; END END." =
      ⟨[.keyword .program, .identifier "p", .symbol .semicolon, .keyword .var, .identifier "a", .symbol .colon,
        .keyword .real, .symbol .semicolon, .keyword .blockBegin] ++ body ++ [.keyword .blockEnd, .symbol .dot],
        none⟩ := by
    decide +kernel
  have expression : Expr.parse "(a + 1)" = .ok e := by
    rw [Expr.parse, scanned]
    decide +kernel
  have statements : Stmt.parseAll "a := a + 1; BEGIN ; END" = .ok ss := by
    rw [Stmt.parseAll, scanned']
    decide +kernel
  have program : Program.parse "PROGRAM p; VAR a: REAL; BEGIN a := a + 1; BEGIN ; END END." = .ok p := by
    rw [Program.parse, scanned'']
    decide +kernel
  have kept := (walk_keeps_tokens _).1 e expression
  have kept' := (walk_keeps_tokens _).2.1 ss statements
  have kept'' := (walk_keeps_tokens _).2.2 p program
  rw [scanned] at kept
  rw [scanned'] at kept'
  rw [scanned''] at kept''
  exact ⟨⟨expression, kept⟩, ⟨statements, kept'.1, kept'.2.2.2⟩, program, kept''⟩

end MiniPascal
