import MiniPascal.Proofs.Parsing.Reads.Expression

/-! # Reading programs

The procedures for statements, blocks, declarations and programs read what the grammar derives. Blocks
share their levels with signs and parentheses, so a statement is read at the depth of the block around it.
Declarations open no level. -/

namespace MiniPascal.Parser
open Grammar

/-! ### Statements -/

/-- Whether a list of statements is complete before this token. -/
def EndsStatements (a : Lookahead) : Prop :=
  a = none ∨ a = some (.keyword .blockEnd)

/-- Whether a statement is complete before this token. -/
def EndsStatement (a : Lookahead) : Prop :=
  a = some (.symbol .semicolon) ∨ EndsStatements a

theorem EndsStatement.expression {a : Lookahead} (h : EndsStatement a) : EndsExpression a := by
  rcases h with rfl | rfl | rfl <;> exact ⟨rfl, rfl⟩

section Statement
variable {depth : Nat} {block : Parser (List Stmt)} {rule : List Token → Stmt → Nat → Prop}

theorem statementsOf_accepts (accepts : Accepts depth (statementOf block) rule Stmt.WithinHeight id EndsStatement) :
    Accepts depth (statementsOf block) (Separated (.symbol .semicolon) rule) (fun ss => ∀ s ∈ ss, s.WithinHeight) id
      EndsStatements := by
  intro ts ss d h s k hs open_ hd hk
  have ends : k.head? ≠ some (.symbol .semicolon) := by
    rcases hk with hk | hk <;> rw [hk] <;> simp
  unfold statementsOf
  refine separated_reads accepts (.inl rfl) h hs open_ hd (.inr hk) ends ?_
  rintro a rest rfl
  rw [ahead_bind, ParserState.ahead, ParserState.skip_tokens hs]
  rcases hk with hk | hk <;> rw [hk] <;> rfl

theorem assignment_reads {ts k : List Token} {e : Expr} {d : Nat} {name : String} {s : ParserState}
    (h : Expression ts e d) (hs : s.tokens = .identifier name :: .symbol .assign :: ts ++ k)
    (open_ : s.ending = none) (bound : s.depth ≤ maxDepth) (hk : EndsStatement k.head?) :
    Reads assignment s (s.depth + d ≤ maxDepth ∧ e.height ≤ maxDepth) (.assign ⟨name⟩ e)
      (s.skip (.identifier name :: .symbol .assign :: ts).length) := by
  have assigns : (s.skip 1).tokens = .symbol .assign :: (ts ++ k) := by
    simp [ParserState.skip, hs]
  have taken : (s.skip 2).tokens = ts ++ k := by
    simp [ParserState.skip, hs]
  have assigned := eat_reads assigns open_
  have reads := expression_accepts bound h taken open_ rfl hk.expression
  rw [ParserState.skip_skip] at assigned reads
  rw [Nat.add_comm 2] at reads
  exact .step (identifier_reads hs open_) (.step assigned (.last reads rfl))

theorem blockWithin_reads {ts k : List Token} {ss : List Stmt} {d : Nat} {s : ParserState}
    (accepts : s.depth + 1 ≤ maxDepth → Accepts (s.depth + 1) (statementOf (blockWithin (maxDepth - s.depth))) rule
      Stmt.WithinHeight id EndsStatement)
    (h : Separated (.symbol .semicolon) rule ts ss d) (bound : s.depth ≤ maxDepth)
    (hs : s.tokens = .keyword .blockBegin :: (ts ++ [.keyword .blockEnd]) ++ k) (open_ : s.ending = none) :
    Reads (blockWithin (maxDepth + 1 - s.depth)) s (s.depth + (d + 1) ≤ maxDepth ∧ ∀ st ∈ ss, st.WithinHeight) ss
      (s.skip (.keyword .blockBegin :: (ts ++ [.keyword .blockEnd])).length) := by
  rw [Nat.succ_sub bound, blockWithin_succ]
  have reads (taken : (s.inside.skip 1).tokens = ts ++ .keyword .blockEnd :: k) (deeper : s.depth + 1 ≤ maxDepth) :=
    statementsOf_accepts (accepts deeper) h taken open_ rfl (.inr rfl)
  exact .congr (enclosed_reads bound hs open_ reads) (by rw [← and_assoc]; exact and_congr_left fun _ => by omega)

theorem statementOf_accepts (bound : depth ≤ maxDepth) :
    Accepts depth (statementOf (blockWithin (maxDepth + 1 - depth))) Statement Stmt.WithinHeight id
      EndsStatement := by
  intro ts st d h
  induction h using Statement.induction generalizing depth with
  | @block ts ss d _ inner =>
    intro s k hs open_ hd hk
    subst hd
    rw [Stmt.withinHeight_block]
    have reads := blockWithin_reads ?_ inner bound hs open_
    · exact .of_run (statementOf_of_block (ahead_of_tokens hs)) (.last reads rfl)
    · rintro deeper ts st d ⟨_, ih⟩
      have := ih deeper
      rwa [Nat.succ_sub_succ] at this
  | @assign ts e d name h =>
    intro s k hs open_ hd hk
    subst hd
    rw [Stmt.withinHeight_assign]
    exact .of_run (statementOf_of_identifier (ahead_of_tokens hs)) (assignment_reads h hs open_ bound hk)
  | skip =>
    intro s k hs open_ hd hk
    have other {t : Token} (ht : ¬EndsStatement (some t)) : s.ahead ≠ some t := by
      rw [ParserState.ahead, hs]
      exact fun same => ht (same ▸ hk)
    refine .congr (.of_eq (statementOf_of_other (other ?_) fun name => other ?_)) ?_
    · rintro (h | h | h) <;> cases h
    · rintro (h | h | h) <;> cases h
    · simp [bound, Stmt.withinHeight_skip]

theorem statements_accepts (bound : depth ≤ maxDepth) :
    Accepts depth statements Statements (fun ss => ∀ s ∈ ss, s.WithinHeight) id EndsStatements := by
  intro ts ss d h s k hs open_ hd hk
  subst hd
  exact .of_run (statements_eq s) (statementsOf_accepts (statementOf_accepts bound) h hs open_ rfl hk)

theorem block_accepts (bound : depth ≤ maxDepth) :
    Accepts depth Parser.block Block (fun ss => ∀ s ∈ ss, s.WithinHeight) id fun _ => True := by
  intro ts ss d h s k hs open_ hd _
  subst hd
  cases h with
  | mk h =>
    have accepts (deeper : s.depth + 1 ≤ maxDepth) := statementOf_accepts deeper
    simp only [Nat.succ_sub_succ] at accepts
    exact .of_run (block_eq s) (blockWithin_reads accepts h bound hs open_)

end Statement

/-! ### Declarations -/

section Declaration
variable {s : ParserState} {ts k : List Token} {ds : List Declaration}

theorem identifier_accepts : Accepts 0 identifier Identifier (fun _ => True) id fun _ => True := by
  intro ts name d h s k hs open_ _ _
  cases h with
  | mk => exact .congr (.of_eq (identifier_reads hs open_)) (by simp)

theorem names_level {separator : Token} {names : List String} {d : Nat}
    (h : Separated separator Identifier ts names d) : d = 0 := by
  induction h with
  | one last =>
    cases last
    rfl
  | more first _ ih =>
    cases first
    simpa using ih

theorem typeName_reads {type : TypeName} (h : s.tokens = typeToken type :: k) (open_ : s.ending = none) :
    typeName s = .ok type (s.skip 1) := by
  rw [typeName, ahead_bind, ahead_of_tokens h]
  cases type <;> exact bind_of_ok (advance_reads h open_)

theorem declaration_reads (h : Grammar.Declaration ts ds) (hs : s.tokens = ts ++ k) (open_ : s.ending = none)
    (hd : s.depth = 0) : declaration s = .ok ds (s.skip ts.length) := by
  cases h with
  | @mk ts names d h type =>
    obtain rfl := names_level h
    rw [List.append_assoc] at hs
    have tokens := ParserState.skip_tokens hs
    have colon := eat_reads tokens open_
    have typed : ((s.skip ts.length).skip 1).tokens = typeToken type :: k := by
      simp [ParserState.skip, hs]
    have named := typeName_reads typed open_
    simp only [ParserState.skip_skip] at colon named
    unfold declaration
    refine (separated_reads identifier_accepts trivial h hs open_ hd trivial (by simp) ?_).ok (by simp)
    rintro a rest rfl
    rw [bind_of_ok colon, bind_of_ok named, List.length_append]
    rfl

theorem section_head (h : Section ts ds) : ∃ name us, ts = .identifier name :: us := by
  have declaration_head {ts ds} (h : Grammar.Declaration ts ds) : ∃ name us, ts = .identifier name :: us := by
    cases h with
    | mk h _ =>
      cases h with
      | one last => cases last; exact ⟨_, _, rfl⟩
      | more first _ => cases first; exact ⟨_, _, rfl⟩
  cases h with
  | one h | more h =>
    obtain ⟨name, us, rfl⟩ := declaration_head h
    exact ⟨name, _, rfl⟩

theorem declarationsFrom_reads {n : Nat} (h : Section ts ds) (bound : ts.length ≤ n) (hs : s.tokens = ts ++ k)
    (open_ : s.ending = none) (hd : s.depth = 0) (hk : ∀ name, k.head? ≠ some (.identifier name)) :
    declarationsFrom n s = .ok ds (s.skip ts.length) := by
  induction h generalizing n s with
  | @one ts ds h =>
    obtain _ | n := n
    · simp at bound
    rw [List.append_assoc] at hs
    have semicolon := eat_reads (ParserState.skip_tokens hs) open_
    have after : (s.skip (ts.length + 1)).ahead = k.head? := by
      simp [ParserState.ahead, ParserState.skip, hs]
    rw [ParserState.skip_skip] at semicolon
    rw [declarationsFrom, bind_of_ok (declaration_reads h hs open_ hd), bind_of_ok semicolon, List.length_append,
      ahead_bind, after]
    rcases next : k.head? with _ | name | _ | _ | _
    · rfl
    · exact absurd next (hk name)
    · rfl
    · rfl
    · rfl
  | @more ts ds us es h rest ih =>
    obtain _ | n := n
    · simp at bound
    -- Behind a semicolon the procedure goes on exactly if it sees a name, and a declaration starts with one.
    obtain ⟨name, vs, rfl⟩ := section_head rest
    rw [List.append_assoc] at hs
    have semicolon := eat_reads (ParserState.skip_tokens hs) open_
    have after : (s.skip (ts.length + 1)).tokens = .identifier name :: vs ++ k := by
      simp [ParserState.skip, hs]
    have more := ih (n := n) (by simp at bound ⊢; omega) after open_ hd
    have last : ts.length + 1 + (.identifier name :: vs).length =
        (ts ++ .symbol .semicolon :: .identifier name :: vs).length := by
      simp only [List.length_append, List.length_cons]
      omega
    rw [ParserState.skip_skip] at semicolon more
    rw [last] at more
    rw [declarationsFrom, bind_of_ok (declaration_reads h hs open_ hd), bind_of_ok semicolon, ahead_bind,
      ahead_of_tokens after]
    exact bind_of_ok more

theorem sectionsFrom_reads {n : Nat} (h : Declarations ts ds) (bound : ts.length ≤ n) (hs : s.tokens = ts ++ k)
    (open_ : s.ending = none) (hd : s.depth = 0) (hk : k.head? = some (.keyword .blockBegin)) :
    sectionsFrom n s = .ok ds (s.skip ts.length) := by
  induction h generalizing n s with
  | none =>
    obtain _ | n := n
    · rfl
    have ended : s.ahead ≠ some (.keyword .var) := by
      rw [ParserState.ahead, hs, List.nil_append, hk]
      simp
    rw [sectionsFrom, ahead_bind, if_neg ended]
    rfl
  | @more ts ds us es h rest ih =>
    obtain _ | n := n
    · simp at bound
    have taken : (s.skip 1).tokens = ts ++ (us ++ k) := by
      simp [ParserState.skip, hs]
    -- The section ends here, as the next one and the block start with keywords.
    have next : ∀ name, (us ++ k).head? ≠ some (.identifier name) := by
      cases rest <;> simp [hk]
    have first := declarationsFrom_reads h (n := (s.skip 1).tokens.length + 1) (by simp [taken]; omega) taken open_ hd
      next
    have more := ih (n := n) (by simp at bound ⊢; omega) (ParserState.skip_tokens taken) open_ hd
    have last : 1 + ts.length + us.length = (.keyword .var :: (ts ++ us)).length := by
      simp only [List.length_append, List.length_cons]
      omega
    simp only [ParserState.skip_skip] at first more
    rw [last] at more
    rw [sectionsFrom, ahead_bind, if_pos (ahead_of_tokens hs), bind_of_ok (advance_reads hs open_)]
    exact (bind_of_ok first).trans (bind_of_ok more)

end Declaration

/-! ### Programs -/

theorem program_accepts :
    Accepts 0 program Grammar.Program (fun p => ∀ s ∈ p.body, s.WithinHeight) id fun _ => True := by
  intro ts p d h s k hs open_ hd _
  cases h with
  | @mk ts ds us ss d name decls body =>
    have named : (s.skip 1).tokens = .identifier name :: .symbol .semicolon :: (ts ++ (us ++ .symbol .dot :: k)) := by
      simp [ParserState.skip, hs]
    have separated : (s.skip 2).tokens = .symbol .semicolon :: (ts ++ (us ++ .symbol .dot :: k)) := by
      simp [ParserState.skip, hs]
    have declared : (s.skip 3).tokens = ts ++ (us ++ .symbol .dot :: k) := by
      simp [ParserState.skip, hs]
    have begins : (us ++ .symbol .dot :: k).head? = some (.keyword .blockBegin) := by
      cases body
      rfl
    have heading := eat_reads (t := .keyword .program) hs open_
    have name_read := identifier_reads named open_
    have separator := eat_reads separated open_
    have declarations_read : declarations (s.skip 3) = .ok ds ((s.skip 3).skip ts.length) :=
      sectionsFrom_reads decls (by simp [state_eq, declared]) declared open_ hd begins
    have block_read := block_accepts (Nat.zero_le _) body (ParserState.skip_tokens declared) open_ hd trivial
    have dot := eat_reads (ParserState.skip_tokens (ParserState.skip_tokens declared)) open_
    simp only [ParserState.skip_skip] at name_read separator declarations_read block_read dot
    have last : 3 + ts.length + us.length + 1 = (.keyword .program :: .identifier name :: .symbol .semicolon ::
        (ts ++ (us ++ [.symbol .dot]))).length := by
      simp only [List.length_append, List.length_cons, List.length_nil]
      omega
    rw [last] at dot
    exact .step heading <| .step name_read <| .step separator <| .step declarations_read <|
      .last block_read (bind_of_ok dot)

end MiniPascal.Parser
