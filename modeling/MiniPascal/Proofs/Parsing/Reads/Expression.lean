import MiniPascal.Proofs.Parsing.Reads

/-! # Reading expressions

The procedures for factors, terms and expressions read what the grammar derives. The recursion of factors
is bounded by the levels that may still be opened, and `enter` fails before that bound is reached; a chain
of operators is bounded by the height of its tree, and `checkHeight` fails before that. -/

namespace MiniPascal.Parser
open Grammar

/-- `Accepts` for a procedure that gives a tree together with its height. -/
abbrev AcceptsExpr (depth : Nat) (p : Parser (Expr × Nat)) (rule : List Token → Expr → Nat → Prop)
    (stop : Lookahead → Prop) : Prop :=
  Accepts depth p rule (fun e => e.height ≤ maxDepth) (fun e => (e, e.height)) stop

/-! ### Chains -/

section Chain
variable {operator : Token → BinaryOp → Prop} {op? : Token → Option BinaryOp} {depth : Nat}
  {operand : List Token → Expr → Nat → Prop} {p : Parser (Expr × Nat)} {stop : Lookahead → Prop}

theorem tail_le {l e : Expr} {d j : Nat} {ts : List Token} (h : Tail operator operand l d ts e j) :
    d ≤ j ∧ l.height ≤ e.height := by
  induction h with
  | done => exact ⟨Nat.le_refl _, Nat.le_refl _⟩
  | step _ _ _ ih =>
    simp only [Expr.height] at ih
    omega

/-- Each operator adds to the height, so a chain within the limit of heights is read before the bound on
the number of operators is reached. -/
theorem chainFrom_reads (ops : ∀ t op, operator t op ↔ op? t = some op)
    (separates : ∀ ⦃t op⦄, operator t op → stop (some t)) (accepts : AcceptsExpr depth p operand stop)
    {l e : Expr} {d j n : Nat} {ts k : List Token} {s : ParserState} (h : Tail operator operand l d ts e j)
    (bound : maxDepth < n + l.height) (levels : depth + d ≤ maxDepth) (low : l.height ≤ maxDepth)
    (hs : s.tokens = ts ++ k) (open_ : s.ending = none) (hd : s.depth = depth)
    (hk : stop k.head? ∧ k.head? >>= op? = none) :
    Reads (chainFrom op? p n (l, l.height)) s (depth + j ≤ maxDepth ∧ e.height ≤ maxDepth) (e, e.height)
      (s.skip ts.length) := by
  induction h generalizing n s with
  | done l d =>
    obtain _ | n := n
    · omega
    have ends : s.ahead >>= op? = none := by
      rw [ParserState.ahead, hs]
      exact hk.2
    exact (Reads.of_eq (chainFrom_of_end ends)).congr (by simp [levels, low])
  | @step l d t op us r i ts e j ht right rest ih =>
    obtain _ | n := n
    · omega
    have goes : s.ahead >>= op? = some op := by
      rw [ahead_of_tokens hs]
      exact (ops t op).mp ht
    have taken : (s.skip 1).tokens = us ++ (ts ++ k) := by
      simp [ParserState.skip, hs]
    have mono := tail_le rest
    simp only [Expr.height] at mono
    -- With the operator the tree so far is higher by one at least, so one operator less may follow.
    have reads (fits : depth + i ≤ maxDepth) (fits' : max l.height r.height + 1 ≤ maxDepth) :=
      ih (n := n) (by simp only [Expr.height]; omega) (by omega) fits' (ParserState.skip_tokens taken) open_ hd
    have last : ((s.skip 1).skip us.length).skip ts.length = s.skip (t :: (us ++ ts)).length := by
      simp only [ParserState.skip_skip, List.length_cons, List.length_append]
      congr 1
      omega
    rw [last] at reads
    exact .of_run (chainFrom_of_operator goes) <| .congr
      (.step (advance_reads hs open_) <|
        .bind (accepts right taken open_ hd (rest.stop separates hk.1)) fun fits =>
        .bind (checkHeight_reads (by omega)) fun fits' => reads fits.1 fits')
      (by omega)

theorem chain_accepts (ops : ∀ t op, operator t op ↔ op? t = some op)
    (separates : ∀ ⦃t op⦄, operator t op → stop (some t)) (accepts : AcceptsExpr depth p operand stop) :
    AcceptsExpr depth (chain op? p) (Chain operator operand) fun a => stop a ∧ a >>= op? = none := by
  intro ts e d h s k hs open_ hd hk
  obtain ⟨us, l, i, vs, rfl, first, tail⟩ := h.exists_tail
  rw [List.append_assoc] at hs
  have mono := tail_le tail
  have reads (fits : depth + i ≤ maxDepth ∧ l.height ≤ maxDepth) :=
    chainFrom_reads ops separates accepts tail (n := maxDepth + 1) (by omega) fits.1 fits.2
      (ParserState.skip_tokens hs) open_ hd hk
  rw [ParserState.skip_skip, ← List.length_append] at reads
  exact .congr (.bind (accepts first hs open_ hd (tail.stop separates hk.1)) reads) (by omega)

end Chain

/-! ### Expressions -/

section Expression
variable {depth : Nat} {p : Parser (Expr × Nat)} {factor : List Token → Expr → Nat → Prop}

theorem expressionOf_accepts (accepts : AcceptsExpr depth p factor fun _ => True) :
    AcceptsExpr depth (expressionOf p) (Chain Additive (Chain Multiplicative factor)) EndsExpression := by
  have terms := chain_accepts multiplicative_iff (fun _ _ _ => trivial) accepts
  have sums := chain_accepts additive_iff
    (fun _ _ h => ⟨trivial, by cases h <;> rfl⟩) terms
  intro ts e d h s k hs open_ hd hk
  exact sums h hs open_ hd ⟨⟨trivial, hk.1⟩, hk.2⟩

theorem factorWithin_accepts (bound : depth ≤ maxDepth) :
    AcceptsExpr depth (factorWithin (maxDepth + 1 - depth)) Factor fun _ => True := by
  intro ts e d h
  induction h using Factor.induction generalizing depth with
  | number v =>
    intro s k hs open_ hd _
    rw [Nat.succ_sub bound]
    refine .of_run (factorOf_of_number (ahead_of_tokens hs)) (.congr (.of_eq ?_) (by simp [bound, Expr.height]))
    exact bind_of_ok (advance_reads hs open_)
  | identifier name =>
    intro s k hs open_ hd _
    rw [Nat.succ_sub bound]
    refine .of_run (factorOf_of_identifier (ahead_of_tokens hs)) (.congr (.of_eq ?_) (by simp [bound, Expr.height]))
    exact bind_of_ok (identifier_reads hs open_)
  | @signed t op ts e d ht h ih =>
    intro s k hs open_ hd _
    subst hd
    rw [Nat.succ_sub bound]
    have taken : (s.inside.skip 1).tokens = ts ++ k := by
      simp [ParserState.skip, ParserState.inside, hs]
    -- The bound on the calls is what is left below the limit, so it is one less on the level below.
    have reads (deeper : s.depth + 1 ≤ maxDepth) := ih deeper taken open_ rfl trivial
    rw [Nat.succ_sub_succ, ParserState.skip_skip, Nat.add_comm 1] at reads
    refine .of_run (factorOf_of_sign ht (ahead_of_tokens hs)) ?_
    exact .congr
      (.bind (enter_reads bound) fun deeper =>
        .step (advance_reads (k := ts ++ k) hs open_) <|
        .bind (reads deeper) fun fits =>
        .step leave_inside <|
        .last (checkHeight_reads (by omega)) rfl)
      (by simp only [Expr.height]; omega)
  | @grouped ts e d _ inner =>
    intro s k hs open_ hd _
    subst hd
    rw [Nat.succ_sub bound]
    have reads (taken : (s.inside.skip 1).tokens = ts ++ .symbol .rightParen :: k) (deeper : s.depth + 1 ≤ maxDepth) :
        Reads (expressionOf (factorWithin (maxDepth - s.depth))) (s.inside.skip 1)
          (s.depth + 1 + d ≤ maxDepth ∧ e.height ≤ maxDepth) (e, e.height) ((s.inside.skip 1).skip ts.length) := by
      refine expressionOf_accepts ?_ inner taken open_ rfl ⟨rfl, rfl⟩
      rintro ts e d ⟨_, ih⟩
      have := ih deeper
      rwa [Nat.succ_sub_succ] at this
    exact .of_run (factorOf_of_paren (ahead_of_tokens hs)) <|
      .congr (enclosed_reads bound hs open_ reads) (by omega)

theorem expression_accepts (bound : depth ≤ maxDepth) : AcceptsExpr depth expression Expression EndsExpression := by
  intro ts e d h s k hs open_ hd hk
  subst hd
  exact .of_run (expression_eq s) (expressionOf_accepts (factorWithin_accepts bound) h hs open_ rfl hk)

end Expression
end MiniPascal.Parser
