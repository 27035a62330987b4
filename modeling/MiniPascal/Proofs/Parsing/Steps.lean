import MiniPascal.Proofs.Grammar.Program

/-! # How the procedures of the parser unfold

A sequence of procedures opens at its first step, and a procedure that looks at the next token opens at
the rule that the token selects. The other modules on parsing use these equations and unfold nothing. -/

namespace MiniPascal.Parser
open Grammar

section Sequence
variable {σ α β : Type} {p : EStateM Error σ α} {q : α → EStateM Error σ β} {s t : σ} {a : α} {b : β} {e : Error}

theorem bind_of_ok (h : p s = .ok a t) : (p >>= q) s = q a t := by
  show EStateM.bind p q s = _
  simp only [EStateM.bind, h]

theorem bind_of_error (h : p s = .error e t) : (p >>= q) s = .error e t := by
  show EStateM.bind p q s = _
  simp only [EStateM.bind, h]

theorem exists_of_bind_ok (h : (p >>= q) s = .ok b t) : ∃ a u, p s = .ok a u ∧ q a u = .ok b t := by
  rcases run : p s with ⟨a, u⟩ | ⟨e, u⟩
  · exact ⟨a, u, rfl, (bind_of_ok run).symm.trans h⟩
  · rw [bind_of_error run] at h
    cases h

theorem error_or_of_bind_error (h : (p >>= q) s = .error e t) :
    p s = .error e t ∨ ∃ a u, p s = .ok a u ∧ q a u = .error e t := by
  rcases run : p s with ⟨a, u⟩ | ⟨e', u⟩
  · exact .inr ⟨a, u, rfl, (bind_of_ok run).symm.trans h⟩
  · rw [bind_of_error run] at h
    cases h
    exact .inl rfl

theorem ahead_bind {s : ParserState} (f : Lookahead → Parser β) : (ahead >>= f) s = f s.ahead s :=
  bind_of_ok rfl

end Sequence

variable {s : ParserState}

theorem ahead_of_tokens {t : Token} {k : List Token} (h : s.tokens = t :: k) : s.ahead = some t := by
  simp [ParserState.ahead, h]

/-! ### Levels -/

theorem blockWithin_succ (n : Nat) : (blockWithin (n + 1) : Parser (List Stmt)) = blockOf (blockWithin n) := rfl

/-! ### Expressions -/

section Chain
variable {op? : Token → Option BinaryOp} {p : Parser (Expr × Nat)} {n : Nat}

theorem chainFrom_of_end {x : Expr × Nat} (h : s.ahead >>= op? = none) :
    chainFrom op? p (n + 1) x s = .ok x s := by
  unfold chainFrom
  rw [ahead_bind, h]
  rfl

theorem chainFrom_of_operator {l : Expr} {i : Nat} {op : BinaryOp} (h : s.ahead >>= op? = some op) :
    chainFrom op? p (n + 1) (l, i) s = (do
      advance
      let (r, k) ← p
      let h ← checkHeight (max i k + 1)
      chainFrom op? p n (.binary op l r, h)) s := by
  rw [chainFrom, ahead_bind, h]

end Chain

section Factor
variable {p : Parser (Expr × Nat)}

theorem factorOf_of_sign {t : Token} {op : UnaryOp} (ht : Sign t op) (h : s.ahead = some t) :
    factorOf p s = signed op p s := by
  rw [factorOf, ahead_bind, h]
  cases ht <;> rfl

theorem factorOf_of_paren (h : s.ahead = some (.symbol .leftParen)) :
    factorOf p s = enclosed (.symbol .leftParen) (.symbol .rightParen) (expressionOf p) s := by
  rw [factorOf, ahead_bind, h]

theorem factorOf_of_number {v : Value} (h : s.ahead = some (.number v)) :
    factorOf p s = (advance >>= fun _ => pure (.literal v, 0)) s := by
  rw [factorOf, ahead_bind, h]

theorem factorOf_of_identifier {name : String} (h : s.ahead = some (.identifier name)) :
    factorOf p s = (identifier >>= fun name => pure (.var ⟨name⟩, 0)) s := by
  rw [factorOf, ahead_bind, h]

end Factor

theorem factorWithin_succ (n : Nat) : (factorWithin (n + 1) : Parser (Expr × Nat)) = factorOf (factorWithin n) := rfl

theorem expression_eq (s : ParserState) :
    expression s = expressionOf (factorWithin (maxDepth + 1 - s.depth)) s := rfl

/-! ### Statements -/

section Statement
variable {block : Parser (List Stmt)}

theorem statementOf_of_block (h : s.ahead = some (.keyword .blockBegin)) :
    statementOf block s = (block >>= fun ss => pure (.block ss)) s := by
  rw [statementOf, ahead_bind, h]
  exact congrFun (map_eq_pure_bind _ _) s

theorem statementOf_of_identifier {name : String} (h : s.ahead = some (.identifier name)) :
    statementOf block s = assignment s := by
  rw [statementOf, ahead_bind, h]

theorem statementOf_of_other (h : s.ahead ≠ some (.keyword .blockBegin))
    (h' : ∀ name, s.ahead ≠ some (.identifier name)) : statementOf block s = .ok .skip s := by
  rw [statementOf, ahead_bind]
  rcases ahead : s.ahead with _ | name | v | k | sym
  · rfl
  · exact absurd ahead (h' name)
  · rfl
  · cases k with
    | blockBegin => exact absurd ahead h
    | _ => rfl
  · rfl

theorem block_eq (s : ParserState) : Parser.block s = blockWithin (maxDepth + 1 - s.depth) s := rfl

theorem statements_eq (s : ParserState) :
    statements s = statementsOf (blockWithin (maxDepth + 1 - s.depth)) s := rfl

end Statement

/-! ### Repetition -/

section Repetition
variable {α : Type}

variable {separator : Token} {item : Parser α} {n : Nat}

theorem repeated_of_separator (h : s.ahead = some separator) :
    repeated separator item (n + 1) s =
      (advance >>= fun _ => item >>= fun a => repeated separator item n >>= fun as => pure (a :: as)) s := by
  rw [repeated, ahead_bind, if_pos h]

theorem repeated_of_end (h : s.ahead ≠ some separator) : repeated separator item n s = .ok [] s := by
  cases n with
  | zero => rfl
  | succ n =>
    rw [repeated, ahead_bind, if_neg h]
    rfl

end Repetition
end MiniPascal.Parser
