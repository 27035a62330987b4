import MiniPascal.Proofs.Parsing.Conforms

/-! # Runs on expressions

The procedures for factors, terms and expressions conform to their rules. What was taken so far of a chain
is itself a chain, so an operator may always come next, and an operand after it. -/

namespace MiniPascal.Parser
open Grammar

/-! ### Chains -/

section Chain
variable {operator : Token → BinaryOp → Prop} {op? : Token → Option BinaryOp}
  {operand : List Token → Expr → Nat → Prop} {p : Parser (Expr × Nat)}

/-- The words of a rule for expressions, as a procedure gives them. -/
abbrev Words (rule : List Token → Expr → Nat → Prop) : Language (Expr × Nat) :=
  (Language.of rule).measured

theorem chainFrom_conforms (ops : ∀ t op, operator t op ↔ op? t = some op) (obeys : Obeys (Words operand) p)
    (inhabited : ∃ ts e d, operand ts e d) {pre : List Token} {l : Expr} {d : Nat}
    (left : Chain operator operand pre l d) (n h : Nat) {s : ParserState} (settled : s.Settled) :
    Conforms ((Words (Chain operator operand)).after pre) (chainFrom op? p n (l, h)) s := by
  induction n generalizing pre l d h s with
  | zero => exact .of_tooDeep rfl
  | succ n ih =>
    rcases next : s.ahead >>= op? with _ | op
    · exact .of_ok (chainFrom_of_end next) (.refl settled) ⟨d, by simpa using left⟩
    -- What is taken with the operator and its operand is a chain again, so the induction goes on from there.
    obtain ⟨t, ahead, is_op⟩ := Option.bind_eq_some_iff.mp next
    obtain ⟨k, tokens⟩ := tokens_of_ahead ahead
    have ht := (ops t op).mpr is_op
    refine .of_run (chainFrom_of_operator next) (.bind (advance_conforms tokens) ?_ ?_)
    · rintro _ _ rfl
      obtain ⟨us, r, k, right⟩ := inhabited
      exact ⟨us, (.binary op l r, 0), _, left.operator ht right⟩
    rintro _ _ s passes rfl
    refine .bind (obeys s passes.settled) ?_ ?_
    · rintro us ⟨r, _⟩ ⟨k, right⟩
      exact .of_word (a := (.binary op l r, 0)) ⟨_, left.operator ht right⟩
    rintro us ⟨r, i⟩ s passes ⟨k, right⟩
    refine .silent checkHeight_silent passes.settled fun h s _ settled => ?_
    have rest := ih (left.operator ht right) h settled
    rw [Language.after_after, Language.after_after]
    simpa using rest

theorem chain_obeys (ops : ∀ t op, operator t op ↔ op? t = some op) (obeys : Obeys (Words operand) p)
    (inhabited : ∃ ts e d, operand ts e d) : Obeys (Words (Chain operator operand)) (chain op? p) := by
  intro s settled
  refine .bind (obeys s settled) ?_ ?_
  · rintro ts ⟨e, h⟩ ⟨d, first⟩
    exact .of_word (a := (e, h)) ⟨d, .operand first⟩
  rintro ts ⟨e, h⟩ s passes ⟨d, first⟩
  exact chainFrom_conforms ops obeys inhabited (.operand first) _ _ passes.settled

end Chain

/-! ### Expressions -/

theorem exists_factor : ∃ ts e d, Factor ts e d := ⟨_, _, _, .identifier ""⟩

theorem exists_expression : ∃ ts e d, Expression ts e d := ⟨_, _, _, (Factor.identifier "").expression⟩

theorem expressionOf_obeys {p : Parser (Expr × Nat)} (obeys : Obeys (Words Factor) p) :
    Obeys (Words Expression) (expressionOf p) := by
  have exists_term : ∃ ts e d, Term ts e d := ⟨_, _, _, .operand (.identifier "")⟩
  exact chain_obeys additive_iff (chain_obeys multiplicative_iff obeys exists_factor) exists_term

theorem signed_conforms {p : Parser (Expr × Nat)} {s : ParserState} {t : Token} {op : UnaryOp}
    (obeys : Obeys (Words Factor) p) (ht : Sign t op) (ahead : s.ahead = some t) (settled : s.Settled) :
    Conforms (Words Factor) (signed op p) s := by
  obtain ⟨k, tokens⟩ := tokens_of_ahead ahead
  refine .silent enter_silent settled fun _ u same settled => ?_
  refine .bind (advance_conforms (same.trans tokens)) ?_ ?_
  · rintro _ _ rfl
    obtain ⟨us, e, d, h⟩ := exists_factor
    exact ⟨us, (.unary op e, 0), _, .signed ht h⟩
  rintro _ _ u passes rfl
  refine .bind (obeys u passes.settled) ?_ ?_
  · rintro us ⟨e, h⟩ ⟨d, operand⟩
    exact .of_word (a := (.unary op e, h)) ⟨_, .signed ht operand⟩
  rintro us ⟨e, h⟩ u passes ⟨d, operand⟩
  refine .silent leave_silent passes.settled fun _ u _ settled => ?_
  refine .silent checkHeight_silent settled fun h u _ settled => ?_
  exact .done settled ⟨d + 1, by simpa using operand.signed ht⟩

theorem factorOf_obeys {p : Parser (Expr × Nat)} (obeys : Obeys (Words Factor) p) :
    Obeys (Words Factor) (factorOf p) := by
  intro s settled
  -- Every token that starts no factor fails in the same way, where any factor might have stood.
  have other (run : factorOf p s = fail .expression s) : Conforms (Words Factor) (factorOf p) s := by
    refine .of_fail run settled nofun fun t ht => ?_
    obtain ⟨ts, e, d, h⟩ := ht.factor
    exact ⟨ts, (e, 0), d, h⟩
  have sign {t op} (ht : Sign t op) (h : s.ahead = some t) : Conforms (Words Factor) (factorOf p) s :=
    .of_run (factorOf_of_sign ht h) (signed_conforms obeys ht h settled)
  rcases h : s.ahead with _ | name | v | k | sym
  case some.identifier =>
    refine .of_run (factorOf_of_identifier h) (.bind (identifier_conforms settled) ?_ ?_)
    · rintro _ name rfl
      exact .of_word (a := (.var ⟨name⟩, 0)) ⟨0, .identifier name⟩
    · rintro _ name u passes rfl
      exact .done passes.settled ⟨0, .identifier name⟩
  case some.number =>
    obtain ⟨k, tokens⟩ := tokens_of_ahead h
    refine .of_run (factorOf_of_number h) (.bind (advance_conforms tokens) ?_ ?_)
    · rintro _ _ rfl
      exact .of_word (a := (.literal v, 0)) ⟨0, .number v⟩
    · rintro _ _ u passes rfl
      exact .done passes.settled ⟨0, .number v⟩
  case some.symbol =>
    cases sym with
    | plus => exact sign .plus h
    | minus => exact sign .minus h
    | leftParen =>
      refine .of_run (factorOf_of_paren h) (enclosed_conforms (expressionOf_obeys obeys) ?_ ?_ settled)
      · obtain ⟨ts, e, d, h⟩ := exists_expression
        exact ⟨ts, (e, 0), d, h⟩
      · rintro ts ⟨e, _⟩ ⟨d, h⟩
        exact ⟨d + 1, .grouped h⟩
    | _ => exact other (by rw [factorOf, ahead_bind, h])
  all_goals exact other (by rw [factorOf, ahead_bind, h])

theorem factorWithin_obeys (n : Nat) : Obeys (Words Factor) (factorWithin n) := by
  induction n with
  | zero => exact fun _ _ => .of_tooDeep rfl
  | succ n ih => exact factorOf_obeys ih

theorem expression_obeys : Obeys (Words Expression) expression := fun s settled =>
  .of_run (expression_eq s) (expressionOf_obeys (factorWithin_obeys _) s settled)

end MiniPascal.Parser
