import MiniPascal.Parser.Expression

/-! # The grammar of expressions

    expression := term (("+" | "-") term)*
    term       := factor (("*" | "DIV" | "/") factor)*
    factor     := ("+" | "-") factor | number | "(" expression ")" | identifier

A derivation relates a list of tokens to the tree that they stand for and to a number of levels: the
signs and parentheses that are open at once where most of them are. Operators of one level associate to
the left, signs to the right, and parentheses leave no trace in the tree.

The main result is that the grammar is unambiguous: a list of tokens has at most one tree. -/

namespace MiniPascal.Grammar

/-- The operators between terms. -/
inductive Additive : Token → BinaryOp → Prop
  | plus : Additive (.symbol .plus) .add
  | minus : Additive (.symbol .minus) .sub

/-- The operators between factors. -/
inductive Multiplicative : Token → BinaryOp → Prop
  | times : Multiplicative (.symbol .times) .mul
  | integerDiv : Multiplicative (.keyword .integerDiv) .integerDiv
  | divide : Multiplicative (.symbol .divide) .realDiv

/-- The signs before a factor. -/
inductive Sign : Token → UnaryOp → Prop
  | plus : Sign (.symbol .plus) .plus
  | minus : Sign (.symbol .minus) .minus

/-- Operands with operators between them, associated to the left. -/
inductive Chain (operator : Token → BinaryOp → Prop) (operand : List Token → Expr → Nat → Prop) :
    List Token → Expr → Nat → Prop
  | operand {ts e d} (first : operand ts e d) : Chain operator operand ts e d
  | operator {ts l d t op us r k} (left : Chain operator operand ts l d) (h : operator t op)
      (right : operand us r k) : Chain operator operand (ts ++ t :: us) (.binary op l r) (max d k)

/-- A sign and a factor, a number, an expression in parentheses, or an identifier. -/
inductive Factor : List Token → Expr → Nat → Prop
  | number (v : Value) : Factor [.number v] (.literal v) 0
  | identifier (name : String) : Factor [.identifier name] (.var ⟨name⟩) 0
  | signed {t op ts e d} (h : Sign t op) (operand : Factor ts e d) : Factor (t :: ts) (.unary op e) (d + 1)
  | grouped {ts e d} (h : Chain Additive (Chain Multiplicative Factor) ts e d) :
      Factor (.symbol .leftParen :: (ts ++ [.symbol .rightParen])) e (d + 1)

/-- Factors with multiplicative operators between them. -/
abbrev Term := Chain Multiplicative Factor

/-- Terms with additive operators between them. -/
abbrev Expression := Chain Additive Term

theorem Factor.expression {ts : List Token} {e : Expr} {d : Nat} (h : Factor ts e d) : Expression ts e d :=
  .operand (.operand h)

/-! ### Operators -/

theorem additive_iff (t : Token) (op : BinaryOp) : Additive t op ↔ BinaryOp.additive? t = some op := by
  constructor
  · rintro (_ | _) <;> rfl
  · intro h
    unfold BinaryOp.additive? at h
    split at h <;> cases h
    · exact .plus
    · exact .minus

theorem multiplicative_iff (t : Token) (op : BinaryOp) :
    Multiplicative t op ↔ BinaryOp.multiplicative? t = some op := by
  constructor
  · rintro (_ | _ | _) <;> rfl
  · intro h
    unfold BinaryOp.multiplicative? at h
    split at h <;> cases h
    · exact .times
    · exact .integerDiv
    · exact .divide

theorem Sign.unique {t : Token} {op op' : UnaryOp} (h : Sign t op) (h' : Sign t op') : op = op' := by
  cases h <;> cases h' <;> rfl

/-- Whether an expression is complete before this token: no operator follows. -/
def EndsExpression (a : Lookahead) : Prop :=
  a >>= BinaryOp.multiplicative? = none ∧ a >>= BinaryOp.additive? = none

/-! ### Chains -/

section Chain
variable {operator : Token → BinaryOp → Prop} {operand operand' : List Token → Expr → Nat → Prop}

/-- What operators and operands make of a tree that stands before them. It says the same as `Chain`, read
from the first operand on. -/
inductive Tail (operator : Token → BinaryOp → Prop) (operand : List Token → Expr → Nat → Prop) :
    Expr → Nat → List Token → Expr → Nat → Prop
  | done (l d) : Tail operator operand l d [] l d
  | step {l d t op us r k ts e j} (h : operator t op) (right : operand us r k)
      (rest : Tail operator operand (.binary op l r) (max d k) ts e j) :
      Tail operator operand l d (t :: (us ++ ts)) e j

theorem Tail.snoc {l e r : Expr} {d j k : Nat} {ts us : List Token} {t : Token} {op : BinaryOp}
    (h : Tail operator operand l d ts e j) (ht : operator t op) (right : operand us r k) :
    Tail operator operand l d (ts ++ t :: us) (.binary op e r) (max j k) := by
  induction h with
  | done => simpa using Tail.step ht right (.done _ _)
  | step hs first _ ih => simpa using Tail.step hs first ih

theorem Chain.exists_tail {ts : List Token} {e : Expr} {d : Nat} (c : Chain operator operand ts e d) :
    ∃ us l k vs, ts = us ++ vs ∧ operand us l k ∧ Tail operator operand l k vs e d := by
  induction c with
  | operand first => exact ⟨_, _, _, [], by simp, first, .done _ _⟩
  | operator _ ht right ih =>
    obtain ⟨us, l, k, vs, rfl, first, tail⟩ := ih
    exact ⟨us, l, k, _, by simp, first, tail.snoc ht right⟩

/-- Two kinds of operands agree on the text that they share, where both end as `stop` says. -/
def Agree (operand operand' : List Token → Expr → Nat → Prop) (stop : Lookahead → Prop) : Prop :=
  ∀ ⦃ts us : List Token⦄ ⦃e f : Expr⦄ ⦃d k : Nat⦄ ⦃xs ys : List Token⦄, operand ts e d → operand' us f k →
    ts ++ xs = us ++ ys → stop xs.head? → stop ys.head? → ts = us ∧ e = f ∧ d = k

theorem Tail.stop {stop : Lookahead → Prop} (separates : ∀ ⦃t op⦄, operator t op → stop (some t))
    {l e : Expr} {d j : Nat} {ts xs : List Token} (h : Tail operator operand l d ts e j) (hx : stop xs.head?) :
    stop (ts ++ xs).head? := by
  cases h with
  | done => exact hx
  | step ht => exact separates ht

theorem Tail.agree {stop : Lookahead → Prop} (functional : ∀ ⦃t op op'⦄, operator t op → operator t op' → op = op')
    (separates : ∀ ⦃t op⦄, operator t op → stop (some t)) (agree : Agree operand operand' stop)
    {l e f : Expr} {d j k : Nat} {ts us xs ys : List Token} (h : Tail operator operand l d ts e j)
    (h' : Tail operator operand' l d us f k) (same : ts ++ xs = us ++ ys)
    (hx : stop xs.head? ∧ ∀ t op, xs.head? = some t → ¬operator t op)
    (hy : stop ys.head? ∧ ∀ t op, ys.head? = some t → ¬operator t op) : ts = us ∧ e = f ∧ j = k := by
  induction h generalizing us with
  | done l d =>
    cases h' with
    | done => exact ⟨rfl, rfl, rfl⟩
    | step ht =>
      obtain rfl : xs = _ := same
      exact absurd ht (hx.2 _ _ rfl)
  | step ht first tail ih =>
    cases h' with
    | done =>
      obtain rfl : _ = ys := same
      exact absurd ht (hy.2 _ _ rfl)
    | step ht' first' tail' =>
      simp only [List.cons_append, List.append_assoc, List.cons.injEq] at same
      obtain ⟨rfl, same⟩ := same
      obtain rfl := functional ht ht'
      -- Behind both operands stands an operator or the end of the chain, so neither operand goes on.
      obtain ⟨rfl, rfl, rfl⟩ := agree first first' same (tail.stop separates hx.1) (tail'.stop separates hy.1)
      obtain ⟨rfl, rfl, rfl⟩ := ih tail' (List.append_cancel_left same)
      exact ⟨rfl, rfl, rfl⟩

theorem Chain.agree {stop : Lookahead → Prop} (functional : ∀ ⦃t op op'⦄, operator t op → operator t op' → op = op')
    (separates : ∀ ⦃t op⦄, operator t op → stop (some t)) (agree : Agree operand operand' stop) :
    Agree (Chain operator operand) (Chain operator operand') fun a =>
      stop a ∧ ∀ t op, a = some t → ¬operator t op := by
  intro ts us e f d k xs ys c c' same hx hy
  obtain ⟨as, l, i, vs, rfl, first, tail⟩ := c.exists_tail
  obtain ⟨bs, m, j, ws, rfl, first', tail'⟩ := c'.exists_tail
  simp only [List.append_assoc] at same
  obtain ⟨rfl, rfl, rfl⟩ := agree first first' same (tail.stop separates hx.1) (tail'.stop separates hy.1)
  obtain ⟨rfl, rfl, rfl⟩ := tail.agree functional separates agree tail' (List.append_cancel_left same) hx hy
  exact ⟨rfl, rfl, rfl⟩

end Chain

/-! ### Factors -/

/-- Induction on factors, where the chains in parentheses are chains of smaller factors. -/
theorem Factor.induction {motive : (ts : List Token) → (e : Expr) → (d : Nat) → Factor ts e d → Prop}
    (number : ∀ v, motive _ _ _ (.number v)) (identifier : ∀ name, motive _ _ _ (.identifier name))
    (signed : ∀ {t op ts e d} (ht : Sign t op) (h : Factor ts e d), motive _ _ _ h → motive _ _ _ (.signed ht h))
    (grouped : ∀ {ts e d} (h : Expression ts e d),
      Chain Additive (Chain Multiplicative fun ts e d => ∃ h, motive ts e d h) ts e d → motive _ _ _ (.grouped h))
    {ts : List Token} {e : Expr} {d : Nat} (h : Factor ts e d) : motive ts e d h :=
  @Factor.rec motive
    (fun ts e d _ => Chain Additive (Chain Multiplicative fun ts e d => ∃ h, motive ts e d h) ts e d)
    (fun ts e d _ => Chain Multiplicative (fun ts e d => ∃ h, motive ts e d h) ts e d)
    number identifier signed grouped
    (fun _ => .operand) (fun _ ht _ left right => .operator left ht right)
    (fun h hm => .operand ⟨h, hm⟩) (fun _ ht h left hm => .operator left ht ⟨h, hm⟩) _ _ _ h

theorem Multiplicative.functional ⦃t : Token⦄ ⦃op op' : BinaryOp⦄ (h : Multiplicative t op)
    (h' : Multiplicative t op') : op = op' :=
  Option.some.inj (((multiplicative_iff _ _).mp h).symm.trans ((multiplicative_iff _ _).mp h'))

theorem Additive.functional ⦃t : Token⦄ ⦃op op' : BinaryOp⦄ (h : Additive t op) (h' : Additive t op') :
    op = op' :=
  Option.some.inj (((additive_iff _ _).mp h).symm.trans ((additive_iff _ _).mp h'))

theorem Additive.not_multiplicative {t : Token} {op op' : BinaryOp} (h : Additive t op) :
    ¬Multiplicative t op' := by
  cases h <;> nofun

theorem expression_agree {factor factor' : List Token → Expr → Nat → Prop}
    (agree : Agree factor factor' fun _ => True) :
    Agree (Chain Additive (Chain Multiplicative factor)) (Chain Additive (Chain Multiplicative factor'))
      EndsExpression := by
  have terms := Chain.agree Multiplicative.functional (fun _ _ _ => trivial) agree
  have sums := Chain.agree Additive.functional
    (fun _ _ ha => ⟨trivial, fun t op ht => by cases ht; exact ha.not_multiplicative⟩) terms
  have stops {a : Lookahead} (ha : EndsExpression a) :
      (True ∧ ∀ t op, a = some t → ¬Multiplicative t op) ∧ ∀ t op, a = some t → ¬Additive t op := by
    refine ⟨⟨trivial, ?_⟩, ?_⟩
    · rintro t op rfl hop
      exact Option.some_ne_none _ (((multiplicative_iff _ _).mp hop).symm.trans ha.1)
    · rintro t op rfl hop
      exact Option.some_ne_none _ (((additive_iff _ _).mp hop).symm.trans ha.2)
  intro ts us e f d k xs ys h h' same hx hy
  exact sums h h' same (stops hx) (stops hy)

/-- A factor is determined by the tokens that it starts with, whatever comes after it. -/
theorem Factor.agree : Agree Factor Factor fun _ => True := by
  intro ts us e f d k xs ys h h' same _ _
  induction h using Factor.induction generalizing us f k xs ys with
  | number v =>
    cases h' with
    | signed hs => cases hs <;> simp at same
    | _ => simp_all
  | identifier name =>
    cases h' with
    | signed hs => cases hs <;> simp at same
    | _ => simp_all
  | signed hs _ ih =>
    cases h' with
    | signed hs' operand' =>
      simp only [List.cons_append, List.cons.injEq] at same
      obtain ⟨rfl, same⟩ := same
      obtain rfl := hs.unique hs'
      obtain ⟨rfl, rfl, rfl⟩ := ih operand' same
      exact ⟨rfl, rfl, rfl⟩
    | _ => cases hs <;> simp at same
  | grouped _ inner =>
    cases h' with
    | signed hs => cases hs <;> simp at same
    | grouped inner' =>
      simp only [List.cons_append, List.append_assoc, List.cons.injEq, true_and] at same
      -- Whatever follows the factor, its expression is followed by a parenthesis, which ends it.
      have ends : EndsExpression (some (.symbol .rightParen)) := ⟨rfl, rfl⟩
      obtain ⟨rfl, rfl, rfl⟩ :=
        expression_agree (fun _ _ _ _ _ _ _ _ ⟨_, ih⟩ h' same _ _ => ih h' same) inner inner' same ends ends
      exact ⟨rfl, rfl, rfl⟩
    | _ => simp at same

/-- Tokens are an expression in at most one way. -/
theorem Expression.unique {ts : List Token} {e f : Expr} {d k : Nat} (h : Expression ts e d)
    (h' : Expression ts f k) : e = f ∧ d = k :=
  (expression_agree Factor.agree h h' (by rfl : ts ++ [] = ts ++ []) ⟨rfl, rfl⟩ ⟨rfl, rfl⟩).2

end MiniPascal.Grammar
