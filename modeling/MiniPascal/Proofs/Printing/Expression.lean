import MiniPascal.Proofs.Grammar.Expression
import MiniPascal.Proofs.Printing.Writing
import MiniPascal.Tree.Text

/-! # The texts of expressions

The text of an expression has parentheses around every operator, so it is a factor, whatever the operators are.
As the parentheses leave no trace it is a factor of the same tree; but they count among the levels, and with them
the levels are the cost of the tree. -/

namespace MiniPascal
open Grammar

/-- The levels that the text of an expression opens: one for an operator, which stands in parentheses, and two for
a sign, which is itself a level. -/
def Expr.cost : Expr → Nat
  | literal _ => 0
  | var _ => 0
  | unary _ e => e.cost + 2
  | binary _ l r => max l.cost r.cost + 1

theorem Expr.height_le_cost (e : Expr) : e.height ≤ e.cost := by
  induction e with
  | literal | var => exact Nat.le_refl _
  | unary _ e ih =>
    simp only [height, cost]
    omega
  | binary _ l r ihl ihr =>
    simp only [height, cost]
    omega

/-! ### Operators -/

theorem UnaryOp.exists_sign (op : UnaryOp) : ∃ s : Symbol, s.text = op.text ∧ s ≠ .colon ∧ Sign (.symbol s) op := by
  cases op with
  | plus => exact ⟨.plus, rfl, nofun, .plus⟩
  | minus => exact ⟨.minus, rfl, nofun, .minus⟩

theorem Keyword.spells (k : Keyword) : Spells k.text.toList (.keyword k) := by
  obtain ⟨c, cs, text, first, others, upper⟩ : ∃ c cs, k.text.toList = c :: cs ∧ isWordStart c = true ∧
      cs.all isWordPart = true ∧ Text.uppercase k.text.toList = k.text.toList := by
    cases k <;> exact ⟨_, _, rfl, by decide +kernel, by decide +kernel, by decide +kernel⟩
  exact .keyword (text ▸ .mk first (List.all_eq_true.mp others)) upper

theorem BinaryOp.exists_token (op : BinaryOp) :
    ∃ t, Spells op.text.toList t ∧ (Additive t op ∨ Multiplicative t op) := by
  cases op with
  | add => exact ⟨_, .symbol .plus, .inl .plus⟩
  | sub => exact ⟨_, .symbol .minus, .inl .minus⟩
  | mul => exact ⟨_, .symbol .times, .inr .times⟩
  | integerDiv => exact ⟨_, Keyword.spells .integerDiv, .inr .integerDiv⟩
  | realDiv => exact ⟨_, .symbol .divide, .inr .divide⟩

theorem Grammar.Expression.binary {ts us : List Token} {l r : Expr} {d k : Nat} {t : Token} {op : BinaryOp}
    (left : Factor ts l d) (h : Additive t op ∨ Multiplicative t op) (right : Factor us r k) :
    Expression (ts ++ t :: us) (.binary op l r) (max d k) := by
  rcases h with additive | multiplicative
  · exact .operator left.expression additive (.operand right)
  · exact .operand (.operator (.operand left) multiplicative right)

/-! ### Legible expressions -/

/-- Every number and every name in the expression has a spelling. -/
inductive Expr.Legible : Expr → Prop
  | literal {v x} (h : Spells x (.number v)) : Legible (.literal v)
  | var {name x} (h : Spells x (.identifier name)) : Legible (.var ⟨name⟩)
  | unary (op) {e} (h : Legible e) : Legible (.unary op e)
  | binary (op) {l r} (hl : Legible l) (hr : Legible r) : Legible (.binary op l r)

theorem Grammar.Chain.legible {operator : Token → BinaryOp → Prop} {operand : List Token → Expr → Nat → Prop}
    (operands : ∀ {ts e d}, operand ts e d → Spelled ts → e.Legible) {ts : List Token} {e : Expr} {d : Nat}
    (h : Chain operator operand ts e d) (spelled : Spelled ts) : e.Legible := by
  induction h with
  | operand first => exact operands first spelled
  | operator _ _ right ih =>
    obtain ⟨left, others⟩ := spelled_append.mp spelled
    exact .binary _ (ih left) (operands right (spelled_cons.mp others).2)

theorem Grammar.Factor.legible {ts : List Token} {e : Expr} {d : Nat} (h : Factor ts e d) (spelled : Spelled ts) :
    e.Legible := by
  induction h using Factor.induction with
  | number v =>
    obtain ⟨_, spells⟩ := (spelled_cons.mp spelled).1
    exact .literal spells
  | identifier name =>
    obtain ⟨_, spells⟩ := (spelled_cons.mp spelled).1
    exact .var spells
  | signed _ _ ih => exact .unary _ (ih (spelled_cons.mp spelled).2)
  | grouped _ inner =>
    have spelled := (spelled_append.mp (spelled_cons.mp spelled).2).1
    exact inner.legible (Chain.legible fun ⟨_, ih⟩ => ih) spelled

theorem Grammar.Expression.legible {ts : List Token} {e : Expr} {d : Nat} (h : Expression ts e d)
    (spelled : Spelled ts) : e.Legible :=
  Chain.legible (Chain.legible Factor.legible) h spelled

/-! ### Writing -/

theorem Writes.parenthesised {cs : List Char} {ts : List Token} (h : Writes cs ts) :
    Writes ('(' :: (cs ++ [')'])) (.symbol .leftParen :: (ts ++ [.symbol .rightParen])) :=
  .symbol (s := .leftParen) nofun (h.append (.token (.symbol .rightParen)) fun _ _ => delimits_cons _ (by decide))

/-- A legible expression writes a factor of itself, with as many levels as it costs. -/
theorem Expr.Legible.written {e : Expr} (h : e.Legible) : ∃ ts, Writes e.text.toList ts ∧ Factor ts e e.cost := by
  induction h with
  | @literal v _ spells => exact ⟨_, .token (value_text_spells spells), .number v⟩
  | var spells => exact ⟨_, .token spells.of_identifier, .identifier _⟩
  | unary op _ ih =>
    obtain ⟨ts, writes, factor⟩ := ih
    obtain ⟨s, spelling, alone, sign⟩ := op.exists_sign
    refine ⟨_, ?_, .grouped (Factor.signed sign factor).expression⟩
    simpa [text, spelling] using (writes.symbol alone).parenthesised
  | binary op _ _ ihl ihr =>
    obtain ⟨ts, left, factor⟩ := ihl
    obtain ⟨us, right, factor'⟩ := ihr
    obtain ⟨t, spells, operator⟩ := op.exists_token
    refine ⟨_, ?_, .grouped (Expression.binary factor operator factor')⟩
    have infix_ := left.append_blank ((Writes.token spells).append_blank right)
    simpa [text] using infix_.parenthesised

end MiniPascal
