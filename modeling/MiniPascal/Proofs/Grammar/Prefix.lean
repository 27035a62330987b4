import MiniPascal.Proofs.Grammar.Program

/-! # Viable prefixes

A prefix is viable for a language if some continuation of it is a word, and an item may come after a
prefix if the prefix stays viable with the item behind it. -/

namespace MiniPascal

/-- Words and their trees. -/
abbrev Language (α : Type) := List Token → α → Prop

namespace Language
variable {α : Type}

/-- What a rule derives, on any number of levels. -/
def of (rule : List Token → α → Nat → Prop) : Language α := fun ts a => ∃ d, rule ts a d

/-- The same words, where a height is given along with the tree. -/
def measured (L : Language α) : Language (α × Nat) := fun ts x => L ts x.1

/-- What completes `ts` to a word. -/
def after (L : Language α) (ts : List Token) : Language α := fun us a => L (ts ++ us) a

theorem after_after {L : Language α} {ts us : List Token} : (L.after ts).after us = L.after (ts ++ us) := by
  funext vs a
  simp only [after, List.append_assoc]

end Language

namespace Grammar

/-- The first tokens of expressions. -/
def StartsExpression (t : Token) : Prop :=
  ∃ ts e d, Expression (t :: ts) e d

section Language
variable {α β : Type} {L : Language α} {M : Language β} {ts us : List Token}

/-- Some continuation of `ts` is a word. -/
def Viable (L : Language α) (ts : List Token) : Prop := ∃ us a, L (ts ++ us) a

/-- What was looked for may come after `ts`. -/
def Admits (L : Language α) (ts : List Token) : Expectation → Prop
  | .token t => Viable L (ts ++ [t])
  | .identifier => ∀ name, Viable L (ts ++ [.identifier name])
  | .typeName => ∀ type, Viable L (ts ++ [typeToken type])
  | .expression => ∀ t, StartsExpression t → Viable L (ts ++ [t])
  | .endOfInput => ∃ a, L ts a

theorem Viable.of_word {a : α} (h : L ts a) : Viable L ts :=
  ⟨[], a, by rwa [List.append_nil]⟩

theorem Viable.of_append (h : Viable L (ts ++ us)) : Viable L ts := by
  obtain ⟨vs, a, h⟩ := h
  exact ⟨us ++ vs, a, by rwa [← List.append_assoc]⟩

/-- If every word of one language is viable for another, so is every viable prefix. -/
theorem Viable.trans (h : Viable L ts) (words : ∀ ts a, L ts a → Viable M ts) : Viable M ts := by
  obtain ⟨us, a, h⟩ := h
  exact (words _ a h).of_append

theorem viable_after : Viable (L.after ts) us ↔ Viable L (ts ++ us) := by
  simp only [Viable, Language.after, List.append_assoc]

theorem Viable.of_after {vs : List Token} (h : Viable (L.after ts) (us ++ vs)) : Viable L (ts ++ us ++ vs) := by
  rw [List.append_assoc]
  exact viable_after.mp h

theorem Admits.trans {x : Expectation} (h : Admits L ts x) (words : ∀ ts a, L ts a → Viable M ts)
    (open_ : x ≠ .endOfInput) : Admits M ts x := by
  cases x with
  | token t => exact Viable.trans h words
  | identifier => exact fun name => (h name).trans words
  | typeName => exact fun type => (h type).trans words
  | expression => exact fun t ht => (h t ht).trans words
  | endOfInput => exact absurd rfl open_

theorem Admits.viable {x : Expectation} (h : Admits L ts x) : Viable L ts := by
  cases x with
  | token t => exact Viable.of_append h
  | identifier => exact (h "").of_append
  | typeName => exact (h .integer).of_append
  | expression => exact (h (.identifier "") ⟨[], _, _, (Factor.identifier "").expression⟩).of_append
  | endOfInput =>
    obtain ⟨a, word⟩ := h
    exact .of_word word

theorem Admits.of_after {x : Expectation} (h : Admits (L.after ts) us x) (open_ : x ≠ .endOfInput) :
    Admits L (ts ++ us) x := by
  cases x with
  | token t => exact Viable.of_after h
  | identifier => exact fun name => (h name).of_after
  | typeName => exact fun type => (h type).of_after
  | expression => exact fun t ht => (h t ht).of_after
  | endOfInput => exact absurd rfl open_

end Language

/-! ### First tokens -/

theorem Factor.ne_nil {ts : List Token} {e : Expr} {d : Nat} (h : Factor ts e d) : ts ≠ [] := by
  cases h <;> simp

theorem StartsExpression.factor {t : Token} (h : StartsExpression t) : ∃ ts e d, Factor (t :: ts) e d := by
  obtain ⟨ts, e, d, h⟩ := h
  obtain ⟨us, l, i, vs, same, first, -⟩ := h.exists_tail
  obtain ⟨us, l, i, ws, rfl, first, -⟩ := first.exists_tail
  obtain _ | ⟨u, us⟩ := us
  · exact absurd rfl first.ne_nil
  · cases same
    exact ⟨us, l, i, first⟩

end Grammar
end MiniPascal
