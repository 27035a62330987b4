import MiniPascal.Proofs.Grammar.Prefix

/-! # Expressions, statements and programs

No list of tokens is both an expression and a list of statements. Statements start with a separator, with `BEGIN`
or with a name before `:=`, unless they are nothing at all. Of these an expression can start only with the name,
and then an operator comes next, or nothing. A program starts with a keyword that starts neither of them. -/

namespace MiniPascal.Grammar

/-- How statements start. -/
inductive StartsStatements : List Token → Prop
  | nothing : StartsStatements []
  | separator (ts) : StartsStatements (.symbol .semicolon :: ts)
  | block (ts) : StartsStatements (.keyword .blockBegin :: ts)
  | assignment (name ts) : StartsStatements (.identifier name :: .symbol .assign :: ts)

theorem Statement.starts {ts us : List Token} {s : Stmt} {d : Nat} (h : Statement ts s d)
    (next : StartsStatements us) : StartsStatements (ts ++ us) := by
  cases h with
  | block => exact .block _
  | assign name => exact .assignment name _
  | skip => exact next

theorem Statements.starts {ts : List Token} {ss : List Stmt} {d : Nat} (h : Statements ts ss d) :
    StartsStatements ts := by
  cases h with
  | one last => simpa using last.starts .nothing
  | more first => exact first.starts (.separator _)

theorem Expression.starts {t : Token} {ts : List Token} {e : Expr} {d : Nat} (h : Expression (t :: ts) e d) :
    t ≠ .symbol .semicolon ∧ ∀ k, t ≠ .keyword k := by
  obtain ⟨us, f, k, factor⟩ := StartsExpression.factor ⟨ts, e, d, h⟩
  cases factor with
  | signed sign => cases sign <;> exact ⟨nofun, nofun⟩
  | _ => exact ⟨nofun, nofun⟩

theorem Expression.ne_nil {e : Expr} {d : Nat} : ¬Expression [] e d := by
  intro h
  obtain ⟨us, f, k, vs, split, first, -⟩ := h.exists_tail
  obtain ⟨us', g, j, ws, rfl, factor, -⟩ := first.exists_tail
  exact factor.ne_nil (List.append_eq_nil_iff.mp (List.append_eq_nil_iff.mp split.symm).1).1

theorem Expression.not_assignment {name : String} {ts : List Token} {e : Expr} {d : Nat} :
    ¬Expression (.identifier name :: .symbol .assign :: ts) e d := by
  intro h
  have short := expression_agree Factor.agree h (Factor.identifier name).expression (List.append_nil _) ⟨rfl, rfl⟩
    (⟨rfl, rfl⟩ : EndsExpression (some (.symbol .assign)))
  exact nomatch short.1

theorem Statements.not_expression {ts : List Token} {ss : List Stmt} {e : Expr} {d k : Nat} (h : Statements ts ss d) :
    ¬Expression ts e k := by
  intro expression
  cases h.starts with
  | nothing => exact Expression.ne_nil expression
  | separator => exact expression.starts.1 rfl
  | block => exact expression.starts.2 _ rfl
  | assignment => exact Expression.not_assignment expression

theorem Program.not_expression {ts : List Token} {p : MiniPascal.Program} {e : Expr} {d k : Nat}
    (h : Program ts p d) : ¬Expression ts e k := by
  intro expression
  cases h with
  | mk => exact expression.starts.2 _ rfl

theorem Program.not_statements {ts : List Token} {p : MiniPascal.Program} {ss : List Stmt} {d k : Nat}
    (h : Program ts p d) : ¬Statements ts ss k := by
  intro statements
  cases h with
  | mk => exact nomatch statements.starts

end MiniPascal.Grammar
