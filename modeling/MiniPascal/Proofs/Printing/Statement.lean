import MiniPascal.Proofs.Grammar.Program
import MiniPascal.Proofs.Printing.Expression

/-! # The texts of statements

The text of a block is a block of the same statements. An empty statement has no text of its own, and the
separators around it tell where it stands. -/

namespace MiniPascal
open Grammar

mutual

/-- The levels that the text of a statement opens: one for each block, and those of an assigned expression. -/
def Stmt.cost : Stmt → Nat
  | .block body => Stmt.costs body + 1
  | .assign _ value => value.cost
  | .skip => 0

/-- The levels that the texts of statements open, one statement after the other. -/
def Stmt.costs : List Stmt → Nat
  | [] => 0
  | s :: ss => max s.cost (Stmt.costs ss)

end

theorem Stmt.cost_le_costs {s : Stmt} {ss : List Stmt} (mem : s ∈ ss) : s.cost ≤ Stmt.costs ss := by
  induction mem with
  | head => exact Nat.le_max_left ..
  | tail _ _ ih => exact Nat.le_trans ih (Nat.le_max_right ..)

theorem Stmt.Assigns.cost_le {s : Stmt} {e : Expr} (h : s.Assigns e) : e.cost ≤ s.cost := by
  induction h with
  | assign => exact Nat.le_refl _
  | block mem _ ih => exact Nat.le_succ_of_le (Nat.le_trans ih (Stmt.cost_le_costs mem))

theorem Stmt.withinHeight_of_cost_le {s : Stmt} (h : s.cost ≤ maxDepth) : s.WithinHeight := fun e assigns =>
  calc e.height
    _ ≤ e.cost := e.height_le_cost
    _ ≤ s.cost := assigns.cost_le
    _ ≤ maxDepth := h

/-! ### Legible statements -/

/-- Every number and every name in the statement has a spelling, and no block is without statements. -/
inductive Stmt.Legible : Stmt → Prop
  | block {ss} (ne : ss ≠ []) (h : ∀ s ∈ ss, Legible s) : Legible (.block ss)
  | assign {name x e} (target : Spells x (.identifier name)) (value : e.Legible) : Legible (.assign ⟨name⟩ e)
  | skip : Legible .skip

theorem Grammar.Separated.ne_nil {α : Type} {separator : Token} {item : List Token → α → Nat → Prop} {ts : List Token}
    {as : List α} {d : Nat} (h : Separated separator item ts as d) : as ≠ [] := by
  cases h <;> exact List.cons_ne_nil _ _

theorem Grammar.Separated.legible {separator : Token} {item : List Token → Stmt → Nat → Prop}
    (items : ∀ {ts s d}, item ts s d → Spelled ts → s.Legible) {ts : List Token} {ss : List Stmt} {d : Nat}
    (h : Separated separator item ts ss d) (spelled : Spelled ts) : ∀ s ∈ ss, s.Legible := by
  induction h with
  | one last => exact List.forall_mem_singleton.mpr (items last spelled)
  | more first _ ih =>
    obtain ⟨before, others⟩ := spelled_append.mp spelled
    exact List.forall_mem_cons.mpr ⟨items first before, ih (spelled_cons.mp others).2⟩

theorem Grammar.Statement.legible {ts : List Token} {s : Stmt} {d : Nat} (h : Statement ts s d)
    (spelled : Spelled ts) : s.Legible := by
  induction h using Statement.induction with
  | block _ body =>
    have spelled := (spelled_append.mp (spelled_cons.mp spelled).2).1
    exact .block body.ne_nil (body.legible (fun ⟨_, ih⟩ => ih) spelled)
  | assign name value =>
    obtain ⟨⟨_, target⟩, others⟩ := spelled_cons.mp spelled
    exact .assign target (value.legible (spelled_cons.mp others).2)
  | skip => exact .skip

/-- The block of the statements is legible. -/
theorem Grammar.Statements.legible {ts : List Token} {ss : List Stmt} {d : Nat} (h : Statements ts ss d)
    (spelled : Spelled ts) : (Stmt.block ss).Legible :=
  .block h.ne_nil (Separated.legible Statement.legible h spelled)

theorem Grammar.Program.legible {ts : List Token} {p : MiniPascal.Program} {d : Nat} (h : Program ts p d)
    (spelled : Spelled ts) : (Stmt.block p.body).Legible := by
  obtain ⟨_, _, ⟨body⟩⟩ := h
  simp only [spelled_cons, spelled_append] at spelled
  exact Statements.legible body spelled.2.2.2.2.1.2.1

/-! ### Writing -/

theorem Writes.keyword (k : Keyword) : Writes k.text.toList [.keyword k] :=
  .token k.spells

/-- Statements that are written one by one are written with separators between them. -/
theorem exists_writes_statements {ss : List Stmt} (ne : ss ≠ [])
    (h : ∀ s ∈ ss, ∃ ts, Writes s.text.toList ts ∧ Statement ts s s.cost) :
    ∃ ts, Writes ("; ".intercalate (Stmt.texts ss)).toList ts ∧ Statements ts ss (Stmt.costs ss) := by
  induction ss with
  | nil => exact absurd rfl ne
  | cons s ss ih =>
    obtain ⟨ts, writes, statement⟩ := h s (List.mem_cons_self ..)
    cases ss with
    | nil =>
      refine ⟨ts, ?_, ?_⟩
      · simpa [Stmt.texts] using writes
      · simpa [Stmt.costs] using Separated.one statement
    | cons u us =>
      obtain ⟨vs, others, statements⟩ := ih (List.cons_ne_nil _ _) fun v mem => h v (List.mem_cons_of_mem _ mem)
      refine ⟨ts ++ .symbol .semicolon :: vs, ?_, .more statement statements⟩
      have separator := others.blank.symbol (s := .semicolon) nofun
      simpa [Stmt.texts, Symbol.text] using writes.append separator fun _ _ => delimits_cons _ (by decide)

/-- A legible statement writes a statement of itself, with as many levels as it costs. -/
theorem Stmt.Legible.written {s : Stmt} (h : s.Legible) :
    ∃ ts, Writes s.text.toList ts ∧ Statement ts s s.cost := by
  induction h with
  | block ne _ ih =>
    obtain ⟨ts, writes, statements⟩ := exists_writes_statements ne ih
    refine ⟨_, ?_, .block statements⟩
    have block := (Writes.keyword .blockBegin).append_blank (writes.append_blank (.keyword .blockEnd))
    simpa [text, Keyword.text] using block
  | assign target value =>
    obtain ⟨ts, writes, factor⟩ := value.written
    cases target with
    | identifier word other =>
      refine ⟨_, ?_, .assign _ factor.expression⟩
      have value := writes.blank.symbol (s := .assign) nofun
      simpa [text, Symbol.text] using (Writes.token (.identifier word other)).append_blank value
  | skip => exact ⟨[], .nil, .skip⟩

end MiniPascal
