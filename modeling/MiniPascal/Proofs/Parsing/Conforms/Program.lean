import MiniPascal.Proofs.Parsing.Conforms.Expression

/-! # Runs on programs

The procedures for statements, blocks, declarations and programs conform to their rules. -/

namespace MiniPascal.Parser
open Grammar

/-! ### Repetition -/

section Repetition
variable {α β : Type} {separator : Token} {item : Parser α} {rule : List Token → α → Nat → Prop}

/-- What may come after an item: nothing, or a separator and more items. -/
def More (separator : Token) (rule : List Token → α → Nat → Prop) : Language (List α) := fun ts as =>
  (ts = [] ∧ as = []) ∨ ∃ us d, ts = separator :: us ∧ Separated separator rule us as d

theorem More.cons {ts us : List Token} {a : α} {as : List α} {d : Nat} (first : rule ts a d)
    (h : More separator rule us as) : Language.of (Separated separator rule) (ts ++ us) (a :: as) := by
  rcases h with ⟨rfl, rfl⟩ | ⟨us, k, rfl, rest⟩
  · exact ⟨d, by simpa using Separated.one first⟩
  · exact ⟨_, .more first rest⟩

theorem repeated_obeys (obeys : Obeys (.of rule) item) (inhabited : ∃ ts a d, rule ts a d) (n : Nat) :
    Obeys (More separator rule) (repeated separator item n) := by
  induction n with
  | zero => exact fun s settled => .done settled (.inl ⟨rfl, rfl⟩)
  | succ n ih =>
    intro s settled
    by_cases h : s.ahead = some separator
    · obtain ⟨k, tokens⟩ := tokens_of_ahead h
      refine .of_run (repeated_of_separator h) (.bind (advance_conforms tokens) ?_ ?_)
      · rintro _ _ rfl
        obtain ⟨ts, a, d, h⟩ := inhabited
        exact ⟨ts, [a], .inr ⟨ts, d, rfl, .one h⟩⟩
      rintro _ _ s passes rfl
      refine .bind (obeys s passes.settled) ?_ ?_
      · rintro ts a ⟨d, h⟩
        exact .of_word (a := [a]) (.inr ⟨ts, d, rfl, .one h⟩)
      rintro ts a s passes ⟨d, first⟩
      have word {us as} (h : More separator rule us as) :
          (((More separator rule).after [separator]).after ts) us (a :: as) := by
        obtain ⟨k, h⟩ := h.cons first
        exact .inr ⟨ts ++ us, k, rfl, h⟩
      refine .bind (ih s passes.settled) (fun us as h => .of_word (word h)) ?_
      intro us as s passes h
      exact .done passes.settled (by simpa [Language.after] using word h)
    · exact .of_ok (repeated_of_end h) (.refl settled) (.inl ⟨rfl, rfl⟩)

/-- An item and the items after it, before the rest of a sequence. -/
theorem separated_conforms {M : Language β} {q : α → List α → Parser β} {s : ParserState}
    (obeys : Obeys (.of rule) item) (inhabited : ∃ ts a d, rule ts a d)
    (words : ∀ ts as d, Separated separator rule ts as d → Viable M ts) (settled : s.Settled)
    (hq : ∀ ts a as d t, s.Passes ts t → Separated separator rule ts (a :: as) d →
      Conforms (M.after ts) (q a as) t) :
    Conforms M
      (item >>= fun a => (fun t => repeated separator item t.tokens.length t : Parser (List α)) >>= q a) s := by
  refine .bind (obeys s settled) ?_ ?_
  · rintro ts a ⟨d, first⟩
    exact words _ _ _ (.one first)
  rintro ts a t passes ⟨d, first⟩
  refine .bind (L := More separator rule) (.of_run rfl (repeated_obeys obeys inhabited _ t passes.settled)) ?_ ?_
  · intro us as h
    obtain ⟨k, h⟩ := h.cons first
    exact viable_after.mpr (words _ _ _ h)
  intro us as u passes' h
  obtain ⟨k, h⟩ := h.cons first
  rw [Language.after_after]
  exact hq _ _ _ _ _ (passes.trans passes') h

end Repetition

/-! ### Statements -/

section Statement
variable {s : ParserState}

theorem assignment_obeys : Obeys (.of Statement) assignment := by
  intro s settled
  have assigns {name ts r} (h : Words Expression ts r) :
      Language.of Statement (.identifier name :: .symbol .assign :: ts) (.assign ⟨name⟩ r.1) :=
    h.imp fun _ h => .assign name h
  obtain ⟨ts, e, d, word⟩ := exists_expression
  refine .bind (identifier_conforms settled) ?_ ?_
  · rintro _ name rfl
    exact ⟨_, _, assigns (r := (e, 0)) ⟨d, word⟩⟩
  rintro _ name s passes rfl
  refine .bind (eat_conforms passes.settled) ?_ ?_
  · rintro _ _ rfl
    exact ⟨_, _, assigns (r := (e, 0)) ⟨d, word⟩⟩
  rintro _ _ s passes rfl
  refine .bind (expression_obeys s passes.settled) (fun ts r h => .of_word (assigns h)) ?_
  intro ts r s passes h
  refine .done passes.settled ?_
  simpa [Language.after] using assigns h

theorem statementOf_obeys {block : Parser (List Stmt)} (obeys : Obeys (.of Block) block) :
    Obeys (.of Statement) (statementOf block) := by
  intro s settled
  have nested {ts ss} (h : Language.of Block ts ss) : Language.of Statement ts (.block ss) := by
    obtain ⟨d, h⟩ := h
    cases h with
    | mk h => exact ⟨_, .block h⟩
  by_cases h : s.ahead = some (.keyword .blockBegin)
  · refine .of_run (statementOf_of_block h) (.bind (obeys s settled) (fun ts ss h => .of_word (nested h)) ?_)
    intro ts ss t passes h
    exact .done passes.settled (by simpa [Language.after] using nested h)
  · by_cases h' : ∃ name, s.ahead = some (.identifier name)
    · obtain ⟨name, h'⟩ := h'
      exact .of_run (statementOf_of_identifier h') (assignment_obeys s settled)
    · exact .of_ok (statementOf_of_other h (not_exists.mp h')) (.refl settled) ⟨0, .skip⟩

theorem exists_statement : ∃ ts s d, Statement ts s d := ⟨_, _, _, .skip⟩

/-- A separator may come after any statements. -/
theorem statementsOf_obeys {block : Parser (List Stmt)} (obeys : Obeys (.of Block) block) :
    Obeys (.of Statements) (statementsOf block) := by
  intro s settled
  unfold statementsOf
  refine separated_conforms (statementOf_obeys obeys) exists_statement
    (fun ts ss d h => .of_word ⟨d, h⟩) settled ?_
  intro ts a as d t passes h
  have word : (Language.of Statements).after ts [] (a :: as) := ⟨d, by simpa using h⟩
  rcases next : t.ahead with _ | name | _ | _ | _
  case some.identifier =>
    refine .of_fail (x := .token (.symbol .semicolon)) (by rw [ahead_bind, next]) passes.settled nofun ?_
    exact ⟨[], _, _, h.snoc .skip⟩
  all_goals exact .of_ok (by rw [ahead_bind, next]; rfl) (.refl passes.settled) word

theorem exists_statements : ∃ ts ss d, Statements ts ss d := ⟨_, _, _, .one .skip⟩

theorem exists_block : ∃ ts ss d, Block ts ss d := ⟨_, _, _, .mk (.one .skip)⟩

theorem blockWithin_obeys (n : Nat) : Obeys (.of Block) (blockWithin n) := by
  induction n with
  | zero => exact fun _ _ => .of_tooDeep rfl
  | succ n ih =>
    intro s settled
    rw [blockWithin_succ]
    refine enclosed_conforms (statementsOf_obeys ih) ?_ ?_ settled
    · obtain ⟨ts, ss, d, h⟩ := exists_statements
      exact ⟨ts, ss, d, h⟩
    · rintro ts ss ⟨d, h⟩
      exact ⟨d + 1, .mk h⟩

theorem block_obeys : Obeys (.of Block) Parser.block := fun s settled =>
  .of_run (block_eq s) (blockWithin_obeys _ s settled)

theorem statements_obeys : Obeys (.of Statements) statements := fun s settled =>
  .of_run (statements_eq s) (statementsOf_obeys (blockWithin_obeys _) s settled)

end Statement

/-! ### Declarations -/

section Declaration

theorem typeName_conforms {s : ParserState} (settled : s.Settled) :
    Conforms (fun ts type => ts = [typeToken type]) typeName s := by
  have failed (run : typeName s = fail .typeName s) : Conforms (fun ts type => ts = [typeToken type]) typeName s :=
    .of_fail run settled nofun fun type => ⟨[], type, rfl⟩
  have named (type) (run : typeName s = (advance >>= fun _ => pure type) s) (h : s.ahead = some (typeToken type)) :
      Conforms (fun ts type => ts = [typeToken type]) typeName s := by
    obtain ⟨k, tokens⟩ := tokens_of_ahead h
    refine .of_run run (.bind (advance_conforms tokens) ?_ ?_)
    · rintro _ _ rfl
      exact ⟨[], type, rfl⟩
    · rintro _ _ s passes rfl
      exact .done passes.settled rfl
  rcases h : s.ahead with _ | name | v | k | sym
  case some.keyword =>
    cases k with
    | integer => exact named .integer (by rw [typeName, ahead_bind, h]) h
    | real => exact named .real (by rw [typeName, ahead_bind, h]) h
    | _ => exact failed (by rw [typeName, ahead_bind, h])
  all_goals exact failed (by rw [typeName, ahead_bind, h])

theorem declaration_obeys : Obeys Grammar.Declaration declaration := by
  intro s settled
  unfold declaration
  have names : Obeys (.of Identifier) identifier := by
    intro s settled
    refine .imp (identifier_conforms settled) ?_
    rintro _ name rfl
    exact ⟨0, .mk name⟩
  refine separated_conforms names ⟨_, _, _, .mk ""⟩ (fun ts as d h => ⟨_, _, .mk h .integer⟩) settled ?_
  intro ts a as d s passes h
  refine .bind (eat_conforms passes.settled) ?_ ?_
  · rintro _ _ rfl
    exact ⟨_, _, .mk h .integer⟩
  rintro _ _ s passes rfl
  refine .bind (typeName_conforms passes.settled) ?_ ?_
  · rintro _ type rfl
    exact .of_word (Grammar.Declaration.mk h type)
  rintro _ type s passes rfl
  exact .done passes.settled (.mk h type)

/-- The bound on the number of declarations is not reached, as each of them takes a token. -/
theorem declarationsFrom_conforms {n : Nat} {s : ParserState} (bound : s.tokens.length < n) (settled : s.Settled) :
    Conforms Section (declarationsFrom n) s := by
  induction n generalizing s with
  | zero => exact absurd bound (Nat.not_lt_zero _)
  | succ n ih =>
    rw [declarationsFrom]
    refine .bind (declaration_obeys s settled) (fun ts ds h => ⟨_, _, .one h⟩) ?_
    intro ts ds t passes h
    refine .bind (eat_conforms passes.settled) ?_ ?_
    · rintro _ _ rfl
      exact ⟨[], _, .one h⟩
    rintro _ _ u passes' rfl
    have last := Section.one h
    rcases next : u.ahead with _ | name | _ | _ | _
    case some.identifier =>
      have bound : u.tokens.length < n := by
        have tokens := congrArg List.length passes.tokens
        have tokens' := congrArg List.length passes'.tokens
        simp only [List.length_append, List.length_singleton] at tokens tokens'
        omega
      refine .of_run (r := declarationsFrom n >>= fun es => pure (ds ++ es)) (by rw [ahead_bind, next]) ?_
      refine .bind (ih bound passes'.settled) (fun us es rest => .of_word (a := ds ++ es) (.more h rest)) ?_
      intro us es v passes rest
      refine .done passes.settled ?_
      simpa [Language.after] using Section.more h rest
    all_goals exact .of_ok (by rw [ahead_bind, next]; rfl) (.refl passes'.settled) last

theorem exists_section : ∃ ts ds, Section ts ds := ⟨_, _, .one (.mk (.one (.mk "")) .integer)⟩

theorem declarationList_obeys : Obeys Section declarationList := fun _ settled =>
  .of_run (bounded_eq _ _ _) (declarationsFrom_conforms (Nat.lt_succ_self _) settled)

theorem sectionsFrom_obeys (n : Nat) : Obeys Declarations (sectionsFrom n) := by
  induction n with
  | zero => exact fun s settled => .done settled .none
  | succ n ih =>
    intro s settled
    rw [sectionsFrom]
    by_cases h : s.ahead = some (.keyword .var)
    · obtain ⟨k, tokens⟩ := tokens_of_ahead h
      refine .of_run (by rw [ahead_bind, if_pos h]) (.bind (advance_conforms tokens) ?_ ?_)
      · rintro _ _ rfl
        obtain ⟨ts, ds, h⟩ := exists_section
        have word := Declarations.more h .none
        exact ⟨_, _, word⟩
      rintro _ _ t passes rfl
      refine .bind (declarationList_obeys t passes.settled) ?_ ?_
      · intro ts ds h
        have word := Declarations.more h .none
        exact ⟨[], _, word⟩
      intro ts ds u passes h
      refine .bind (ih u passes.settled) ?_ ?_
      · intro us es rest
        have word := Declarations.more h rest
        exact .of_word (a := ds ++ es) word
      intro us es v passes rest
      refine .done passes.settled ?_
      simpa [Language.after] using Declarations.more h rest
    · exact .of_ok (by rw [ahead_bind, if_neg h]; rfl) (.refl settled) .none

end Declaration

/-! ### Programs -/

theorem exists_program : ∃ ts p d, Grammar.Program ts p d := by
  obtain ⟨ts, ss, d, h⟩ := exists_block
  exact ⟨_, _, d, .mk "" .none h⟩

theorem program_obeys : Obeys (.of Grammar.Program) program := by
  intro s settled
  obtain ⟨bs, body, d, hbody⟩ := exists_block
  refine .bind (eat_conforms settled) ?_ ?_
  · rintro _ _ rfl
    exact ⟨_, _, d, .mk "" .none hbody⟩
  rintro _ _ s passes rfl
  refine .bind (identifier_conforms passes.settled) ?_ ?_
  · rintro _ name rfl
    exact ⟨_, _, d, .mk name .none hbody⟩
  rintro _ name s passes rfl
  refine .bind (eat_conforms passes.settled) ?_ ?_
  · rintro _ _ rfl
    exact ⟨_, _, d, .mk name .none hbody⟩
  rintro _ _ s passes rfl
  have sections : Conforms Declarations declarations s :=
    .of_run (r := sectionsFrom s.tokens.length) rfl (sectionsFrom_obeys _ s passes.settled)
  refine .bind sections ?_ ?_
  · intro ts ds hds
    have word := Grammar.Program.mk name hds hbody
    exact ⟨_, _, d, word⟩
  intro ts ds s passes hds
  refine .bind (block_obeys s passes.settled) ?_ ?_
  · rintro us ss ⟨d, hss⟩
    exact ⟨[.symbol .dot], _, d, by simpa [Language.after] using Grammar.Program.mk name hds hss⟩
  rintro us ss s passes ⟨d, hss⟩
  have word := Grammar.Program.mk name hds hss
  refine .bind (eat_conforms passes.settled) ?_ ?_
  · rintro _ _ rfl
    exact ⟨[], _, d, word⟩
  rintro _ _ s passes rfl
  exact .done passes.settled ⟨d, word⟩

end MiniPascal.Parser
