import MiniPascal.Proofs.Parsing.Bookkeeping
import MiniPascal.Proofs.Parsing.Local

/-! # The rules without their bounds

The procedures that recursion goes through have a bound on the levels that they may open, a chain of operators has one
on the operators, and the other loops have one on the tokens. None of these bounds ever stops a run: a level above the
limit is refused where it is opened, and a height above the limit where it is reached, and both come first; and each
turn of a loop takes a token. So the procedures follow the rules of the grammar in terms of each other, at every depth
within the limit, whether the text is accepted or not. -/

namespace MiniPascal.Parser

/-! ### Procedures at one depth -/

/-- Two procedures do the same at one depth. -/
def SameAt {α : Type} (d : Nat) (p q : Parser α) : Prop :=
  ∀ ⦃s⦄, s.depth = d → p s = q s

/-- The bound that the state gives is the same at all states of one depth. -/
theorem sameAt_bounded {α : Type} (d : Nat) (p : Nat → Parser α) :
    SameAt d (p (maxDepth + 1 - d)) (bounded room p) := by
  rintro s rfl
  rfl

section Same
variable {α β : Type} {d : Nat} {post : α → Prop} {p q : Parser α} {f g : α → Parser β} {s : ParserState}

/-- What comes after a procedure only needs to be the same at the depth to which the procedure comes. -/
theorem bind_same (keeps : Keeps d post p s) (same : p s = q s) (rest : ∀ a, post a → SameAt d (f a) (g a)) :
    (p >>= f) s = (q >>= g) s := by
  rcases run : p s with ⟨a, t⟩ | ⟨e, t⟩
  · obtain ⟨-, depth, holds⟩ := keeps.ok run
    rw [bind_of_ok run, bind_of_ok (same.symm.trans run)]
    exact rest a holds depth
  · rw [bind_of_error run, bind_of_error (same.symm.trans run)]

theorem enter_bind_same {f g : Unit → Parser β} (rest : f () s.inside = g () s.inside) :
    (enter >>= f) s = (enter >>= g) s := by
  by_cases deep : s.depth + 1 > maxDepth
  · have fails : enter s = .error (.tooDeep (s.depth + 1) maxDepth) s.inside := if_pos deep
    rw [bind_of_error fails, bind_of_error fails]
  · have opens : enter s = .ok () s.inside := if_neg deep
    rw [bind_of_ok opens, bind_of_ok opens]
    exact rest

/-- What is enclosed stands one level deeper. -/
theorem enclosed_same (opening closing : Token) (body : Restores post p) (same : SameAt (s.depth + 1) p q) :
    enclosed opening closing p s = enclosed opening closing q s :=
  enter_bind_same <| bind_same (eat_keeps _ rfl) rfl fun _ _ _ deeper =>
    bind_same (body deeper) (same deeper) fun _ _ _ _ => rfl

end Same

/-! ### Expressions -/

section Chain
variable {op? : Token → Option BinaryOp} {p q : Parser (Expr × Nat)}

theorem chainFrom_same {d : Nat} (operand : Restores Measured p) (same : SameAt d p q) (n : Nat) (first : Expr × Nat) :
    SameAt d (chainFrom op? p n first) (chainFrom op? q n first) := by
  induction n generalizing first with
  | zero => exact fun _ _ => rfl
  | succ n ih =>
    intro s depth
    rcases operator : s.ahead >>= op? with _ | op
    · rw [chainFrom_of_end operator, chainFrom_of_end operator]
    · rw [chainFrom_of_operator operator, chainFrom_of_operator operator]
      obtain ⟨t, next, -⟩ := Option.bind_eq_some_iff.mp operator
      exact bind_same (advance_keeps next depth) rfl fun _ _ _ depth =>
        bind_same (operand depth) (same depth) fun _ _ _ depth =>
        bind_same (checkHeight_keeps _ depth) rfl fun _ _ => ih _

theorem chain_same {d : Nat} (operand : Restores Measured p) (same : SameAt d p q) :
    SameAt d (chain op? p) (chain op? q) :=
  fun _ depth => bind_same (operand depth) (same depth) fun first _ => chainFrom_same operand same _ first

/-- The height grows with each operator, so a bound of one more operator than the height falls short of the limit is as
good as any greater one. -/
theorem chainFrom_bound {n m : Nat} {first : Expr × Nat} (low : first.2 ≤ maxDepth) (many : maxDepth < n + first.2)
    (many' : maxDepth < m + first.2) : chainFrom op? p n first = chainFrom op? p m first := by
  induction n generalizing m first with
  | zero => omega
  | succ n ih =>
    obtain ⟨left, h⟩ := first
    obtain ⟨m, rfl⟩ : ∃ k, m = k + 1 := ⟨m - 1, by omega⟩
    refine bind_congr fun a => ?_
    rcases a >>= op? with _ | op
    · rfl
    · refine bind_congr fun _ => bind_congr fun (right, k) => funext fun s => ?_
      refine bind_same (checkHeight_keeps _ rfl) rfl fun h' ⟨higher, low⟩ t _ => congrFun (ih low ?_ ?_) t <;> omega

/-- A chain goes on after a tree within the limit as long as operators come. -/
theorem chainFrom_rule {left : Expr} {h : Nat} (low : h ≤ maxDepth) :
    chainFrom op? p (maxDepth + 1) (left, h) = (do
      match (← ahead) >>= op? with
      | none => pure (left, h)
      | some op => do
        advance
        let (right, k) ← p
        let h ← checkHeight (max h k + 1)
        chainFrom op? p (maxDepth + 1) (.binary op left right, h)) :=
  chainFrom_bound (m := maxDepth + 1 + 1) low (by omega) (by omega)

end Chain

section Factor
variable {p q : Parser (Expr × Nat)} {s : ParserState}

theorem expressionOf_same {d : Nat} (factor : Restores Measured p) (same : SameAt d p q) :
    SameAt d (expressionOf p) (expressionOf q) :=
  chain_same (termOf_restores factor) (chain_same factor same)

theorem signed_same {t : Token} (op : UnaryOp) (next : s.ahead = some t) (factor : Restores Measured p)
    (same : SameAt (s.depth + 1) p q) : signed op p s = signed op q s := by
  have next : s.inside.ahead = some t := next
  exact enter_bind_same <| bind_same (advance_keeps next rfl) rfl fun _ _ _ deeper =>
    bind_same (factor deeper) (same deeper) fun _ _ _ _ => rfl

/-- All factors inside of a factor stand one level deeper. -/
theorem factorOf_same (factor : Restores Measured p) (same : SameAt (s.depth + 1) p q) :
    factorOf p s = factorOf q s := by
  rw [factorOf, factorOf, ahead_bind, ahead_bind]
  rcases next : s.ahead with _ | name | v | k | sym
  case some.symbol =>
    cases sym with
    | plus => exact signed_same .plus next factor same
    | minus => exact signed_same .minus next factor same
    | leftParen => exact enclosed_same _ _ (expressionOf_restores factor) (expressionOf_same factor same)
    | _ => rfl
  all_goals rfl

end Factor

theorem term_rule : (term : Parser (Expr × Nat)) = termOf factor :=
  funext fun s => chain_same (factorWithin_restores _) (sameAt_bounded s.depth factorWithin) rfl

theorem expression_rule : (expression : Parser (Expr × Nat)) = expressionOf factor :=
  funext fun s => expressionOf_same (factorWithin_restores _) (sameAt_bounded s.depth factorWithin) rfl

/-- Within the limit the bound on the levels that a factor opens is never what stops it. -/
theorem factor_rule {s : ParserState} (low : s.depth ≤ maxDepth) : factor s = factorOf factor s := by
  have room : factor s = factorWithin (maxDepth - s.depth + 1) s := congrArg (factorWithin · s) (Nat.succ_sub low)
  have deeper := sameAt_bounded (s.depth + 1) (factorWithin : Nat → Parser (Expr × Nat))
  rw [Nat.succ_sub_succ] at deeper
  rw [room, factorWithin_succ]
  exact factorOf_same (factorWithin_restores _) deeper

/-! ### Statements -/

section Block
variable {p q : Parser (List Stmt)} {d : Nat}

theorem statementOf_same (same : SameAt d p q) : SameAt d (statementOf p) (statementOf q) := by
  intro s depth
  rcases next : s.ahead with _ | name | v | k | sym
  case some.keyword =>
    cases k with
    | blockBegin =>
      rw [statementOf_of_block next, statementOf_of_block next]
      rcases run : p s with ⟨ss, t⟩ | ⟨e, t⟩
      · rw [bind_of_ok run, bind_of_ok ((same depth).symm.trans run)]
      · rw [bind_of_error run, bind_of_error ((same depth).symm.trans run)]
    | _ => rw [statementOf, statementOf, ahead_bind, ahead_bind, next]
  all_goals rw [statementOf, statementOf, ahead_bind, ahead_bind, next]

theorem repeated_same {α : Type} {p q : Parser α} (separator : Token) (item : Restores (fun _ => True) p)
    (same : SameAt d p q) (n : Nat) : SameAt d (repeated separator p n) (repeated separator q n) := by
  induction n with
  | zero => exact fun _ _ => rfl
  | succ n ih =>
    intro s depth
    by_cases next : s.ahead = some separator
    · rw [repeated_of_separator next, repeated_of_separator next]
      refine bind_same (advance_keeps next depth) rfl fun _ _ _ depth =>
        bind_same (item depth) (same depth) fun _ _ _ depth => ?_
      exact bind_same (repeated_restores separator item n depth) (ih depth) fun _ _ _ _ => rfl
    · rw [repeated_of_end next, repeated_of_end next]

theorem statementsOf_same (block : Restores (fun _ => True) p) (same : SameAt d p q) :
    SameAt d (statementsOf p) (statementsOf q) := by
  intro s depth
  have statement := statementOf_restores block
  have more (n : Nat) := repeated_restores (.symbol .semicolon) statement n
  refine bind_same (statement depth) (statementOf_same same depth) fun _ _ t depth => ?_
  have repeats := repeated_same (.symbol .semicolon) statement (statementOf_same same) t.tokens.length depth
  exact bind_same (restores_of_measure more depth) repeats fun _ _ _ _ => rfl

end Block

theorem statement_rule : (statement : Parser Stmt) = statementOf block :=
  funext fun s => statementOf_same (sameAt_bounded s.depth blockWithin) rfl

theorem statements_rule : (statements : Parser (List Stmt)) = statementsOf block :=
  funext fun s => statementsOf_same (blockWithin_restores _) (sameAt_bounded s.depth blockWithin) rfl

/-- Within the limit the bound on the levels that a block opens is never what stops it. -/
theorem block_rule {s : ParserState} (low : s.depth ≤ maxDepth) : Parser.block s = blockOf Parser.block s := by
  have room : Parser.block s = blockWithin (maxDepth - s.depth + 1) s := congrArg (blockWithin · s) (Nat.succ_sub low)
  have deeper := sameAt_bounded (s.depth + 1) (blockWithin : Nat → Parser (List Stmt))
  rw [Nat.succ_sub_succ] at deeper
  rw [room, blockWithin_succ]
  exact enclosed_same _ _ (statementsOf_restores (blockWithin_restores _))
    (statementsOf_same (blockWithin_restores _) deeper)

/-! ### Loops -/

/-- Two procedures do the same where no more tokens than `n` are left. -/
def SameUpTo {α : Type} (n : Nat) (p q : Parser α) : Prop :=
  ∀ ⦃s⦄, s.tokens.length ≤ n → p s = q s

section Loop
variable {α β : Type} {n m : Nat} {p q : Parser α} {f g : α → Parser β}

namespace SameUpTo

theorem refl (p : Parser α) : SameUpTo n p p := fun _ _ => rfl

/-- A procedure never puts a token back. -/
theorem bind (first : SameUpTo n p q) (takes : Local n n p p) (rest : ∀ a, SameUpTo n (f a) (g a)) :
    SameUpTo n (p >>= f) (q >>= g) := by
  intro s few
  have fewer := takes.shrinks s
  rcases run : p s with ⟨a, t⟩ | ⟨e, t⟩
  · rw [run] at fewer
    rw [bind_of_ok run, bind_of_ok ((first few).symm.trans run)]
    exact rest a (Nat.le_trans fewer few)
  · rw [bind_of_error run, bind_of_error ((first few).symm.trans run)]

/-- A procedure that takes a token leaves one less to the rest. -/
theorem step (takes : ∀ {s a t}, p s = .ok a t → t.tokens.length ≤ s.tokens.length - 1)
    (rest : ∀ a, SameUpTo n (f a) (g a)) : SameUpTo (n + 1) (p >>= f) (p >>= g) := by
  intro s few
  rcases run : p s with ⟨a, t⟩ | ⟨e, t⟩
  · rw [bind_of_ok run, bind_of_ok run]
    exact rest a (Nat.le_trans (takes run) (Nat.sub_le_of_le_add few))
  · rw [bind_of_error run, bind_of_error run]

theorem of_ahead {f g : Lookahead → Parser α} (h : ∀ x, SameUpTo n (f x) (g x)) :
    SameUpTo n (ahead >>= f) (ahead >>= g) := by
  intro s few
  rw [ahead_bind, ahead_bind]
  exact h s.ahead few

/-- Where a bound is as good as any greater one, it is as good as the one that the number of tokens gives. -/
theorem of_bound {loop : Nat → Parser α} (bound : ∀ {n m}, n ≤ m → SameUpTo n (loop n) (loop m)) :
    SameUpTo n (loop n) (bounded (·.tokens.length) loop) :=
  fun _ few => (bound few (Nat.le_refl _)).symm

end SameUpTo

theorem ahead_of_no_tokens {s : ParserState} (few : s.tokens.length ≤ 0) : s.ahead = none := by
  rw [ParserState.ahead, List.eq_nil_of_length_eq_zero (Nat.le_zero.mp few), List.head?_nil]

theorem repeated_bound {separator : Token} (item : ∀ n n', Local n n' p p) (le : n ≤ m) :
    SameUpTo n (repeated separator p n) (repeated separator p m) := by
  induction n generalizing m with
  | zero =>
    intro s few
    have last : s.ahead ≠ some separator := by simp [ahead_of_no_tokens few]
    rw [repeated_of_end last, repeated_of_end last]
  | succ n ih =>
    obtain ⟨m, rfl⟩ : ∃ k, m = k + 1 := ⟨m - 1, by omega⟩
    refine .of_ahead fun x => ?_
    split
    · refine .step advance_takes fun _ => .bind (.refl p) (item n n) fun _ => ?_
      exact .bind (ih (Nat.le_of_succ_le_succ le)) (repeated_local item n) fun _ => .refl _
    · exact .refl _

theorem declarationsFrom_bound (le : n ≤ m) : SameUpTo n (declarationsFrom (n + 1)) (declarationsFrom (m + 1)) := by
  induction n generalizing m with
  | zero =>
    intro s few
    rcases run : declaration s with ⟨ds, t⟩ | ⟨e, t⟩
    · obtain ⟨name, u, first, -⟩ := exists_of_bind_ok run
      rw [identifier, ahead_bind, ahead_of_no_tokens few] at first
      cases first
    · exact (bind_of_error run).trans (bind_of_error run).symm
  | succ n ih =>
    obtain ⟨m, rfl⟩ : ∃ k, m = k + 1 := ⟨m - 1, by omega⟩
    refine .bind (.refl _) declaration_local fun ds => .step eat_takes fun _ => .of_ahead fun x => ?_
    split
    · exact .bind (ih (Nat.le_of_succ_le_succ le)) (declarationsFrom_local _) fun _ => .refl _
    · exact .refl _

theorem sectionsFrom_bound (le : n ≤ m) : SameUpTo n (sectionsFrom n) (sectionsFrom m) := by
  induction n generalizing m with
  | zero =>
    intro s few
    have last : s.ahead ≠ some (.keyword .var) := by simp [ahead_of_no_tokens few]
    cases m with
    | zero => rfl
    | succ m => rw [sectionsFrom, sectionsFrom, ahead_bind, if_neg last]
  | succ n ih =>
    obtain ⟨m, rfl⟩ : ∃ k, m = k + 1 := ⟨m - 1, by omega⟩
    refine .of_ahead fun x => ?_
    split
    · refine .step advance_takes fun _ => .bind (.refl _) declarationList_local fun _ => ?_
      exact .bind (ih (Nat.le_of_succ_le_succ le)) (sectionsFrom_local _) fun _ => .refl _
    · exact .refl _

end Loop

/-- Statements or names with separators before them, as many as there are. -/
theorem repeated_rule {α : Type} {separator : Token} {p : Parser α} (item : ∀ n n', Local n n' p p) :
    bounded (·.tokens.length) (repeated separator p) = (do
      if (← ahead) = some separator then
        advance
        let a ← p
        let as ← bounded (·.tokens.length) (repeated separator p)
        pure (a :: as)
      else
        pure []) := by
  funext s
  have rest : SameUpTo s.tokens.length (repeated separator p _) _ := .of_bound (repeated_bound item)
  refine (repeated_bound item (Nat.le_succ _) (Nat.le_refl _)).trans ?_
  refine SameUpTo.of_ahead (n := s.tokens.length + 1) (fun x => ?_) (Nat.le_succ _)
  split
  · exact .step advance_takes fun _ => .bind (.refl p) (item _ _) fun _ =>
      .bind rest (repeated_local item _) fun _ => .refl _
  · exact .refl _

theorem declarationList_rule :
    (declarationList : Parser (List Declaration)) = (do
      let ds ← declaration
      eat (.symbol .semicolon)
      match (← ahead) with
      | some (.identifier _) => return ds ++ (← declarationList)
      | _ => pure ds) := by
  funext s
  have rest : SameUpTo s.tokens.length (declarationsFrom (s.tokens.length + 1)) declarationList :=
    .of_bound declarationsFrom_bound
  refine (declarationsFrom_bound (Nat.le_succ _) (Nat.le_refl _)).trans ?_
  refine SameUpTo.bind (n := s.tokens.length + 1) (.refl _) declaration_local (fun ds => ?_) (Nat.le_succ _)
  refine .step eat_takes fun _ => .of_ahead fun x => ?_
  obtain _ | name | v | k | sym := x
  case some.identifier => exact .bind rest (declarationsFrom_local _) fun _ => .refl _
  all_goals exact .refl _

theorem declarations_rule :
    (declarations : Parser (List Declaration)) = (do
      if (← ahead) = some (.keyword .var) then
        advance
        let ds ← declarationList
        let more ← declarations
        pure (ds ++ more)
      else
        pure []) := by
  funext s
  have rest : SameUpTo s.tokens.length (sectionsFrom _) declarations := .of_bound sectionsFrom_bound
  refine (sectionsFrom_bound (Nat.le_succ _) (Nat.le_refl _)).trans ?_
  refine SameUpTo.of_ahead (n := s.tokens.length + 1) (fun x => ?_) (Nat.le_succ _)
  split
  · exact .step advance_takes fun _ => .bind (.refl _) declarationList_local fun _ =>
      .bind rest (sectionsFrom_local _) fun _ => .refl _
  · exact .refl _

end MiniPascal.Parser
