import MiniPascal.Proofs.Parsing.Steps

/-! # Runs and the tokens that they have not seen

A procedure looks at the next token and no further. So of two token lists with a common beginning, a run
cannot tell which one it is on, as long as it leaves a token of the beginning. -/

namespace MiniPascal.Parser
open Grammar

/-- How many tokens a run leaves. -/
def remaining {α : Type} : EStateM.Result Error ParserState α → Nat
  | .ok _ t | .error _ t => t.tokens.length

/-- Two states with a common beginning, of one token at least, before `r` in one and before `r'` in the other. -/
structure Twin (r r' : List Token) (s s' : ParserState) : Prop where
  tokens : ∃ t k, s.tokens = t :: (k ++ r) ∧ s'.tokens = t :: (k ++ r')
  depth : s'.depth = s.depth

/-- The same result in two such states, unless the first run has left the common beginning. -/
inductive Alike {α : Type} (r r' : List Token) :
    EStateM.Result Error ParserState α → EStateM.Result Error ParserState α → Prop
  | ok (a) {t t'} (h : Twin r r' t t') : Alike r r' (.ok a t) (.ok a t')
  | error (e) {t t'} (h : Twin r r' t t') : Alike r r' (.error e t) (.error e t')
  | past {x x'} (h : remaining x ≤ r.length) : Alike r r' x x'

/-- Two procedures that go the same way in two such states, with at most `n` and `n'` tokens. They differ
only in bounds on the number of tokens. -/
structure Local {α : Type} (n n' : Nat) (p p' : Parser α) : Prop where
  shrinks : ∀ s, remaining (p s) ≤ s.tokens.length
  shrinks' : ∀ s, remaining (p' s) ≤ s.tokens.length
  alike : ∀ {r r' s s'}, Twin r r' s s' → s.tokens.length ≤ n → s'.tokens.length ≤ n' → Alike r r' (p s) (p' s')

section Local
variable {α β : Type} {n n' : Nat} {p p' : Parser α} {q q' : α → Parser β} {r r' : List Token} {s s' : ParserState}

theorem Twin.ahead (h : Twin r r' s s') : s'.ahead = s.ahead := by
  obtain ⟨t, k, tokens, tokens'⟩ := h.tokens
  rw [ahead_of_tokens tokens, ahead_of_tokens tokens']

theorem bind_shrinks (hp : ∀ s, remaining (p s) ≤ s.tokens.length)
    (hq : ∀ a s, remaining (q a s) ≤ s.tokens.length) (s : ParserState) :
    remaining ((p >>= q) s) ≤ s.tokens.length := by
  have first := hp s
  rcases run : p s with ⟨a, t⟩ | ⟨e, t⟩
  · rw [run] at first
    rw [bind_of_ok run]
    exact Nat.le_trans (hq a t) first
  · rw [run] at first
    rwa [bind_of_error run]

/-- Runs that go the same way go on so, where the rest of both goes the same way. -/
theorem Alike.bind (h : Alike r r' (p s) (p' s')) (hq : ∀ a, Local n n' (q a) (q' a))
    (bound : ∀ {a t}, p s = .ok a t → t.tokens.length ≤ n) (bound' : ∀ {a t}, p' s' = .ok a t → t.tokens.length ≤ n') :
    Alike r r' ((p >>= q) s) ((p' >>= q') s') := by
  rcases run : p s with ⟨a, t⟩ | ⟨e, t⟩
  · rw [run] at h
    rw [bind_of_ok run]
    generalize run' : p' s' = x' at h
    cases h with
    | ok _ twin =>
      rw [bind_of_ok run']
      exact (hq a).alike twin (bound run) (bound' run')
    | past left => exact .past (Nat.le_trans ((hq a).shrinks t) left)
  · rw [run] at h
    rw [bind_of_error run]
    generalize run' : p' s' = x' at h
    cases h with
    | error _ twin =>
      rw [bind_of_error run']
      exact .error e twin
    | past left => exact .past left

namespace Local

theorem bind (hp : Local n n' p p') (hq : ∀ a, Local n n' (q a) (q' a)) :
    Local n n' (p >>= q) (p' >>= q') where
  shrinks := bind_shrinks hp.shrinks fun a => (hq a).shrinks
  shrinks' := bind_shrinks hp.shrinks' fun a => (hq a).shrinks'
  alike {r r' s s'} twin bound bound' := by
    refine .bind (hp.alike twin bound bound') hq ?_ ?_
    · intro a t run
      have shrinks := hp.shrinks s
      rw [run] at shrinks
      exact Nat.le_trans shrinks bound
    · intro a t run
      have shrinks := hp.shrinks' s'
      rw [run] at shrinks
      exact Nat.le_trans shrinks bound'

theorem of_ok (a : α) : Local n n' (pure a) (pure a) where
  shrinks _ := Nat.le_refl _
  shrinks' _ := Nat.le_refl _
  alike twin _ _ := .ok a twin

theorem of_throw (e : Error) : Local (α := α) n n' (throw e) (throw e) where
  shrinks _ := Nat.le_refl _
  shrinks' _ := Nat.le_refl _
  alike twin _ _ := .error e twin

theorem of_fail (x : Expectation) : Local (α := α) n n' (fail x) (fail x) where
  shrinks _ := Nat.le_refl _
  shrinks' _ := Nat.le_refl _
  alike twin _ _ := by
    simp only [fail, step_eq, Step.fail, twin.ahead]
    exact .error _ twin

theorem of_ahead {f f' : Lookahead → Parser β} (h : ∀ x, Local n n' (f x) (f' x)) :
    Local n n' (ahead >>= f) (ahead >>= f') where
  shrinks s := (h s.ahead).shrinks s
  shrinks' s := (h s.ahead).shrinks' s
  alike {r r' s s'} twin bound bound' := by
    rw [ahead_bind, ahead_bind, twin.ahead]
    exact (h s.ahead).alike twin bound bound'

theorem of_depth {f f' : Nat → Parser α} (h : ∀ d, Local n n' (f d) (f' d)) :
    Local n n' (bounded room f) (bounded room f') where
  shrinks s := (h (room s)).shrinks s
  shrinks' s := (h (room s)).shrinks' s
  alike {r r' s s'} twin bound bound' := by
    have same : room s' = room s := congrArg (maxDepth + 1 - ·) twin.depth
    rw [bounded_eq, bounded_eq, same]
    exact (h (room s)).alike twin bound bound'

/-- A procedure may be bounded by the number of tokens, where that bound makes no difference. -/
theorem of_length {f : Nat → Parser α} (h : ∀ m m', Local m m' (f m) (f m')) :
    Local n n' (bounded (·.tokens.length) f) (bounded (·.tokens.length) f) where
  shrinks s := (h s.tokens.length s.tokens.length).shrinks s
  shrinks' s := (h s.tokens.length s.tokens.length).shrinks s
  alike twin _ _ := (h _ _).alike twin (Nat.le_refl _) (Nat.le_refl _)

/-- There is no token that a procedure could take. -/
theorem of_none (shrinks : ∀ s, remaining (p s) ≤ s.tokens.length) (shrinks' : ∀ s, remaining (p' s) ≤ s.tokens.length)
    (none : n = 0 ∨ n' = 0) : Local n n' p p' where
  shrinks := shrinks
  shrinks' := shrinks'
  alike twin bound bound' := by
    obtain ⟨t, k, tokens, tokens'⟩ := twin.tokens
    simp only [tokens, tokens', List.length_cons] at bound bound'
    omega

/-- A procedure that is bounded by the number of tokens may be bounded by more, if each of its steps takes a token. -/
theorem of_bounds {f : Nat → Parser α} (each : ∀ m, Local 0 0 (f m) (f m))
    (step : ∀ {n n'}, Local n n' (f n) (f n') → Local (n + 1) (n' + 1) (f (n + 1)) (f (n' + 1))) :
    Local n n' (f n) (f n') := by
  induction n generalizing n' with
  | zero => exact .of_none (each _).shrinks (each _).shrinks (.inl rfl)
  | succ n ih =>
    cases n' with
    | zero => exact .of_none (each _).shrinks (each _).shrinks (.inr rfl)
    | succ n' => exact step ih

end Local

/-! ### Primitive procedures -/

theorem remaining_advance (s : ParserState) : remaining (advance s) = s.tokens.length - 1 := by
  rw [← List.length_tail]
  simp only [advance, step_eq, Step.advance, Step.settle]
  split <;> rfl

theorem advance_local : Local n n' advance advance where
  shrinks s := by
    rw [remaining_advance]
    exact Nat.sub_le _ _
  shrinks' s := by
    rw [remaining_advance]
    exact Nat.sub_le _ _
  alike {r r' s s'} twin _ _ := by
    obtain ⟨t, k, tokens, tokens'⟩ := twin.tokens
    -- With the last of the tokens that both runs share, the first run gets past these.
    obtain _ | ⟨u, k⟩ := k
    · refine .past ?_
      rw [remaining_advance, tokens]
      exact Nat.le_refl _
    · have run : advance s = .ok () { s with tokens := u :: (k ++ r), requests := s.requests + 1 } := by
        simp [advance, step_eq, Step.advance, Step.settle, tokens]
      have run' : advance s' = .ok () { s' with tokens := u :: (k ++ r'), requests := s'.requests + 1 } := by
        simp [advance, step_eq, Step.advance, Step.settle, tokens']
      rw [run, run']
      exact .ok () ⟨⟨u, k, rfl, rfl⟩, twin.depth⟩

theorem eat_local (t : Token) : Local n n' (eat t) (eat t) := by
  refine .of_ahead fun x => ?_
  split
  · exact advance_local
  · exact .of_fail _

theorem identifier_local : Local n n' identifier identifier := by
  refine .of_ahead fun x => ?_
  split
  · exact advance_local.bind fun _ => .of_ok _
  · exact .of_fail _

theorem enter_local : Local n n' enter enter where
  shrinks s := by
    simp only [enter, step_eq, Step.enter]
    split <;> exact Nat.le_refl _
  shrinks' s := by
    simp only [enter, step_eq, Step.enter]
    split <;> exact Nat.le_refl _
  alike {r r' s s'} twin _ _ := by
    have deeper : Twin r r' { s with depth := s.depth + 1 } { s' with depth := s'.depth + 1 } :=
      ⟨twin.tokens, congrArg (· + 1) twin.depth⟩
    simp only [enter, step_eq, Step.enter]
    rw [twin.depth] at deeper ⊢
    split
    · exact .error _ deeper
    · exact .ok _ deeper

theorem leave_local : Local n n' leave leave where
  shrinks _ := Nat.le_refl _
  shrinks' _ := Nat.le_refl _
  alike twin _ _ := .ok _ ⟨twin.tokens, congrArg (· - 1) twin.depth⟩

theorem checkHeight_local (h : Nat) : Local n n' (checkHeight h) (checkHeight h) := by
  simp only [checkHeight, step_eq, Step.checkHeight]
  split
  · exact .of_throw _
  · exact .of_ok _

theorem advance_takes {a : Unit} (run : advance s = .ok a s') : s'.tokens.length ≤ s.tokens.length - 1 := by
  have left := remaining_advance s
  rw [run] at left
  exact Nat.le_of_eq left

theorem eat_takes {t : Token} {a : Unit} (run : eat t s = .ok a s') : s'.tokens.length ≤ s.tokens.length - 1 := by
  rw [eat, ahead_bind] at run
  split at run
  · exact advance_takes run
  · cases run

theorem Local.step (hp : Local (n + 1) (n' + 1) p p)
    (takes : ∀ {s a t}, p s = .ok a t → t.tokens.length ≤ s.tokens.length - 1) (hq : ∀ a, Local n n' (q a) (q' a)) :
    Local (n + 1) (n' + 1) (p >>= q) (p >>= q') where
  shrinks := bind_shrinks hp.shrinks fun a => (hq a).shrinks
  shrinks' := bind_shrinks hp.shrinks fun a => (hq a).shrinks'
  alike twin bound bound' :=
    .bind (hp.alike twin bound bound') hq
      (fun run => Nat.le_trans (takes run) (Nat.sub_le_of_le_add bound))
      (fun run => Nat.le_trans (takes run) (Nat.sub_le_of_le_add bound'))

/-! ### Expressions -/

theorem chainFrom_local (op? : Token → Option BinaryOp) {p : Parser (Expr × Nat)} (hp : Local n n' p p) (m : Nat)
    (x : Expr × Nat) : Local n n' (chainFrom op? p m x) (chainFrom op? p m x) := by
  induction m generalizing x with
  | zero => exact .of_throw _
  | succ m ih =>
    unfold chainFrom
    refine .of_ahead fun a => ?_
    split
    · exact .of_ok _
    · exact advance_local.bind fun _ => hp.bind fun _ => (checkHeight_local _).bind fun _ => ih _

theorem expressionOf_local {p : Parser (Expr × Nat)} (hp : Local n n' p p) :
    Local n n' (expressionOf p) (expressionOf p) :=
  (hp.bind (chainFrom_local _ hp _)).bind (chainFrom_local _ (hp.bind (chainFrom_local _ hp _)) _)

theorem enclosed_local {opening closing : Token} (hp : Local n n' p p') :
    Local n n' (enclosed opening closing p) (enclosed opening closing p') :=
  enter_local.bind fun _ => (eat_local _).bind fun _ => hp.bind fun _ => (eat_local _).bind fun _ =>
    leave_local.bind fun _ => .of_ok _

theorem factorOf_local {p : Parser (Expr × Nat)} (hp : Local n n' p p) : Local n n' (factorOf p) (factorOf p) := by
  have sign (op : UnaryOp) : Local n n' (signed op p) (signed op p) :=
    enter_local.bind fun _ => advance_local.bind fun _ => hp.bind fun _ => leave_local.bind fun _ =>
      (checkHeight_local _).bind fun _ => .of_ok _
  refine .of_ahead fun a => ?_
  split
  · exact sign .plus
  · exact sign .minus
  · exact enclosed_local (expressionOf_local hp)
  · exact advance_local.bind fun _ => .of_ok _
  · exact identifier_local.bind fun _ => .of_ok _
  · exact .of_fail _

theorem factorWithin_local (m : Nat) : Local n n' (factorWithin m) (factorWithin m) := by
  induction m with
  | zero => exact .of_throw _
  | succ m ih => exact factorOf_local ih

theorem expression_local : Local n n' expression expression :=
  .of_depth (f := fun d => expressionOf (factorWithin d)) fun _ => expressionOf_local (factorWithin_local _)

/-! ### Repetition -/

section Repetition
variable {separator : Token}

theorem repeated_local (hp : ∀ n n', Local n n' p p) (m : Nat) :
    Local n n' (repeated separator p m) (repeated separator p m) := by
  induction m generalizing n n' with
  | zero => exact .of_ok _
  | succ m ih =>
    refine .of_ahead fun a => ?_
    split
    · exact advance_local.bind fun _ => (hp _ _).bind fun _ => ih.bind fun _ => .of_ok _
    · exact .of_ok _

/-- The bound makes no difference if it is the number of tokens. -/
theorem repeated_length (hp : ∀ n n', Local n n' p p) :
    Local n n' (repeated separator p n) (repeated separator p n') := by
  refine .of_bounds (repeated_local hp) fun ih => .of_ahead fun a => ?_
  split
  · refine advance_local.step advance_takes fun _ => ?_
    exact (hp _ _).bind fun _ => ih.bind fun _ => .of_ok _
  · exact .of_ok _

end Repetition

/-! ### Statements -/

theorem assignment_local : Local n n' assignment assignment :=
  identifier_local.bind fun _ => (eat_local _).bind fun _ => expression_local.bind fun _ => .of_ok _

theorem statementOf_local {block : Parser (List Stmt)} (hp : Local n n' block block) :
    Local n n' (statementOf block) (statementOf block) := by
  refine .of_ahead fun a => ?_
  split
  · rw [map_eq_pure_bind]
    exact hp.bind fun _ => .of_ok _
  · exact assignment_local
  · exact .of_ok _

theorem statementsOf_local {block : Parser (List Stmt)} (hp : ∀ n n', Local n n' block block) :
    Local n n' (statementsOf block) (statementsOf block) := by
  unfold statementsOf
  have items (n n' : Nat) := statementOf_local (hp n n')
  refine (items n n').bind fun _ => (Local.of_length fun _ _ => repeated_length items).bind fun _ => ?_
  refine .of_ahead fun a => ?_
  split
  · exact .of_fail _
  · exact .of_ok _

theorem blockWithin_local (m : Nat) : Local n n' (blockWithin m) (blockWithin m) := by
  induction m generalizing n n' with
  | zero => exact .of_throw _
  | succ m ih => exact enclosed_local (statementsOf_local fun _ _ => ih)

theorem block_local : Local n n' Parser.block Parser.block :=
  .of_depth (f := blockWithin) blockWithin_local

theorem statements_local : Local n n' statements statements :=
  .of_depth (f := fun d => statementsOf (blockWithin d)) fun d => statementsOf_local fun _ _ => blockWithin_local d

/-! ### Declarations and programs -/

theorem typeName_local : Local n n' typeName typeName := by
  refine .of_ahead fun a => ?_
  split
  · exact advance_local.bind fun _ => .of_ok _
  · exact advance_local.bind fun _ => .of_ok _
  · exact .of_fail _

theorem declaration_local : Local n n' declaration declaration := by
  unfold declaration
  refine identifier_local.bind fun _ => ?_
  refine (Local.of_length fun _ _ => repeated_length fun _ _ => identifier_local).bind fun _ => ?_
  exact (eat_local _).bind fun _ => typeName_local.bind fun _ => .of_ok _

theorem declarationsFrom_local (m : Nat) : Local n n' (declarationsFrom m) (declarationsFrom m) := by
  induction m generalizing n n' with
  | zero => exact .of_ok _
  | succ m ih =>
    refine declaration_local.bind fun _ => (eat_local _).bind fun _ => .of_ahead fun a => ?_
    split
    · exact ih.bind fun _ => .of_ok _
    · exact .of_ok _

theorem declarationsFrom_length : Local n n' (declarationsFrom (n + 1)) (declarationsFrom (n' + 1)) := by
  refine .of_bounds (f := fun m => declarationsFrom (m + 1)) (fun m => declarationsFrom_local (m + 1)) fun ih => ?_
  refine declaration_local.bind fun _ => (eat_local _).step eat_takes fun _ => .of_ahead fun a => ?_
  split
  · exact ih.bind fun _ => .of_ok _
  · exact .of_ok _

theorem declarationList_local : Local n n' declarationList declarationList :=
  .of_length (f := fun m => declarationsFrom (m + 1)) fun _ _ => declarationsFrom_length

theorem sectionsFrom_local (m : Nat) : Local n n' (sectionsFrom m) (sectionsFrom m) := by
  induction m generalizing n n' with
  | zero => exact .of_ok _
  | succ m ih =>
    refine .of_ahead fun a => ?_
    split
    · exact advance_local.bind fun _ => declarationList_local.bind fun _ => ih.bind fun _ => .of_ok _
    · exact .of_ok _

theorem sectionsFrom_length : Local n n' (sectionsFrom n) (sectionsFrom n') := by
  refine .of_bounds sectionsFrom_local fun ih => .of_ahead fun a => ?_
  split
  · refine advance_local.step advance_takes fun _ => ?_
    exact declarationList_local.bind fun _ => ih.bind fun _ => .of_ok _
  · exact .of_ok _

theorem program_local : Local n n' program program := by
  have declarations : Local n n' declarations declarations := .of_length fun _ _ => sectionsFrom_length
  exact (eat_local _).bind fun _ => identifier_local.bind fun _ => (eat_local _).bind fun _ =>
    declarations.bind fun _ => block_local.bind fun _ => (eat_local _).bind fun _ => .of_ok _

end Local
end MiniPascal.Parser
