import MiniPascal.Proofs.Parsing.Steps

/-! # Reading what the grammar derives

On tokens that a rule derives, the procedure for the rule gives the tree and takes exactly those tokens,
unless a limit is passed: then it fails with the depth that is one above the limit. `Reads` says this of
one run, where `fits` is the condition that the limits are kept. The condition of a sequence is the
conjunction of those of its steps, so each procedure is followed step by step. -/

namespace MiniPascal

namespace ParserState

/-- The state after `n` tokens are taken. -/
def skip (s : ParserState) (n : Nat) : ParserState :=
  { s with tokens := s.tokens.drop n, requests := s.requests + n }

/-- The state with one more level open. -/
def inside (s : ParserState) : ParserState :=
  { s with depth := s.depth + 1 }

@[simp] theorem skip_zero (s : ParserState) : s.skip 0 = s := rfl

@[simp] theorem skip_skip (s : ParserState) (m n : Nat) : (s.skip m).skip n = s.skip (m + n) := by
  simp [skip, List.drop_drop, Nat.add_assoc]

theorem skip_tokens {s : ParserState} {ts k : List Token} (h : s.tokens = ts ++ k) :
    (s.skip ts.length).tokens = k := by
  simp [skip, h]

end ParserState

namespace Parser
open Grammar

/-- A run gives `a` and the state `t` if `fits` holds, and otherwise fails one level above the limit. -/
structure Reads {α : Type} (p : Parser α) (s : ParserState) (fits : Prop) (a : α) (t : ParserState) : Prop where
  ok : fits → p s = .ok a t
  tooDeep : ¬fits → ∃ u, p s = .error (.tooDeep (maxDepth + 1) maxDepth) u

namespace Reads
variable {α β : Type} {p p' : Parser α} {q : α → Parser β} {s s' t u : ParserState} {a : α} {b : β} {F G : Prop}

theorem congr (h : Reads p s F a t) (iff : F ↔ G) : Reads p s G a t :=
  ⟨fun g => h.ok (iff.mpr g), fun g => h.tooDeep (mt iff.mp g)⟩

theorem of_run (same : p s = p' s') (h : Reads p' s' F a t) : Reads p s F a t :=
  ⟨fun f => same.trans (h.ok f), fun f => (h.tooDeep f).imp fun _ => same.trans⟩

theorem of_eq (h : p s = .ok a t) : Reads p s True a t :=
  ⟨fun _ => h, fun no => absurd trivial no⟩

theorem bind (hp : Reads p s F a t) (hq : F → Reads (q a) t G b u) : Reads (p >>= q) s (F ∧ G) b u := by
  constructor
  · rintro ⟨f, g⟩
    rw [bind_of_ok (hp.ok f)]
    exact (hq f).ok g
  · intro no
    by_cases f : F
    · rw [bind_of_ok (hp.ok f)]
      exact (hq f).tooDeep fun g => no ⟨f, g⟩
    · obtain ⟨v, hv⟩ := hp.tooDeep f
      exact ⟨v, bind_of_error hv⟩

theorem step (hp : p s = .ok a t) (hq : Reads (q a) t G b u) : Reads (p >>= q) s G b u :=
  (bind (of_eq hp) fun _ => hq).congr (and_iff_right trivial)

theorem last (hp : Reads p s F a t) (hq : q a t = .ok b u) : Reads (p >>= q) s F b u :=
  (bind hp fun _ => of_eq hq).congr (and_iff_left trivial)

end Reads

/-! ### Primitive procedures -/

section Primitive
variable {s : ParserState} {t : Token} {k : List Token}

theorem advance_reads (h : s.tokens = t :: k) (open_ : s.ending = none) : advance s = .ok () (s.skip 1) := by
  simp [advance, step_eq, Step.advance, Step.settle, ParserState.skip, h, open_]

theorem eat_reads (h : s.tokens = t :: k) (open_ : s.ending = none) : eat t s = .ok () (s.skip 1) := by
  rw [eat, ahead_bind, if_pos (ahead_of_tokens h), advance_reads h open_]

theorem identifier_reads {name : String} (h : s.tokens = .identifier name :: k) (open_ : s.ending = none) :
    identifier s = .ok name (s.skip 1) := by
  rw [identifier, ahead_bind, ahead_of_tokens h]
  exact bind_of_ok (advance_reads h open_)

theorem enter_reads (bound : s.depth ≤ maxDepth) :
    Reads enter s (s.depth + 1 ≤ maxDepth) () s.inside where
  ok fits := if_neg (Nat.not_lt.mpr fits)
  tooDeep no := by
    have depth : s.depth = maxDepth := by omega
    refine ⟨s.inside, ?_⟩
    simp only [enter, step_eq, Step.enter, depth, gt_iff_lt, Nat.lt_succ_self, if_true, ParserState.inside]

theorem leave_inside {n : Nat} : leave (s.inside.skip n) = .ok () (s.skip n) := rfl

theorem checkHeight_reads {h : Nat} (bound : h ≤ maxDepth + 1) : Reads (checkHeight h) s (h ≤ maxDepth) h s where
  ok fits := by
    rw [checkHeight, step_eq, Step.checkHeight, if_neg (Nat.not_lt.mpr fits)]
    rfl
  tooDeep no := by
    obtain rfl : h = maxDepth + 1 := by omega
    rw [checkHeight, step_eq, Step.checkHeight, if_pos (Nat.not_le.mp no)]
    exact ⟨s, rfl⟩

theorem enclosed_reads {α : Type} {opening closing : Token} {body : Parser α} {ts : List Token} {F : Prop} {a : α}
    (bound : s.depth ≤ maxDepth) (hs : s.tokens = opening :: (ts ++ [closing]) ++ k) (open_ : s.ending = none)
    (reads : (s.inside.skip 1).tokens = ts ++ closing :: k → s.depth + 1 ≤ maxDepth →
      Reads body (s.inside.skip 1) F a ((s.inside.skip 1).skip ts.length)) :
    Reads (enclosed opening closing body) s (s.depth + 1 ≤ maxDepth ∧ F) a
      (s.skip (opening :: (ts ++ [closing])).length) := by
  have taken : (s.inside.skip 1).tokens = ts ++ closing :: k := by
    simp [ParserState.skip, ParserState.inside, hs]
  have closes := eat_reads (ParserState.skip_tokens taken) open_
  have last : 1 + ts.length + 1 = (opening :: (ts ++ [closing])).length := by
    simp [Nat.add_comm]
  rw [ParserState.skip_skip] at reads closes
  rw [ParserState.skip_skip, last] at closes
  have after : (do eat closing; leave; pure a : Parser α) (s.inside.skip (1 + ts.length)) =
      .ok a (s.skip (opening :: (ts ++ [closing])).length) :=
    (bind_of_ok closes).trans (bind_of_ok leave_inside)
  exact .bind (enter_reads bound) fun deeper =>
    .step (eat_reads hs open_) (.last (reads taken deeper) after)

end Primitive

/-! ### Rules -/

/-- At a depth, the procedure `p` reads what `rule` derives, where the token after it is as `stop` says. The
limits are kept if the levels of the derivation fit below the depth and the tree is `low`. -/
def Accepts {α β : Type} (depth : Nat) (p : Parser β) (rule : List Token → α → Nat → Prop) (low : α → Prop)
    (out : α → β) (stop : Lookahead → Prop) : Prop :=
  ∀ ⦃ts a d⦄, rule ts a d → ∀ ⦃s : ParserState⦄ ⦃k⦄, s.tokens = ts ++ k → s.ending = none → s.depth = depth →
    stop k.head? → Reads p s (depth + d ≤ maxDepth ∧ low a) (out a) (s.skip ts.length)

/-! ### Repetition -/

section Repetition
variable {α β : Type} {separator : Token} {item : Parser α} {rule : List Token → α → Nat → Prop} {low : α → Prop}
  {stop : Lookahead → Prop} {depth : Nat} {as : List α} {us ts k : List Token} {d n : Nat} {s : ParserState}

theorem levels_max {e : Nat} :
    depth + max d e ≤ maxDepth ↔ depth + d ≤ maxDepth ∧ depth + e ≤ maxDepth := by
  omega

theorem repeated_reads (accepts : Accepts depth item rule low id stop) (separates : stop (some separator))
    (h : Separated separator rule us as d) (bound : as.length ≤ n) (hs : s.tokens = separator :: (us ++ k))
    (open_ : s.ending = none) (hd : s.depth = depth) (hk : stop k.head?) (ends : k.head? ≠ some separator) :
    Reads (repeated separator item n) s (depth + d ≤ maxDepth ∧ ∀ a ∈ as, low a) as
      (s.skip (separator :: us).length) := by
  induction h generalizing n s with
  | @one us a d last =>
    obtain _ | n := n
    · simp at bound
    have taken : (s.skip 1).tokens = us ++ k := by
      simp [ParserState.skip, hs]
    have ended : ((s.skip 1).skip us.length).ahead ≠ some separator := by
      rw [ParserState.ahead, ParserState.skip_tokens taken]
      exact ends
    have reads := accepts last taken open_ hd hk
    rw [ParserState.skip_skip, Nat.add_comm 1] at reads ended
    refine .of_run (repeated_of_separator (ahead_of_tokens hs)) ?_
    exact .congr (.step (advance_reads hs open_) (.last reads (bind_of_ok (repeated_of_end ended)))) (by simp)
  | @more ts a d us as e first rest ih =>
    obtain _ | n := n
    · simp at bound
    have taken : (s.skip 1).tokens = ts ++ (separator :: (us ++ k)) := by
      simp [ParserState.skip, hs]
    -- What is left behind the first item starts with a separator again.
    have reads := ih (Nat.le_of_succ_le_succ bound) (ParserState.skip_tokens taken) open_ hd
    have last : ((s.skip 1).skip ts.length).skip (separator :: us).length =
        s.skip (separator :: (ts ++ separator :: us)).length := by
      simp only [ParserState.skip_skip, List.length_cons, List.length_append]
      congr 1
      omega
    rw [last] at reads
    refine .of_run (repeated_of_separator (ahead_of_tokens hs)) ?_
    exact .congr
      (.step (advance_reads hs open_) <|
        .bind (accepts first taken open_ hd separates) fun _ =>
        .last reads rfl)
      (by rw [levels_max, List.forall_mem_cons]; exact and_and_and_comm)

/-- An item and the items after it, as far as there are separators. -/
theorem separated_reads (accepts : Accepts depth item rule low id stop) (separates : stop (some separator))
    (h : Separated separator rule ts as d) (hs : s.tokens = ts ++ k) (open_ : s.ending = none)
    (hd : s.depth = depth) (hk : stop k.head?) (ends : k.head? ≠ some separator) {q : α → List α → Parser β}
    {b : β} {u : ParserState}
    (hq : ∀ a rest, as = a :: rest → q a rest (s.skip ts.length) = .ok b u) :
    Reads (item >>= fun a => (fun t => repeated separator item t.tokens.length t : Parser (List α)) >>= q a) s
      (depth + d ≤ maxDepth ∧ ∀ a ∈ as, low a) b u := by
  cases h with
  | one last =>
    have ended : (s.skip ts.length).ahead ≠ some separator := by
      rw [ParserState.ahead, ParserState.skip_tokens hs]
      exact ends
    refine .congr (.last (accepts last hs open_ hd hk) ?_) (by simp)
    exact (bind_of_ok (repeated_of_end ended)).trans (hq _ _ rfl)
  | @more ts a d us as e first rest =>
    rw [List.append_assoc] at hs
    have tokens := ParserState.skip_tokens hs
    have bound : as.length ≤ (s.skip ts.length).tokens.length := by
      have := rest.length_le
      simp only [tokens, List.cons_append, List.length_cons, List.length_append]
      omega
    have reads := repeated_reads accepts separates rest bound tokens open_ hd hk ends
    rw [ParserState.skip_skip, ← List.length_append] at reads
    refine .congr (.bind (accepts first hs open_ hd separates) fun _ => .last (.of_run rfl reads) (hq _ _ rfl)) ?_
    rw [levels_max, List.forall_mem_cons]
    exact and_and_and_comm

end Repetition

end Parser
end MiniPascal
