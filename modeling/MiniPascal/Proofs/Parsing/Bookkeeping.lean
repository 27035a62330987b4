import MiniPascal.Proofs.Parsing.Reads
import MiniPascal.Proofs.Scanning.Resuming

/-! # The books of the parser

The parser counts its open levels, gives heights along with trees, and asks for a token when it has taken the one
before it. A procedure that succeeds has closed what it opened, its height is that of its tree and within the limit, and
whether it succeeds or fails, no token is asked for after the end of the text or after an error. `Keeps` says this of
one run and is closed under sequence, so each procedure is followed step by step. -/

namespace MiniPascal

/-! ### Requests -/

namespace ParserState
variable {s t u : ParserState}

/-- From `s` to `t` tokens are taken, and after each of them the next one is asked for. -/
def AsksTo (s t : ParserState) : Prop :=
  ∃ taken, s.tokens = taken ++ t.tokens ∧ t.requests = s.requests + taken.length ∧ t.ending = s.ending

theorem AsksTo.refl (s : ParserState) : s.AsksTo s := ⟨[], rfl, rfl, rfl⟩

theorem AsksTo.trans (h : s.AsksTo t) (h' : t.AsksTo u) : s.AsksTo u := by
  obtain ⟨ts, tokens, requests, ending⟩ := h
  obtain ⟨us, tokens', requests', ending'⟩ := h'
  refine ⟨ts ++ us, ?_, ?_, ending'.trans ending⟩
  · rw [tokens, tokens', List.append_assoc]
  · rw [requests', requests, List.length_append, Nat.add_assoc]

/-- Where the state stands in a text, all scans before the last request gave a token, and so no request comes after the
end of the text or an error. -/
theorem AsksTo.scans {c : Cursor} (h : s.AsksTo t) (stream : TokenStream.ofCursor c = ⟨s.tokens, s.ending⟩) :
    ∀ x ∈ c.scans (t.requests - s.requests), ∃ token, x.2.1 = .ok (some token) := by
  obtain ⟨taken, tokens, requests, -⟩ := h
  rw [requests, Nat.add_sub_cancel_left]
  rw [tokens] at stream
  clear tokens requests
  -- Each token that was taken is the result of one scan, and the rest is taken from where this scan ended.
  induction taken generalizing c with
  | nil => exact nofun
  | cons token taken ih =>
    rcases found : c.scan with ⟨_ | _ | first, next⟩
    · rw [TokenStream.ofCursor_of_error found] at stream
      cases stream
    · rw [TokenStream.ofCursor_of_end found] at stream
      cases stream
    · rw [TokenStream.ofCursor_of_token found, TokenStream.push, TokenStream.mk.injEq] at stream
      obtain ⟨same, ending⟩ := stream
      have after : (TokenStream.ofCursor next).tokens = taken ++ t.tokens := (List.cons.inj same).2
      have rest : TokenStream.ofCursor next = ⟨taken ++ t.tokens, s.ending⟩ := by rw [← after, ← ending]
      rw [List.length_cons, Cursor.scans, found]
      exact List.forall_mem_cons.mpr ⟨⟨first, rfl⟩, ih rest⟩

end ParserState

namespace Parser

/-! ### Runs -/

/-- A run that asks for no token too many. If it succeeds, then at depth `d` and with a result as `post` says. -/
structure Keeps {α : Type} (d : Nat) (post : α → Prop) (p : Parser α) (s : ParserState) : Prop where
  ok : ∀ {a t}, p s = .ok a t → s.AsksTo t ∧ t.depth = d ∧ post a
  error : ∀ {e t}, p s = .error e t → s.AsksTo t

/-- From every state the procedure comes back to the depth at which it started. -/
def Restores {α : Type} (post : α → Prop) (p : Parser α) : Prop :=
  ∀ ⦃d s⦄, s.depth = d → Keeps d post p s

section Keeps
variable {α β : Type} {d d' : Nat} {post : α → Prop} {post' : β → Prop} {p : Parser α} {q : α → Parser β}
  {s : ParserState}

namespace Keeps

theorem of_ok {a : α} (depth : s.depth = d) (holds : post a) : Keeps d post (pure a) s where
  ok := by
    rintro _ _ ⟨⟩
    exact ⟨.refl s, depth, holds⟩
  error := by rintro _ _ ⟨⟩

theorem of_error {e : Error} (h : p s = .error e s) : Keeps d post p s where
  ok run := nomatch h.symm.trans run
  error run := by
    cases h.symm.trans run
    exact .refl s

theorem bind (hp : Keeps d post p s) (hq : ∀ a, post a → ∀ ⦃t⦄, t.depth = d → Keeps d' post' (q a) t) :
    Keeps d' post' (p >>= q) s where
  ok run := by
    obtain ⟨a, t, first, run⟩ := exists_of_bind_ok run
    obtain ⟨asks, depth, holds⟩ := hp.ok first
    obtain ⟨asks', rest⟩ := (hq a holds depth).ok run
    exact ⟨asks.trans asks', rest⟩
  error run := by
    obtain first | ⟨a, t, first, run⟩ := error_or_of_bind_error run
    · exact hp.error first
    · obtain ⟨asks, depth, holds⟩ := hp.ok first
      exact asks.trans ((hq a holds depth).error run)

theorem of_ahead {f : Lookahead → Parser α} (h : Keeps d post (f s.ahead) s) : Keeps d post (ahead >>= f) s where
  ok run := h.ok ((ahead_bind f).symm.trans run)
  error run := h.error ((ahead_bind f).symm.trans run)

end Keeps

/-- A bound may be taken from the state. -/
theorem restores_of_measure {m : ParserState → Nat} {f : Nat → Parser α} (h : ∀ n, Restores post (f n)) :
    Restores post (bounded m f) :=
  fun _ _ depth => ⟨fun run => (h _ depth).ok run, fun run => (h _ depth).error run⟩

/-! ### Primitive procedures -/

/-- A token may be taken where there is one. At the end of the text the books would not be kept. -/
theorem advance_keeps {t : Token} (next : s.ahead = some t) (depth : s.depth = d) :
    Keeps d (fun _ => True) advance s := by
  obtain ⟨ts, tokens⟩ := List.head?_eq_some_iff.mp next
  have asks : s.AsksTo { s with tokens := s.tokens.tail, requests := s.requests + 1 } :=
    ⟨[t], by rw [tokens]; rfl, rfl, rfl⟩
  constructor <;> intro _ _ run <;> simp only [advance, step_eq, Step.advance, Step.settle] at run <;>
    split at run <;> cases run
  · exact ⟨asks, depth, trivial⟩
  · exact asks

theorem eat_keeps (t : Token) (depth : s.depth = d) : Keeps d (fun _ => True) (eat t) s := by
  refine .of_ahead ?_
  split
  · exact advance_keeps ‹_› depth
  · exact .of_error rfl

theorem identifier_keeps (depth : s.depth = d) : Keeps d (fun _ => True) identifier s := by
  refine .of_ahead ?_
  split
  · next here => exact (advance_keeps here depth).bind fun _ _ _ depth => .of_ok depth trivial
  · exact .of_error rfl

/-- A level is opened, or the run ends here. -/
theorem enter_bind_keeps {q : Unit → Parser β} (h : Keeps d post' (q ()) s.inside) : Keeps d post' (enter >>= q) s := by
  by_cases deep : s.depth + 1 > maxDepth
  · have fails : enter s = .error (.tooDeep (s.depth + 1) maxDepth) s.inside := if_pos deep
    constructor <;> intro _ _ run <;> cases (bind_of_error fails).symm.trans run
    exact .refl s
  · have opens : enter s = .ok () s.inside := if_neg deep
    exact ⟨fun run => h.ok ((bind_of_ok opens).symm.trans run), fun run => h.error ((bind_of_ok opens).symm.trans run)⟩

theorem leave_keeps (depth : s.depth = d + 1) : Keeps d (fun _ => True) leave s := by
  constructor <;> intro _ _ run <;> cases run
  exact ⟨.refl s, congrArg (· - 1) depth, trivial⟩

theorem checkHeight_keeps (h : Nat) (depth : s.depth = d) :
    Keeps d (fun k => k = h ∧ k ≤ maxDepth) (checkHeight h) s := by
  rw [checkHeight, step_eq, Step.checkHeight]
  split
  · exact .of_error rfl
  · exact .of_ok depth ⟨rfl, Nat.not_lt.mp ‹_›⟩

/-- What a level opens, it closes. -/
theorem enclosed_restores {opening closing : Token} (body : Restores post p) :
    Restores post (enclosed opening closing p) :=
  fun _ s depth =>
    have deeper : s.inside.depth = _ + 1 := congrArg (· + 1) depth
    enter_bind_keeps <|
    (eat_keeps _ deeper).bind fun _ _ _ deeper =>
    (body deeper).bind fun _ holds _ deeper =>
    (eat_keeps _ deeper).bind fun _ _ _ deeper =>
    (leave_keeps deeper).bind fun _ _ _ depth => .of_ok depth holds

end Keeps

/-! ### Expressions -/

/-- The height that is given along with a tree is the height of the tree, and within the limit. -/
def Measured (r : Expr × Nat) : Prop := r.2 = r.1.height ∧ r.2 ≤ maxDepth

section Expressions
variable {p : Parser (Expr × Nat)}

/-- With each operator the height is that of the tree so far. -/
theorem chainFrom_restores (op? : Token → Option BinaryOp) (operand : Restores Measured p) (n : Nat)
    {first : Expr × Nat} (measured : Measured first) : Restores Measured (chainFrom op? p n first) := by
  induction n generalizing first with
  | zero => exact fun _ _ _ => .of_error rfl
  | succ n ih =>
    obtain ⟨left, i⟩ := first
    intro d s depth
    refine .of_ahead ?_
    rcases operator : s.ahead >>= op? with _ | op
    · exact .of_ok depth measured
    · obtain ⟨t, next, -⟩ := Option.bind_eq_some_iff.mp operator
      refine (advance_keeps next depth).bind fun _ _ _ depth => (operand depth).bind ?_
      rintro ⟨right, k⟩ ⟨height, -⟩ _ depth
      refine (checkHeight_keeps _ depth).bind fun h low _ depth => ih ?_ depth
      obtain ⟨rfl, low⟩ := low
      exact ⟨by rw [Expr.height, ← measured.1, ← height], low⟩

theorem chain_restores (op? : Token → Option BinaryOp) (operand : Restores Measured p) :
    Restores Measured (chain op? p) :=
  fun _ _ depth => (operand depth).bind fun _ measured _ depth => chainFrom_restores op? operand _ measured depth

theorem termOf_restores (factor : Restores Measured p) : Restores Measured (termOf p) :=
  chain_restores _ factor

theorem expressionOf_restores (factor : Restores Measured p) : Restores Measured (expressionOf p) :=
  chain_restores _ (termOf_restores factor)

/-- A sign is one level and one operator. -/
theorem signed_keeps {d : Nat} {s : ParserState} {t : Token} (op : UnaryOp) (factor : Restores Measured p)
    (next : s.ahead = some t) (depth : s.depth = d) : Keeps d Measured (signed op p) s := by
  have deeper : s.inside.depth = d + 1 := congrArg (· + 1) depth
  have next' : s.inside.ahead = some t := next
  refine enter_bind_keeps <| (advance_keeps next' deeper).bind fun _ _ _ deeper => (factor deeper).bind ?_
  rintro ⟨e, i⟩ ⟨height, -⟩ _ deeper
  refine (leave_keeps deeper).bind fun _ _ _ depth => ?_
  refine (checkHeight_keeps _ depth).bind fun h low _ depth => .of_ok depth ?_
  obtain ⟨rfl, low⟩ := low
  exact ⟨by rw [Expr.height, ← height], low⟩

theorem factorOf_restores (factor : Restores Measured p) : Restores Measured (factorOf p) := by
  intro d s depth
  refine .of_ahead ?_
  split
  · next here => exact signed_keeps .plus factor here depth
  · next here => exact signed_keeps .minus factor here depth
  · exact enclosed_restores (expressionOf_restores factor) depth
  · next here => exact (advance_keeps here depth).bind fun _ _ _ depth => .of_ok depth ⟨rfl, Nat.zero_le _⟩
  · exact (identifier_keeps depth).bind fun _ _ _ depth => .of_ok depth ⟨rfl, Nat.zero_le _⟩
  · exact .of_error rfl

theorem factorWithin_restores (n : Nat) : Restores Measured (factorWithin n) := by
  induction n with
  | zero => exact fun _ _ _ => .of_error rfl
  | succ n ih => exact factorOf_restores ih

theorem expression_restores : Restores Measured expression :=
  restores_of_measure fun n => expressionOf_restores (factorWithin_restores n)

end Expressions

/-! ### Statements -/

section Statements
variable {p : Parser (List Stmt)}

theorem assignment_restores : Restores (fun _ => True) assignment :=
  fun _ _ depth =>
    (identifier_keeps depth).bind fun _ _ _ depth =>
    (eat_keeps _ depth).bind fun _ _ _ depth =>
    (expression_restores depth).bind fun _ _ _ depth => .of_ok depth trivial

theorem statementOf_restores (block : Restores (fun _ => True) p) : Restores (fun _ => True) (statementOf p) := by
  intro d s depth
  refine .of_ahead ?_
  split
  · rw [map_eq_pure_bind]
    exact (block depth).bind fun _ _ _ depth => .of_ok depth trivial
  · exact assignment_restores depth
  · exact .of_ok depth trivial

theorem repeated_restores {α : Type} {p : Parser α} (separator : Token) (item : Restores (fun _ => True) p) (n : Nat) :
    Restores (fun _ => True) (repeated separator p n) := by
  induction n with
  | zero => exact fun _ _ depth => .of_ok depth trivial
  | succ n ih =>
    intro d s depth
    refine .of_ahead ?_
    split
    · next here =>
      exact (advance_keeps here depth).bind fun _ _ _ depth => (item depth).bind fun _ _ _ depth =>
        (ih depth).bind fun _ _ _ depth => .of_ok depth trivial
    · exact .of_ok depth trivial

theorem statementsOf_restores (block : Restores (fun _ => True) p) : Restores (fun _ => True) (statementsOf p) := by
  intro d s depth
  have statement := statementOf_restores block
  have more := restores_of_measure (m := (·.tokens.length)) (repeated_restores (.symbol .semicolon) statement)
  refine (statement depth).bind fun _ _ _ depth => (more depth).bind fun _ _ t depth => .of_ahead ?_
  split
  · exact .of_error rfl
  · exact .of_ok depth trivial

theorem blockWithin_restores (n : Nat) : Restores (fun _ => True) (blockWithin n) := by
  induction n with
  | zero => exact fun _ _ _ => .of_error rfl
  | succ n ih => exact enclosed_restores (statementsOf_restores ih)

end Statements

/-! ### All procedures -/

/-- The state that a run leaves. -/
def left {α : Type} : EStateM.Result Error ParserState α → ParserState
  | .ok _ t | .error _ t => t

/-- The books are kept in a run. If it succeeds, then at the depth at which it started and with a result as `post` says.
In any case each request comes after a token that was taken, and so, where `c` is the place of the tokens in a text,
after a scan that gave a token. -/
structure Exact {α : Type} (post : α → Prop) (p : Parser α) (s : ParserState) : Prop where
  restored : ∀ {a t}, p s = .ok a t → t.depth = s.depth ∧ post a
  asks : s.AsksTo (left (p s))
  scans : ∀ c, TokenStream.ofCursor c = ⟨s.tokens, s.ending⟩ →
    ∀ x ∈ c.scans ((left (p s)).requests - s.requests), ∃ token, x.2.1 = .ok (some token)

theorem Restores.exact {α : Type} {post : α → Prop} {p : Parser α} (h : Restores post p) (s : ParserState) :
    Exact post p s := by
  have keeps : Keeps s.depth post p s := h rfl
  have asks : s.AsksTo (left (p s)) := by
    rcases run : p s with ⟨a, t⟩ | ⟨e, t⟩
    · exact (keeps.ok run).1
    · exact keeps.error run
  exact ⟨fun run => (keeps.ok run).2, asks, fun _ stream => asks.scans stream⟩

/-- From every state, the procedures for expressions, terms and factors give the height of the tree, which is within the
limit, and these and the ones for statements, lists of them and blocks come back to the depth at which they started.
None of them asks for a token after the end of the text or after an error, however it ends. -/
theorem procedures_exact (s : ParserState) :
    Exact Measured expression s ∧ Exact Measured term s ∧ Exact Measured factor s ∧
      Exact (fun _ => True) statement s ∧ Exact (fun _ => True) statements s ∧ Exact (fun _ => True) block s := by
  have factors := factorWithin_restores
  have blocks := blockWithin_restores
  have terms : Restores Measured term := restores_of_measure fun n => termOf_restores (factors n)
  have lists : Restores (fun _ => True) statements := restores_of_measure fun n => statementsOf_restores (blocks n)
  refine ⟨expression_restores.exact s, terms.exact s, ?_, ?_, lists.exact s, ?_⟩
  · exact (restores_of_measure factors).exact s
  · exact (restores_of_measure fun n => statementOf_restores (blocks n)).exact s
  · exact (restores_of_measure blocks).exact s

/-- The fifth request of this run finds the end of the text, and there is no other. -/
example : (left (expression (.start (.ofText "1 + (2")))).requests = 5 := by decide +kernel

end Parser
end MiniPascal
