import MiniPascal.Proofs.Grammar.Prefix
import MiniPascal.Proofs.Parsing.Steps

/-! # Runs and the grammar

A run conforms to a language if it gives only what the language derives, and fails only where it must:
what it took before an error is a viable prefix, and what it looked for may come next.

The language of a step is what completes the tokens of the steps before it, so a sequence conforms if each
of its steps does and if what a step takes stays viable. -/

namespace MiniPascal

namespace ParserState
variable {s t u : ParserState} {ts us : List Token}

/-- The end of the tokens is the end of the text, and not an error. -/
def Settled (s : ParserState) : Prop :=
  s.tokens = [] → s.ending = none

/-- From `s` the tokens `ts` are taken, and it is known what comes after them. -/
structure Passes (s : ParserState) (ts : List Token) (t : ParserState) : Prop where
  tokens : s.tokens = ts ++ t.tokens
  ending : t.ending = s.ending
  settled : t.Settled

theorem Passes.refl (settled : s.Settled) : s.Passes [] s := ⟨rfl, rfl, settled⟩

theorem Passes.trans (h : s.Passes ts t) (h' : t.Passes us u) : s.Passes (ts ++ us) u where
  tokens := by rw [h.tokens, h'.tokens, List.append_assoc]
  ending := h'.ending.trans h.ending
  settled := h'.settled

end ParserState

namespace Parser
open Grammar

theorem settle_of_settled {s : ParserState} (settled : s.Settled) : settle s = .ok () s := by
  simp only [settle, step_eq, Step.settle]
  split
  · next h h' => exact nomatch (settled h).symm.trans h'
  · rfl

theorem settle_of_error {s : ParserState} {e : LexError} (h : s.tokens = []) (h' : s.ending = some e) :
    settle s = .error (.lex e) s := by
  simp only [settle, step_eq, Step.settle, h, h']

/-- A run gives a tree of the language, or fails behind a viable prefix. -/
structure Conforms {α : Type} (L : Language α) (p : Parser α) (s : ParserState) : Prop where
  ok : ∀ {a t}, p s = .ok a t → ∃ ts, s.Passes ts t ∧ L ts a
  unexpected : ∀ {x found t}, p s = .error (.unexpected x found) t →
    x ≠ .endOfInput ∧ found = t.ahead ∧ ∃ ts, s.Passes ts t ∧ Admits L ts x
  lex : ∀ {e t}, p s = .error (.lex e) t → s.ending = some e ∧ Viable L s.tokens

/-- A run that takes no token, and fails at most for a limit. -/
structure Silent {α : Type} (p : Parser α) (s : ParserState) : Prop where
  ok : ∀ {a t}, p s = .ok a t → t.tokens = s.tokens ∧ t.ending = s.ending
  error : ∀ {e t}, p s = .error e t → ∃ m n, e = .tooDeep m n

section Conforms
variable {α β : Type} {L : Language α} {M : Language β} {p r : Parser α} {q : α → Parser β} {s : ParserState}

theorem Conforms.of_run (same : p s = r s) (h : Conforms L r s) : Conforms L p s :=
  ⟨fun run => h.ok (same.symm.trans run), fun run => h.unexpected (same.symm.trans run),
    fun run => h.lex (same.symm.trans run)⟩

theorem Conforms.of_ok {a : α} {t : ParserState} {ts : List Token} (run : p s = .ok a t) (passes : s.Passes ts t)
    (word : L ts a) : Conforms L p s where
  ok h := by
    cases run.symm.trans h
    exact ⟨ts, passes, word⟩
  unexpected h := nomatch run.symm.trans h
  lex h := nomatch run.symm.trans h

theorem Conforms.of_lex {e : LexError} {t : ParserState} (run : p s = .error (.lex e) t) (ending : s.ending = some e)
    (viable : Viable L s.tokens) : Conforms L p s where
  ok h := nomatch run.symm.trans h
  unexpected h := nomatch run.symm.trans h
  lex h := by
    cases run.symm.trans h
    exact ⟨ending, viable⟩

theorem Conforms.of_tooDeep {m n : Nat} {t : ParserState} (run : p s = .error (.tooDeep m n) t) : Conforms L p s where
  ok h := nomatch run.symm.trans h
  unexpected h := nomatch run.symm.trans h
  lex h := nomatch run.symm.trans h

theorem Conforms.of_fail {x : Expectation} (run : p s = fail x s) (settled : s.Settled) (open_ : x ≠ .endOfInput)
    (h : Admits L [] x) : Conforms L p s where
  ok run' := nomatch run.symm.trans run'
  unexpected run' := by
    cases run.symm.trans run'
    exact ⟨open_, rfl, [], .refl settled, h⟩
  lex run' := nomatch run.symm.trans run'

theorem Conforms.done {a : α} (settled : s.Settled) (word : L [] a) : Conforms L (pure a) s :=
  .of_ok rfl (.refl settled) word

theorem Conforms.imp {L' : Language α} (h : Conforms L p s) (words : ∀ ts a, L ts a → L' ts a) : Conforms L' p s where
  ok run := by
    obtain ⟨ts, passes, word⟩ := h.ok run
    exact ⟨ts, passes, words ts _ word⟩
  unexpected run := by
    obtain ⟨open_, found, ts, passes, admits⟩ := h.unexpected run
    exact ⟨open_, found, ts, passes, admits.trans (fun ts a h => .of_word (words ts a h)) open_⟩
  lex run := by
    obtain ⟨ending, viable⟩ := h.lex run
    exact ⟨ending, viable.trans fun ts a h => .of_word (words ts a h)⟩

theorem Conforms.bind (hp : Conforms L p s) (words : ∀ ts a, L ts a → Viable M ts)
    (hq : ∀ ts a t, s.Passes ts t → L ts a → Conforms (M.after ts) (q a) t) : Conforms M (p >>= q) s where
  ok run := by
    obtain ⟨a, t, first, rest⟩ := exists_of_bind_ok run
    obtain ⟨ts, passes, word⟩ := hp.ok first
    obtain ⟨us, passes', word'⟩ := (hq ts a t passes word).ok rest
    exact ⟨ts ++ us, passes.trans passes', word'⟩
  unexpected run := by
    obtain first | ⟨a, t, first, rest⟩ := error_or_of_bind_error run
    · obtain ⟨open_, found, ts, passes, admits⟩ := hp.unexpected first
      exact ⟨open_, found, ts, passes, admits.trans words open_⟩
    · obtain ⟨ts, passes, word⟩ := hp.ok first
      obtain ⟨open_, found, us, passes', admits⟩ := (hq ts a t passes word).unexpected rest
      exact ⟨open_, found, ts ++ us, passes.trans passes', admits.of_after open_⟩
  lex run := by
    obtain first | ⟨a, t, first, rest⟩ := error_or_of_bind_error run
    · obtain ⟨ending, viable⟩ := hp.lex first
      exact ⟨ending, viable.trans words⟩
    · obtain ⟨ts, passes, word⟩ := hp.ok first
      obtain ⟨ending, viable⟩ := (hq ts a t passes word).lex rest
      rw [passes.tokens]
      exact ⟨passes.ending.symm.trans ending, viable_after.mp viable⟩

/-- A step that takes no token may come first. -/
theorem Conforms.silent (hp : Silent p s) (settled : s.Settled)
    (hq : ∀ a t, t.tokens = s.tokens → t.Settled → Conforms M (q a) t) : Conforms M (p >>= q) s := by
  rcases run : p s with ⟨a, t⟩ | ⟨e, t⟩
  · -- The step took nothing, so the rest starts at the same token.
    obtain ⟨tokens, ending⟩ := hp.ok run
    have h := hq a t tokens fun none => ending.trans (settled (tokens.symm.trans none))
    have passes {ts u} (h' : t.Passes ts u) : s.Passes ts u :=
      ⟨tokens.symm.trans h'.tokens, h'.ending.trans ending, h'.settled⟩
    constructor
    · intro b u run'
      obtain ⟨ts, h', word⟩ := h.ok ((bind_of_ok run).symm.trans run')
      exact ⟨ts, passes h', word⟩
    · intro x found u run'
      obtain ⟨open_, found, ts, h', admits⟩ := h.unexpected ((bind_of_ok run).symm.trans run')
      exact ⟨open_, found, ts, passes h', admits⟩
    · intro e u run'
      rw [← tokens, ← ending]
      exact h.lex ((bind_of_ok run).symm.trans run')
  · obtain ⟨m, n, rfl⟩ := hp.error run
    exact .of_tooDeep (bind_of_error run)

/-! ### Primitive procedures -/

variable {t : Token} {k : List Token}

theorem advance_conforms (h : s.tokens = t :: k) : Conforms (fun ts _ => ts = [t]) advance s := by
  have taken : advance s = settle { s with tokens := k, requests := s.requests + 1 } := by
    simp [advance, settle, step_eq, Step.advance, h]
  have passes (settled : k = [] → s.ending = none) :
      s.Passes [t] { s with tokens := k, requests := s.requests + 1 } := ⟨h, rfl, settled⟩
  by_cases settled : k = [] → s.ending = none
  · exact .of_ok (taken.trans (settle_of_settled settled)) (passes settled) rfl
  · obtain ⟨rfl, no⟩ := Classical.not_imp.mp settled
    obtain ⟨e, ending⟩ := Option.ne_none_iff_exists'.mp no
    exact .of_lex (taken.trans (settle_of_error rfl ending)) ending ⟨[], (), by simpa using h⟩

theorem tokens_of_ahead (h : s.ahead = some t) : ∃ k, s.tokens = t :: k := by
  rcases tokens : s.tokens with _ | ⟨u, k⟩
  · simp [ParserState.ahead, tokens] at h
  · obtain rfl : u = t := by simpa [ParserState.ahead, tokens] using h
    exact ⟨k, rfl⟩

theorem eat_conforms (settled : s.Settled) : Conforms (fun ts _ => ts = [t]) (eat t) s := by
  by_cases h : s.ahead = some t
  · obtain ⟨k, tokens⟩ := tokens_of_ahead h
    refine .of_run ?_ (advance_conforms tokens)
    rw [eat, ahead_bind, if_pos h]
  · refine .of_fail (x := .token t) ?_ settled nofun ⟨[], (), rfl⟩
    rw [eat, ahead_bind, if_neg h]

theorem identifier_conforms (settled : s.Settled) :
    Conforms (fun ts name => ts = [.identifier name]) identifier s := by
  rcases h : s.ahead with _ | name | v | k | sym
  case some.identifier =>
    obtain ⟨k, tokens⟩ := tokens_of_ahead h
    refine .of_run (r := advance >>= fun _ => pure name) (by rw [identifier, ahead_bind, h]) ?_
    refine .bind (advance_conforms tokens) ?_ ?_
    · rintro _ _ rfl
      exact ⟨[], name, rfl⟩
    · rintro _ _ t passes rfl
      exact .done passes.settled rfl
  all_goals
    refine .of_fail (x := .identifier) ?_ settled nofun fun name => ⟨[], name, rfl⟩
    rw [identifier, ahead_bind, h]

theorem enter_silent : Silent enter s := by
  constructor
  · intro a t h
    simp only [enter, step_eq, Step.enter] at h
    split at h <;> cases h
    exact ⟨rfl, rfl⟩
  · intro e t h
    simp only [enter, step_eq, Step.enter] at h
    split at h <;> cases h
    exact ⟨_, _, rfl⟩

theorem leave_silent : Silent leave s where
  ok h := by
    cases h
    exact ⟨rfl, rfl⟩
  error h := nomatch h

theorem checkHeight_silent {h : Nat} : Silent (checkHeight h) s := by
  simp only [checkHeight, step_eq, Step.checkHeight]
  split
  · exact ⟨(nomatch ·), fun run => by cases run; exact ⟨_, _, rfl⟩⟩
  · exact ⟨fun run => by cases run; exact ⟨rfl, rfl⟩, (nomatch ·)⟩

/-! ### Levels -/

/-- A procedure conforms from every state in which it is known what comes next. -/
def Obeys {α : Type} (L : Language α) (p : Parser α) : Prop :=
  ∀ s : ParserState, s.Settled → Conforms L p s

theorem enclosed_conforms {opening closing : Token} {M : Language α} (obeys : Obeys L p) (inhabited : ∃ ts a, L ts a)
    (words : ∀ ts a, L ts a → M (opening :: (ts ++ [closing])) a) (settled : s.Settled) :
    Conforms M (enclosed opening closing p) s := by
  refine .silent enter_silent settled fun _ t _ settled => ?_
  refine .bind (eat_conforms settled) ?_ ?_
  · rintro _ _ rfl
    obtain ⟨ts, a, h⟩ := inhabited
    exact ⟨ts ++ [closing], a, words ts a h⟩
  rintro _ _ t passes rfl
  refine .bind (obeys t passes.settled) ?_ ?_
  · intro ts a h
    exact ⟨[closing], a, words ts a h⟩
  intro ts a t passes h
  refine .bind (eat_conforms passes.settled) ?_ ?_
  · rintro _ _ rfl
    exact .of_word (a := a) (words ts a h)
  rintro _ _ t passes rfl
  exact .silent leave_silent passes.settled fun _ t _ settled => .done settled (words ts a h)

end Conforms
end Parser
end MiniPascal
