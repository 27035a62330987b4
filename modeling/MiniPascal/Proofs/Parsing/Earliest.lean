import MiniPascal.Proofs.Parsing.Local
import MiniPascal.Proofs.Parsing.Whole

/-! # Where errors are reported

An error is reported at the first token that no word continues with. What comes before it is a viable prefix,
as the run conforms to the grammar. And the token cannot come next: the run does not depend on what is
behind that token, so it would fail on a word. -/

namespace MiniPascal.Parser
open Grammar

/-- An unexpected token is the first one that no word of the language continues with, and what was looked for
may stand in its place; an error of scanning is the one that ends the tokens, behind a viable prefix. -/
structure Earliest {α β : Type} (L : Language α) (stream : TokenStream) (result : Except Error β) : Prop where
  unexpected : ∀ x found, result = .error (.unexpected x found) →
    ∃ i ≤ stream.tokens.length, found = stream.tokens[i]? ∧ (found = none → stream.ending = none) ∧
      Viable L (stream.tokens.take i) ∧
      (∀ t, found = some t → ¬Viable L (stream.tokens.take i ++ [t])) ∧
      (found = none → ∀ a, ¬L (stream.tokens.take i) a) ∧
      Admits L (stream.tokens.take i) x
  lex : ∀ e, result = .error (.lex e) → stream.ending = some e ∧ Viable L stream.tokens

section Earliest
variable {α : Type} {p : Parser α} {rule : List Token → α → Nat → Prop} {low : α → Prop}

theorem Decides.ne_unexpected {derives : α → Nat → Prop} {result : Except Error α} (h : Decides derives low result)
    {a : α} {d : Nat} (word : derives a d) {x : Expectation} {found : Lookahead} :
    result ≠ .error (.unexpected x found) := by
  intro failed
  by_cases fits : d ≤ maxDepth ∧ low a
  · exact nomatch failed.symm.trans ((h.ok a).mpr ⟨d, word, fits⟩)
  · exact nomatch failed.symm.trans (h.tooDeep a d word fits)

theorem settle_local {n n' : Nat} : Local n n' settle settle where
  shrinks s := by
    simp only [settle, step_eq, Step.settle]
    split <;> exact Nat.le_refl _
  shrinks' s := by
    simp only [settle, step_eq, Step.settle]
    split <;> exact Nat.le_refl _
  alike {r r' s s'} twin _ _ := by
    obtain ⟨t, k, tokens, tokens'⟩ := twin.tokens
    have run := settle_of_settled fun none => absurd (tokens.symm.trans none) (List.cons_ne_nil _ _)
    have run' := settle_of_settled fun none => absurd (tokens'.symm.trans none) (List.cons_ne_nil _ _)
    rw [run, run']
    exact .ok () twin

theorem endOfInput_local {n n' : Nat} : Local n n' endOfInput endOfInput := by
  refine .of_ahead fun x => ?_
  split
  · exact .of_ok _
  · exact .of_fail _

theorem whole_local {n n' : Nat} (h : Local n n' p p) : Local n n' (whole p) (whole p) :=
  settle_local.bind fun _ => h.bind fun _ => endOfInput_local.bind fun _ => .of_ok _

/-- Streams that share their first tokens up to `u` fail alike before `u`. -/
theorem run_of_shared {ts r r' : List Token} {u : Token} {stream : TokenStream} {e : Error} {t : ParserState}
    (hp : ∀ n n', Local n n' p p) (tokens : stream.tokens = ts ++ u :: r) (left : t.tokens = u :: r)
    (failed : whole p (.start stream) = .error e t) : run p ⟨ts ++ u :: r', none⟩ = .error e := by
  have twin : Twin r r' (.start stream) (.start ⟨ts ++ u :: r', none⟩) := by
    refine ⟨?_, rfl⟩
    obtain _ | ⟨v, ts⟩ := ts
    · exact ⟨u, [], tokens, rfl⟩
    · exact ⟨v, ts ++ [u], by simpa [ParserState.start] using tokens, by simp [ParserState.start]⟩
  have alike := (whole_local (hp _ _)).alike twin (Nat.le_refl _) (Nat.le_refl _)
  rw [failed] at alike
  generalize run' : whole p _ = x' at alike
  cases alike with
  | error _ _ => exact run_of_whole_error run'
  | past short =>
    simp only [remaining, left, List.length_cons] at short
    omega

/-- A procedure that decides its rule, conforms to it and looks at one token reports errors at the earliest
token. -/
theorem run_earliest (decides : ∀ ts, Decides (rule ts) low (run p ⟨ts, none⟩)) (obeys : Obeys (.of rule) p)
    (hp : ∀ n n', Local n n' p p) (inhabited : Viable (.of rule) []) (stream : TokenStream) :
    Earliest (.of rule) stream (run p stream) := by
  have conforms := whole_conforms obeys inhabited (.start stream)
  constructor
  · intro x found failed
    obtain ⟨t, failed'⟩ := exists_whole_of_error failed
    obtain ⟨rfl, ts, passes, admits⟩ := conforms.unexpected failed'
    have tokens : stream.tokens = ts ++ t.tokens := passes.tokens
    have taken : stream.tokens.take ts.length = ts := by
      rw [tokens, List.take_left]
    have next : stream.tokens[ts.length]? = t.ahead := by
      rw [tokens, List.getElem?_append_right (Nat.le_refl _), Nat.sub_self, ← List.head?_eq_getElem?]
      rfl
    refine ⟨ts.length, ?_, next.symm, ?_, ?_⟩
    · rw [tokens, List.length_append]
      exact Nat.le_add_right _ _
    · exact fun none => passes.ending.symm.trans (passes.settled (tokens_of_ahead_none none))
    rw [taken]
    refine ⟨admits.viable, ?_, ?_, admits⟩
    · -- On a word that goes on with `u` the run would fail in the same way, as it does not see what follows.
      rintro u hu ⟨vs, a, d, word⟩
      obtain ⟨r, left⟩ := tokens_of_ahead hu
      rw [List.append_assoc] at word
      rw [left] at tokens
      exact (decides _).ne_unexpected word (run_of_shared hp tokens left failed')
    · rintro none a ⟨d, word⟩
      have ending : stream.ending = .none := passes.ending.symm.trans (passes.settled (tokens_of_ahead_none none))
      rw [tokens_of_ahead_none none, List.append_nil] at tokens
      have same : stream = ⟨ts, .none⟩ := by
        rw [← tokens, ← ending]
      rw [same] at failed
      exact (decides ts).ne_unexpected word failed
  · exact fun e failed => lex_of_run obeys inhabited failed

end Earliest
end MiniPascal.Parser
