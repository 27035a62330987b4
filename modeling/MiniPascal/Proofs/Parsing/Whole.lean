import MiniPascal.Proofs.Parsing.Conforms.Program
import MiniPascal.Proofs.Parsing.Reads.Program

/-! # Parsing whole texts

A text is parsed from its first token to its end. So the procedure for a rule decides which lists of tokens
are words of the rule, and on the others it fails behind a viable prefix. -/

namespace MiniPascal.Parser
open Grammar

/-- What parsing gives is what the rule and the limits decide: the tree of a derivation that keeps the limits,
the error one above the limit for a derivation that does not, and some error if there is no derivation. -/
structure Decides {α : Type} (derives : α → Nat → Prop) (low : α → Prop) (result : Except Error α) : Prop where
  ok : ∀ a, result = .ok a ↔ ∃ d, derives a d ∧ d ≤ maxDepth ∧ low a
  tooDeep : ∀ a d, derives a d → ¬(d ≤ maxDepth ∧ low a) → result = .error (.tooDeep (maxDepth + 1) maxDepth)
  error : (∀ a d, ¬derives a d) → ∃ e, result = .error e

/-- What is decided for a derivation of this depth, where the depth keeps the other limit. -/
theorem Decides.of_derives {α : Type} {derives : α → Nat → Prop} {low : α → Prop} {result : Except Error α} {a : α}
    {d : Nat} (h : Decides derives low result) (derivation : derives a d) (keeps : d ≤ maxDepth → low a) :
    result = if d ≤ maxDepth then .ok a else .error (.tooDeep (maxDepth + 1) maxDepth) := by
  split
  · next fits => exact (h.ok a).mpr ⟨d, derivation, fits, keeps fits⟩
  · next deep => exact h.tooDeep a d derivation fun fits => deep fits.1

section Whole
variable {α : Type} {p : Parser α} {L : Language α} {s t : ParserState} {a : α} {ts : List Token}

theorem run_eq (p : Parser α) (stream : TokenStream) :
    run p stream = match whole p (.start stream) with
      | .ok a _ => .ok a
      | .error e _ => .error e := rfl

theorem endOfInput_of_none (h : s.ahead = none) : endOfInput s = .ok () s := by
  rw [endOfInput, ahead_bind, if_pos h]
  rfl

theorem endOfInput_of_some (h : s.ahead ≠ none) : endOfInput s = fail .endOfInput s := by
  rw [endOfInput, ahead_bind, if_neg h]

theorem tokens_of_ahead_none (h : s.ahead = none) : s.tokens = [] := List.head?_eq_none_iff.mp h

theorem whole_of_settled (settled : s.Settled) :
    whole p s = (p >>= fun a => endOfInput >>= fun _ => pure a) s :=
  bind_of_ok (settle_of_settled settled)

theorem ok_of_whole (settled : s.Settled) (h : whole p s = .ok a t) : p s = .ok a t ∧ t.ahead = none := by
  rw [whole_of_settled settled] at h
  obtain ⟨a', u, first, rest⟩ := exists_of_bind_ok h
  by_cases ended : u.ahead = none
  · rw [bind_of_ok (endOfInput_of_none ended)] at rest
    cases rest
    exact ⟨first, ended⟩
  · rw [bind_of_error (endOfInput_of_some ended)] at rest
    cases rest

theorem error_of_whole {e : Error} (settled : s.Settled) (h : whole p s = .error e t) :
    p s = .error e t ∨ ∃ a, p s = .ok a t ∧ e = .unexpected .endOfInput t.ahead := by
  rw [whole_of_settled settled] at h
  obtain first | ⟨a, u, first, rest⟩ := error_or_of_bind_error h
  · exact .inl first
  by_cases ended : u.ahead = none
  · rw [bind_of_ok (endOfInput_of_none ended)] at rest
    cases rest
  · rw [bind_of_error (endOfInput_of_some ended)] at rest
    cases rest
    exact .inr ⟨a, first, rfl⟩

/-- A run over a whole text, where it is not at its limits. -/
structure WholeConforms (L : Language α) (p : Parser α) (s : ParserState) : Prop where
  ok : ∀ {a t}, whole p s = .ok a t → s.ending = none ∧ L s.tokens a
  unexpected : ∀ {x found t}, whole p s = .error (.unexpected x found) t →
    found = t.ahead ∧ ∃ ts, s.Passes ts t ∧ Admits L ts x
  lex : ∀ {e t}, whole p s = .error (.lex e) t → s.ending = some e ∧ Viable L s.tokens

theorem whole_conforms (obeys : Obeys L p) (inhabited : Viable L []) (s : ParserState) : WholeConforms L p s := by
  by_cases settled : s.Settled
  · have conforms := obeys s settled
    constructor
    · intro a t run
      obtain ⟨first, ended⟩ := ok_of_whole settled run
      obtain ⟨ts, passes, word⟩ := conforms.ok first
      have tokens := passes.tokens
      rw [tokens_of_ahead_none ended, List.append_nil] at tokens
      rw [tokens]
      exact ⟨passes.ending.symm.trans (passes.settled (tokens_of_ahead_none ended)), word⟩
    · intro x found t run
      obtain first | ⟨a, first, same⟩ := error_of_whole settled run
      · exact (conforms.unexpected first).2
      · cases same
        obtain ⟨ts, passes, word⟩ := conforms.ok first
        exact ⟨rfl, ts, passes, a, word⟩
    · intro e t run
      obtain first | ⟨_, _, same⟩ := error_of_whole settled run
      · exact conforms.lex first
      · cases same
  · -- There is no token at all, and scanning failed.
    obtain ⟨tokens, no⟩ := Classical.not_imp.mp settled
    obtain ⟨e, ending⟩ := Option.ne_none_iff_exists'.mp no
    have all : whole p s = .error (.lex e) s := bind_of_error (settle_of_error tokens ending)
    refine ⟨(nomatch all.symm.trans ·), (nomatch all.symm.trans ·), fun run => ?_⟩
    cases all.symm.trans run
    rw [tokens]
    exact ⟨ending, inhabited⟩

/-! ### Decision -/

variable {rule : List Token → α → Nat → Prop} {low : α → Prop} {stop : Lookahead → Prop}

theorem run_of_whole_ok {stream : TokenStream} (h : whole p (.start stream) = .ok a t) : run p stream = .ok a := by
  rw [run_eq, h]

theorem run_of_whole_error {stream : TokenStream} {e : Error} (h : whole p (.start stream) = .error e t) :
    run p stream = .error e := by
  rw [run_eq, h]

theorem exists_whole_of_ok {stream : TokenStream} (h : run p stream = .ok a) :
    ∃ t, whole p (.start stream) = .ok a t := by
  rw [run_eq] at h
  split at h
  · cases h
    exact ⟨_, ‹_›⟩
  · cases h

theorem exists_whole_of_error {stream : TokenStream} {e : Error} (h : run p stream = .error e) :
    ∃ t, whole p (.start stream) = .error e t := by
  rw [run_eq] at h
  split at h
  · cases h
  · cases h
    exact ⟨_, ‹_›⟩

/-- What parsing gives stands for a text that ends without an error, and for all its tokens. -/
theorem run_sound {stream : TokenStream} (obeys : Obeys L p) (inhabited : Viable L []) (h : run p stream = .ok a) :
    stream.ending = none ∧ L stream.tokens a := by
  obtain ⟨t, h⟩ := exists_whole_of_ok h
  exact (whole_conforms obeys inhabited _).ok h

/-- An error of scanning is the one that ends the tokens. -/
theorem lex_of_run {stream : TokenStream} {e : LexError} (obeys : Obeys L p) (inhabited : Viable L [])
    (h : run p stream = .error (.lex e)) : stream.ending = some e ∧ Viable L stream.tokens := by
  obtain ⟨t, h⟩ := exists_whole_of_error h
  exact (whole_conforms obeys inhabited _).lex h

theorem whole_reads {F : Prop} (h : Reads p (.start ⟨ts, none⟩) F a ((ParserState.start ⟨ts, none⟩).skip ts.length)) :
    Reads (whole p) (.start ⟨ts, none⟩) F a ((ParserState.start ⟨ts, none⟩).skip ts.length) := by
  have ended : ((ParserState.start ⟨ts, none⟩).skip ts.length).ahead = none := by
    simp [ParserState.ahead, ParserState.skip, ParserState.start]
  refine .of_run (whole_of_settled fun _ => rfl) (.last h ?_)
  rw [bind_of_ok (endOfInput_of_none ended)]
  rfl

/-- A procedure that reads what its rule derives, and conforms to the rule, decides it. -/
theorem run_decides (accepts : Accepts 0 p rule low id stop) (ends : stop none) (obeys : Obeys (.of rule) p)
    (inhabited : Viable (.of rule) []) (ts : List Token) : Decides (rule ts) low (run p ⟨ts, none⟩) := by
  have reads {a d} (h : rule ts a d) :
      Reads (whole p) (.start ⟨ts, none⟩) (0 + d ≤ maxDepth ∧ low a) a
        ((ParserState.start ⟨ts, none⟩).skip ts.length) :=
    whole_reads (accepts h (List.append_nil _).symm rfl rfl ends)
  have sound {a} (h : run p ⟨ts, none⟩ = .ok a) : ∃ d, rule ts a d := (run_sound obeys inhabited h).2
  have tooDeep {a d} (h : rule ts a d) (no : ¬(d ≤ maxDepth ∧ low a)) :
      run p ⟨ts, none⟩ = .error (.tooDeep (maxDepth + 1) maxDepth) := by
    obtain ⟨t, h⟩ := (reads h).tooDeep (by rwa [Nat.zero_add])
    exact run_of_whole_error h
  constructor
  · intro a
    constructor
    · intro h
      obtain ⟨d, word⟩ := sound h
      -- If the word did not keep the limits, the run would have failed for them.
      by_cases fits : d ≤ maxDepth ∧ low a
      · exact ⟨d, word, fits⟩
      · exact nomatch h.symm.trans (tooDeep word fits)
    · rintro ⟨d, word, fits⟩
      exact run_of_whole_ok ((reads word).ok (by rwa [Nat.zero_add]))
  · exact fun a d => tooDeep
  · intro none
    rcases result : run p ⟨ts, .none⟩ with e | a
    · exact ⟨e, rfl⟩
    · obtain ⟨d, word⟩ := sound result
      exact absurd word (none a d)

/-- A stream that is parsed ends without an error, and has a derivation within the limits. -/
theorem exists_of_run {stream : TokenStream} (obeys : Obeys L p) (inhabited : Viable L [])
    (decided : ∀ ts, Decides (rule ts) low (run p ⟨ts, none⟩)) (h : run p stream = .ok a) :
    ∃ ts d, stream = ⟨ts, none⟩ ∧ rule ts a d ∧ d ≤ maxDepth ∧ low a := by
  obtain ⟨ts, ending⟩ := stream
  obtain rfl : ending = none := (run_sound obeys inhabited h).1
  obtain ⟨d, derived, levels, low⟩ := ((decided ts).ok a).mp h
  exact ⟨ts, d, rfl, derived, levels, low⟩

end Whole
end MiniPascal.Parser
