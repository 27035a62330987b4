import MiniPascal.Proofs.Scanning.Scan

/-! # The scanner and the grammar of tokens

The series of tokens that a scanner gives is the split of the text into lexemes and layout, if there is one.
Otherwise it is the longest start of such a split, and the error tells what stands in the way. -/

namespace MiniPascal
open Grammar

/-- The tokens of a scanner up to the end of its series, or up to the error that ends it. -/
inductive Scanner.Yields : Scanner → List Token → Option LexError → Prop
  | stop {s u : Scanner} (h : s.next = (.ok none, u)) : Yields s [] none
  | fail {s u : Scanner} {e} (h : s.next = (.error e, u)) : Yields s [] (some e)
  | token {s u : Scanner} {t ts e} (h : s.next = (.ok (some t), u)) (others : Yields u ts e) : Yields s (t :: ts) e

section Series
variable {c u : Cursor} {cs : List Char} {p : Position} {t : Token} {ts : List Token} {e : Option LexError}

theorem next_of_token (h : c.scan = (.ok (some t), u)) : Scanner.next ⟨c, false⟩ = (.ok (some t), ⟨u, false⟩) := by
  unfold Scanner.next
  simp only [h, Bool.false_eq_true, if_false]

theorem next_of_end (h : c.scan = (.ok none, u)) : Scanner.next ⟨c, false⟩ = (.ok none, ⟨u, true⟩) := by
  unfold Scanner.next
  simp only [h, Bool.false_eq_true, if_false]

theorem next_of_error {e : LexError} (h : c.scan = (.error e, u)) :
    Scanner.next ⟨c, false⟩ = (.error e, ⟨u, true⟩) := by
  unfold Scanner.next
  simp only [h, Bool.false_eq_true, if_false]

theorem scan_of_next {s : Scanner} {outcome : Except LexError Lookahead} (h : Scanner.next ⟨c, false⟩ = (outcome, s)) :
    ∃ u, c.scan = (outcome, u) ∧ ∀ t, outcome = .ok (some t) → s = ⟨u, false⟩ := by
  rcases run : c.scan with ⟨(_ | _ | t), u⟩
  · cases (next_of_error run).symm.trans h
    exact ⟨u, rfl, nofun⟩
  · cases (next_of_end run).symm.trans h
    exact ⟨u, rfl, nofun⟩
  · cases (next_of_token run).symm.trans h
    exact ⟨u, rfl, fun _ _ => rfl⟩

theorem Scanner.Yields.unique {s : Scanner} {us : List Token} {f : Option LexError} (h : s.Yields ts e)
    (h' : s.Yields us f) : ts = us ∧ e = f := by
  induction h generalizing us with
  | stop run =>
    cases h' with
    | stop => exact ⟨rfl, rfl⟩
    | fail run' | token run' => cases run.symm.trans run'
  | fail run =>
    cases h' with
    | fail run' =>
      cases run.symm.trans run'
      exact ⟨rfl, rfl⟩
    | stop run' | token run' => cases run.symm.trans run'
  | token run _ ih =>
    cases h' with
    | token run' others =>
      cases run.symm.trans run'
      obtain ⟨rfl, rfl⟩ := ih others
      exact ⟨rfl, rfl⟩
    | stop run' | fail run' => cases run.symm.trans run'

/-- The series is the stream of tokens that a parser works on. -/
theorem yields_ofCursor (c : Cursor) :
    Scanner.Yields ⟨c, false⟩ (TokenStream.ofCursor c).tokens (TokenStream.ofCursor c).ending := by
  induction c using TokenStream.ofCursor.induct with
  | case1 c t u run ih =>
    rw [TokenStream.ofCursor_of_token run]
    exact .token (next_of_token run) ih
  | case2 c u run =>
    rw [TokenStream.ofCursor_of_end run]
    exact .stop (next_of_end run)
  | case3 c e u run =>
    rw [TokenStream.ofCursor_of_error run]
    exact .fail (next_of_error run)

theorem yields_iff_ofText {text : String} : (Scanner.ofText text).Yields ts e ↔ TokenStream.ofText text = ⟨ts, e⟩ := by
  constructor
  · intro h
    obtain ⟨rfl, rfl⟩ := h.unique (yields_ofCursor (.ofText text))
    rfl
  · intro h
    have yields := yields_ofCursor (.ofText text)
    rw [← TokenStream.ofText, h] at yields
    exact yields

/-! ### Splits -/

/-- After the tokens of a scan the series goes on with what is left of the text. -/
theorem Grammar.Scan.yields {rest : List Char} (h : Scan cs ts rest) :
    ∃ used, cs = used ++ rest ∧ ∀ p us e, Scanner.Yields ⟨⟨rest, p.afterAll used⟩, false⟩ us e →
      Scanner.Yields ⟨⟨cs, p⟩, false⟩ (ts ++ us) e := by
  induction h with
  | done cs => exact ⟨[], rfl, fun p us e h => h⟩
  | @token l x cs t ts rest layout h ends _ ih =>
    obtain ⟨used, rfl, goes⟩ := ih
    refine ⟨l ++ (x ++ used), by simp, fun p us e yields => ?_⟩
    rw [Position.afterAll_append, Position.afterAll_append] at yields
    exact .token (next_of_token (scan_iff.mpr (.token layout h ends))) (goes _ _ _ yields)

/-- The tokens of a series are a scan, and they end where the end of the text or an error is found. -/
theorem Scanner.Yields.scan {s : Scanner} (h : s.Yields ts e) (active : s.ended = false) :
    ∃ used rest u, s.cursor.rest = used ++ rest ∧ Scan s.cursor.rest ts rest ∧
      Scanned ⟨rest, s.cursor.position.afterAll used⟩ (e.elim (.ok none) .error) u := by
  induction h with
  | @stop s _ run | @fail s _ _ run =>
    obtain ⟨⟨cs, p⟩, ended⟩ := s
    obtain rfl : ended = false := active
    obtain ⟨v, scanned, -⟩ := scan_of_next run
    exact ⟨[], cs, v, rfl, .done cs, scan_iff.mp scanned⟩
  | @token s _ _ _ _ run _ ih =>
    obtain ⟨c, ended⟩ := s
    obtain rfl : ended = false := active
    obtain ⟨v, scanned, goes⟩ := scan_of_next run
    obtain rfl := goes _ rfl
    cases scan_iff.mp scanned with
    | @token l x cs p _ layout h ends =>
      obtain ⟨used, rest, u, split, others, found⟩ := ih rfl
      refine ⟨l ++ (x ++ used), rest, u, ?_, .token layout h ends others, ?_⟩
      · show l ++ (x ++ cs) = _
        rw [show cs = used ++ rest from split]
        simp
      · rw [Position.afterAll_append, Position.afterAll_append]
        exact found

theorem Grammar.Scan.longest {us : List Token} {rest : List Char} (h : Scan cs us rest)
    (yields : Scanner.Yields ⟨⟨cs, p⟩, false⟩ ts e) : us <+: ts := by
  induction h generalizing p ts with
  | done => exact List.nil_prefix
  | token layout spells ends _ ih =>
    have run := next_of_token (scan_iff.mpr (Scanned.token (p := p) layout spells ends))
    cases yields with
    | stop run' | fail run' => cases run.symm.trans run'
    | token run' others =>
      cases run.symm.trans run'
      exact List.cons_prefix_cons.mpr ⟨rfl, ih others⟩

/-- A series that reaches the end of the text is the split of the text. -/
theorem yields_iff_splits : Scanner.Yields ⟨⟨cs, p⟩, false⟩ ts none ↔ Splits cs ts := by
  constructor
  · intro h
    obtain ⟨used, rest, u, split, scan, found⟩ := h.scan rfl
    cases found with
    | nothing layout => exact ⟨rest, scan, layout⟩
  · rintro ⟨l, scan, layout⟩
    obtain ⟨used, -, goes⟩ := scan.yields
    have := goes p _ _ (.stop (next_of_end (scan_iff.mpr (.nothing layout))))
    rwa [List.append_nil] at this

end Series

/-- The scanner gives the split of a text into lexemes that do not go on. A text without a split is given up to
the end of its longest scan, and the error says what is there: a character that no lexeme starts with, a whole
numeral out of range, or a comment that is not closed. -/
theorem scanner_splits_text (text : String) :
    (∀ ts, (Scanner.ofText text).Yields ts none ↔ Splits text.toList ts) ∧
      ((∀ ts, ¬Splits text.toList ts) → ∃ ts e, (Scanner.ofText text).Yields ts (some e) ∧
        (∀ us rest, Scan text.toList us rest → us <+: ts) ∧
        ∃ used rest u, text.toList = used ++ rest ∧ Scan text.toList ts rest ∧
          Scanned ⟨rest, Position.start.afterAll used⟩ (.error e) u) := by
  refine ⟨fun ts => yields_iff_splits, fun none => ?_⟩
  have yields := yields_ofCursor (.ofText text)
  rcases ending : (TokenStream.ofCursor (.ofText text)).ending with _ | e
  · rw [ending] at yields
    exact absurd (yields_iff_splits.mp yields) (none _)
  · rw [ending] at yields
    exact ⟨_, e, yields, fun us rest scan => scan.longest yields, yields.scan rfl⟩

example : TokenStream.ofText "x \x7b y" = ⟨[.identifier "x"], some (.unterminatedComment ⟨1, 3⟩)⟩ := by
  decide +kernel

end MiniPascal
