import MiniPascal.Proofs.Scanning.Lexeme

/-! # A scan and what it finds

A scan passes the layout before it and takes the lexeme after that, or fails at the place where the layout
ends. What it finds is determined by the text, and every text has something to find: the end, a token or an
error. -/

namespace MiniPascal.Grammar
open Cursor

section Scan
variable {l x n rest cs : List Char} {c : Char} {p : Position} {t : Token}

theorem skip_append (cs rest : List Char) (p : Position) :
    (Cursor.mk (cs ++ rest) p).skip cs.length = ⟨rest, p.afterAll cs⟩ := by
  simp [skip]

/-! ### Layout -/

theorem skipLayout_body {opened : Position} (h : '}' ∉ x) :
    skipLayout (some opened) p (x ++ rest) = skipLayout (some opened) (p.afterAll x) rest := by
  induction x generalizing p with
  | nil => rfl
  | cons c x ih =>
    obtain ⟨first, others⟩ := not_or.mp (mt List.mem_cons.mpr h)
    show skipLayout (if c = '}' then none else some opened) (p.after c) (x ++ rest) = _
    rw [if_neg (Ne.symm first), ih others]
    rfl

theorem skipLayout_blank (h : Text.isBlank c = true) :
    skipLayout none p (c :: cs) = skipLayout none (p.after c) cs := by
  show (if Text.isBlank c then _ else _) = _
  rw [if_pos h]

theorem skipLayout_comment : skipLayout none p ('{' :: cs) = skipLayout (some p) (p.after '{') cs := by
  have blank : Text.isBlank '{' = false := rfl
  rw [skipLayout]
  simp only [blank, Bool.false_eq_true, if_false, if_true]

theorem skipLayout_bare (h : Bare c) : skipLayout none p (c :: cs) = .ok ⟨c :: cs, p⟩ := by
  show (if Text.isBlank c then _ else _) = _
  rw [h.1, if_neg (by decide), if_neg h.2]

theorem skipLayout_layout (layout : Layout l) :
    skipLayout none p (l ++ rest) = skipLayout none (p.afterAll l) rest := by
  induction layout generalizing p with
  | none => rfl
  | blank h _ ih => exact (skipLayout_blank h).trans ih
  | @comment body cs h _ ih =>
    rw [List.cons_append, List.append_assoc, skipLayout_comment, skipLayout_body h, List.cons_append]
    refine Eq.trans ?_ (ih (p := ((p.after '{').afterAll body).after '}')) |>.trans ?_
    · rfl
    · simp [Position.afterAll_append]

/-! ### Lexemes -/

theorem scanFrom_of_assign : scanFrom ⟨':' :: '=' :: rest, p⟩ ':' =
    (.ok (some (.symbol .assign)), ⟨rest, p.afterAll [':', '=']⟩) := by
  unfold scanFrom
  exact if_pos rfl

theorem scanFrom_of_symbol {s : Symbol} (h : Symbol.ofChar? c = some s) (ends : c = ':' → cs.head? ≠ some '=') :
    scanFrom ⟨c :: cs, p⟩ c = (.ok (some (.symbol s)), ⟨cs, p.afterAll [c]⟩) := by
  have single : (c :: cs).take 2 ≠ [':', '='] := by
    intro assign
    rcases cs with _ | ⟨d, cs⟩
    · cases assign
    · cases assign
      exact ends rfl rfl
  unfold scanFrom
  generalize Symbol.ofChar? c = found at h ⊢
  subst h
  exact if_neg single

theorem scanFrom_of_none (h : Symbol.ofChar? c = none) : scanFrom ⟨c :: cs, p⟩ c =
    if c.isDigit then
      ((match (Numeral.ofText (c :: cs)).value? with
        | some v => .ok (some (.number v))
        | none => .error (.invalidNumber (String.ofList (Numeral.ofText (c :: cs)).text) p)),
        (Cursor.mk (c :: cs) p).skip (Numeral.ofText (c :: cs)).text.length)
    else if isWordStart c then
      (.ok (some (.ofWord ((c :: cs).takeWhile isWordPart))),
        (Cursor.mk (c :: cs) p).skip ((c :: cs).takeWhile isWordPart).length)
    else (.error (.unexpectedChar c p), ⟨c :: cs, p⟩) := by
  have single : (c :: cs).take 2 ≠ [':', '='] := by
    intro assign
    obtain rfl : c = ':' := List.head_eq_of_cons_eq assign
    cases h
  unfold scanFrom
  generalize Symbol.ofChar? c = found at h ⊢
  subst h
  exact if_neg single

theorem scanFrom_of_word (word : Word x) (ends : EndsRun isWordPart rest) :
    ∃ c cs, x = c :: cs ∧ Bare c ∧
      scanFrom ⟨x ++ rest, p⟩ c = (.ok (some (.ofWord x)), ⟨rest, p.afterAll x⟩) := by
  cases word with
  | @mk c cs first others =>
    obtain ⟨bare, digit⟩ := isWordStart_separate first
    refine ⟨c, cs, rfl, bare, ?_⟩
    have part : ∀ d ∈ c :: cs, isWordPart d = true := by
      intro d mem
      rcases List.mem_cons.mp mem with rfl | mem
      · exact isWordPart_of_isWordStart first
      · exact others d mem
    have whole := takeWhile_run part ends
    rw [List.cons_append] at whole
    rw [List.cons_append, scanFrom_of_none (ofChar?_of_isWordStart first), digit, if_neg (by decide), if_pos first,
      whole]
    exact congrArg _ (skip_append _ _ _)

theorem scanFrom_of_numeral (numeral : MaximalNumeral n rest) :
    ∃ c cs, n = c :: cs ∧ Bare c ∧ scanFrom ⟨n ++ rest, p⟩ c =
      ((match (Numeral.ofText (n ++ rest)).value? with
        | some v => .ok (some (.number v))
        | none => .error (.invalidNumber (String.ofList n) p)), ⟨rest, p.afterAll n⟩) := by
  obtain ⟨c, cs, rfl, digit⟩ := numeral.digit
  refine ⟨c, cs, rfl, isDigit_bare digit, ?_⟩
  have text := numeral.scanned.1
  rw [List.cons_append] at text
  rw [List.cons_append, scanFrom_of_none (ofChar?_of_isDigit digit), if_pos digit, text]
  exact congrArg _ (skip_append (c :: cs) rest p)

/-- A lexeme that does not go on is scanned as its token. -/
theorem scanFrom_of_spells (h : Spells x t) (ends : Ends t rest) :
    ∃ c cs, x = c :: cs ∧ Bare c ∧ scanFrom ⟨x ++ rest, p⟩ c = (.ok (some t), ⟨rest, p.afterAll x⟩) := by
  have numeral {v : Value} (h : Spells x (.number v)) (ends : Ends (.number v) rest) : ∃ c cs, x = c :: cs ∧ Bare c ∧
      scanFrom ⟨x ++ rest, p⟩ c = (.ok (some (.number v)), ⟨rest, p.afterAll x⟩) := by
    have maximal := h.maximal ends
    obtain ⟨c, cs, first, bare, run⟩ := scanFrom_of_numeral (p := p) maximal
    rw [(maximal.scanned.2 v).mpr h] at run
    exact ⟨c, cs, first, bare, run⟩
  have sign {s : Symbol} {c : Char} (one : Symbol.ofChar? c = some s) (ends : Ends (.symbol s) rest) :
      ∃ d cs, s.text.toList = d :: cs ∧ Bare d ∧
        scanFrom ⟨s.text.toList ++ rest, p⟩ d = (.ok (some (.symbol s)), ⟨rest, p.afterAll s.text.toList⟩) := by
    rw [ofChar?_eq_some.mp one]
    refine ⟨c, [], rfl, (symbol_separate one).1, scanFrom_of_symbol one ?_⟩
    rintro rfl
    cases one
    exact ends
  cases h with
  | symbol s =>
    rcases s with _ | _ | _ | _ | _ | _ | _ | _ | _ | _ | _
    · exact ⟨':', ['='], rfl, (symbol_separate (s := .colon) rfl).1, scanFrom_of_assign⟩
    · exact sign (c := '+') rfl ends
    · exact sign (c := '-') rfl ends
    · exact sign (c := '*') rfl ends
    · exact sign (c := '/') rfl ends
    · exact sign (c := ';') rfl ends
    · exact sign (c := '.') rfl ends
    · exact sign (c := ',') rfl ends
    · exact sign (c := ':') rfl ends
    · exact sign (c := '(') rfl ends
    · exact sign (c := ')') rfl ends
  | keyword word h =>
    rw [← ofWord_of_keyword h]
    exact scanFrom_of_word word ends
  | identifier word h =>
    rw [← ofWord_of_identifier h]
    exact scanFrom_of_word word ends
  | integer digits value => exact numeral (.integer digits value) ends
  | real whole fraction finite sign value => exact numeral (.real whole fraction finite sign value) ends

theorem exists_integer (h : c.isDigit = true) : ∃ t, Spells [c] t := by
  have bounds := Char.isDigit_iff_toNat.mp h
  have small : Numeral.digitsValue [c] ≤ 9 := by
    simp only [Numeral.digitsValue, Nat.ofDigitChars_cons, Nat.ofDigitChars_nil]
    have nine : '9'.toNat = 57 := rfl
    have zero : '0'.toNat = 48 := rfl
    omega
  refine ⟨_, .integer ⟨List.cons_ne_nil _ _, ?_⟩ (Int64.toInt_ofInt_of_le (n := Numeral.digitsValue [c]) ?_ ?_)⟩
  · rintro d mem
    rwa [List.mem_singleton.mp mem]
  · omega
  · omega

/-- The characters that lexemes start with. -/
def StartsLexeme (c : Char) : Prop :=
  isWordStart c = true ∨ c.isDigit = true ∨ ∃ s, Symbol.ofChar? c = some s

/-- Each of them is a lexeme by itself. -/
theorem StartsLexeme.spells (h : StartsLexeme c) : ∃ t, Spells [c] t := by
  rcases h with word | digit | ⟨s, symbol⟩
  · exact ⟨_, ofWord_spells (.mk word nofun)⟩
  · exact exists_integer digit
  · have spells := Spells.symbol s
    rw [ofChar?_eq_some.mp symbol] at spells
    exact ⟨_, spells⟩

/-- A character that no lexeme starts with is reported, and not passed. -/
theorem scanFrom_of_unexpected (h : ∀ x rest t, c :: cs = x ++ rest → ¬Spells x t) :
    scanFrom ⟨c :: cs, p⟩ c = (.error (.unexpectedChar c p), ⟨c :: cs, p⟩) := by
  have none : ¬StartsLexeme c := fun start => Exists.elim start.spells fun t => h [c] cs t rfl
  have symbol : Symbol.ofChar? c = .none := by
    rcases found : Symbol.ofChar? c with _ | s
    · rfl
    · exact absurd (.inr (.inr ⟨s, found⟩)) none
  have digit : ¬c.isDigit = true := fun digit => none (.inr (.inl digit))
  have word : ¬isWordStart c = true := fun word => none (.inl word)
  rw [scanFrom_of_none symbol, if_neg digit, if_neg word]

/-! ### Scans -/

theorem scan_of_lexeme {outcome : Except LexError Lookahead × Cursor} (layout : Layout l) (bare : Bare c)
    (h : scanFrom ⟨c :: cs, p.afterAll l⟩ c = outcome) : scan ⟨l ++ c :: cs, p⟩ = outcome := by
  have past : pastLayout ⟨l ++ c :: cs, p⟩ = .ok ⟨c :: cs, p.afterAll l⟩ :=
    (skipLayout_layout layout).trans (skipLayout_bare bare)
  unfold scan
  rw [past]
  exact h

theorem Scanned.scan_eq {s u : Cursor} {outcome : Except LexError Lookahead} (h : Scanned s outcome u) :
    s.scan = (outcome, u) := by
  cases h with
  | @nothing l p layout =>
    have past : pastLayout ⟨l, p⟩ = .ok ⟨[], p.afterAll l⟩ := by
      have : skipLayout none p (l ++ []) = _ := skipLayout_layout layout
      rwa [List.append_nil] at this
    unfold scan
    rw [past]
  | @token l x rest p t layout h ends =>
    obtain ⟨c, cs, rfl, bare, run⟩ := scanFrom_of_spells (p := p.afterAll l) h ends
    exact scan_of_lexeme layout bare run
  | unexpectedChar layout bare h => exact scan_of_lexeme layout bare (scanFrom_of_unexpected h)
  | @invalidNumber l n rest p layout numeral h =>
    obtain ⟨c, cs, rfl, bare, run⟩ := scanFrom_of_numeral (p := p.afterAll l) numeral
    have none : (Numeral.ofText (c :: cs ++ rest)).value? = .none := by
      rcases value : (Numeral.ofText (c :: cs ++ rest)).value? with _ | v
      · rfl
      · exact absurd ((numeral.scanned.2 v).mp value) (h _)
    rw [none] at run
    exact scan_of_lexeme layout bare run
  | @unterminatedComment l body p layout h =>
    -- The search for the brace goes through all of the text, so the scan ends where the text ends.
    have past : pastLayout ⟨l ++ '{' :: body, p⟩ = .error (p.afterAll l) := by
      refine (skipLayout_layout layout).trans (skipLayout_comment.trans ?_)
      have : skipLayout (some (p.afterAll l)) ((p.afterAll l).after '{') (body ++ []) = _ := skipLayout_body h
      rwa [List.append_nil] at this
    have all := skip_append (l ++ '{' :: body) [] p
    rw [List.append_nil, Position.afterAll_append] at all
    unfold scan
    rw [past]
    exact congrArg _ all

/-! ### Every text has something to find -/

/-- A text is layout before its end or before a bare character, or there is an open comment in it. -/
theorem exists_layout (cs : List Char) :
    ∃ l rest, cs = l ++ rest ∧ Layout l ∧
      (rest = [] ∨ (∃ c ds, rest = c :: ds ∧ Bare c) ∨ ∃ body, rest = '{' :: body ∧ '}' ∉ body) := by
  -- After a comment the search goes on behind its brace, so the induction is on the length of the text.
  induction h : cs.length using Nat.strong_induction_on generalizing cs with
  | _ n ih =>
    rcases cs with _ | ⟨c, cs⟩
    · exact ⟨[], [], rfl, .none, .inl rfl⟩
    by_cases blank : Text.isBlank c = true
    · obtain ⟨l, rest, rfl, layout, found⟩ := ih cs.length (by simp [← h]) cs rfl
      exact ⟨c :: l, rest, rfl, .blank blank layout, found⟩
    by_cases brace : c = '{'
    · subst brace
      by_cases closed : '}' ∈ cs
      · obtain ⟨body, ds, rfl, first⟩ := List.eq_append_cons_of_mem closed
        obtain ⟨l, rest, rfl, layout, found⟩ := ih ds.length (by simp [← h]; omega) ds rfl
        exact ⟨'{' :: (body ++ '}' :: l), rest, by simp, .comment first layout, found⟩
      · exact ⟨[], _, rfl, .none, .inr (.inr ⟨cs, rfl, closed⟩)⟩
    · exact ⟨[], _, rfl, .none, .inr (.inl ⟨c, cs, rfl, Bool.eq_false_iff.mpr blank, brace⟩)⟩

theorem exists_numeral (cs : List Char) (h : c.isDigit = true) :
    ∃ n rest, c :: cs = n ++ rest ∧ MaximalNumeral n rest := by
  obtain ⟨ds, hds⟩ : ∃ ds, ds = (c :: cs).takeWhile Char.isDigit := ⟨_, rfl⟩
  obtain ⟨rest, hrest⟩ : ∃ rest, rest = (c :: cs).dropWhile Char.isDigit := ⟨_, rfl⟩
  have split : c :: cs = ds ++ rest := by
    rw [hds, hrest, List.takeWhile_append_dropWhile]
  have digits : Digits ds := by
    constructor
    · rw [hds, List.takeWhile_cons_of_pos h]
      exact List.cons_ne_nil _ _
    · intro d mem
      rw [hds] at mem
      exact List.mem_takeWhile_imp mem
  have ends : EndsRun Char.isDigit rest := by
    rw [hrest]
    exact endsRun_dropWhile _ _
  rw [split]
  by_cases fraction : ∃ d es, rest = '.' :: d :: es ∧ d.isDigit = true
  · obtain ⟨d, es, rfl, digit⟩ := fraction
    refine ⟨ds ++ '.' :: (d :: es).takeWhile Char.isDigit, (d :: es).dropWhile Char.isDigit, ?_, ?_⟩
    · rw [List.append_assoc, List.cons_append, List.takeWhile_append_dropWhile]
    · refine .real digits ⟨?_, fun e mem => List.mem_takeWhile_imp mem⟩ (endsRun_dropWhile _ _)
      rw [List.takeWhile_cons_of_pos digit]
      exact List.cons_ne_nil _ _
  · refine ⟨ds, rest, rfl, .integer digits ⟨ends, fun d es same => ?_⟩⟩
    rw [Bool.eq_false_iff]
    exact fun digit => fraction ⟨d, es, same, digit⟩

theorem Spells.first (h : Spells x t) : ∃ c cs, x = c :: cs ∧ StartsLexeme c := by
  have digit (cs) {ds} (h : Digits ds) : ∃ c es, ds ++ cs = c :: es ∧ StartsLexeme c := by
    obtain ⟨c, ds, rfl⟩ := List.exists_cons_of_ne_nil h.ne_nil
    exact ⟨c, _, rfl, .inr (.inl (h.digits c List.mem_cons_self))⟩
  cases h with
  | symbol s => cases s <;> exact ⟨_, _, rfl, .inr (.inr ⟨_, rfl⟩)⟩
  | keyword word | identifier word =>
    cases word with
    | mk first others => exact ⟨_, _, rfl, .inl first⟩
  | integer h => simpa using digit [] h
  | real whole => exact digit _ whole

theorem MaximalNumeral.bare (h : MaximalNumeral n rest) : ∀ c ∈ n, Bare c := by
  have digits {ds : List Char} (h : Digits ds) : ∀ c ∈ ds, Bare c := fun c mem => isDigit_bare (h.digits c mem)
  cases h with
  | integer h => exact digits h
  | real whole fraction =>
    have point : Bare '.' := (symbol_separate (s := .dot) rfl).1
    exact List.forall_mem_append.mpr ⟨digits whole, List.forall_mem_cons.mpr ⟨point, digits fraction⟩⟩

/-- No blank and no brace stands in a lexeme. -/
theorem Spells.bare (h : Spells x t) : ∀ c ∈ x, Bare c := by
  cases h with
  | symbol s =>
    cases s with
    | assign =>
      have equals : Bare '=' := ⟨rfl, by decide⟩
      exact List.forall_mem_cons.mpr ⟨(symbol_separate (s := .colon) rfl).1, List.forall_mem_singleton.mpr equals⟩
    | _ => exact List.forall_mem_singleton.mpr (symbol_separate rfl).1
  | keyword word | identifier word =>
    cases word with
    | mk first others =>
      exact List.forall_mem_cons.mpr ⟨(isWordStart_separate first).1, fun c mem => isWordPart_bare (others c mem)⟩
  | integer h => exact (MaximalNumeral.integer h ⟨endsRun_nil _, nofun⟩).bare
  | real whole fraction => exact (MaximalNumeral.real whole fraction (endsRun_nil _)).bare

theorem Spells.number (h : Spells (c :: cs) t) (digit : c.isDigit = true) : ∃ v, t = .number v := by
  generalize text : c :: cs = x at h
  cases h with
  | symbol s =>
    cases s <;>
      · obtain rfl : c = _ := List.head_eq_of_cons_eq text
        exact absurd digit (by decide)
  | keyword word | identifier word =>
    cases word with
    | mk first =>
      cases text
      exact nomatch digit.symm.trans (isWordStart_separate first).2
  | integer | real => exact ⟨_, rfl⟩

theorem ends_ofWord (h : EndsRun isWordPart rest) : Ends (.ofWord x) rest := by
  unfold Token.ofWord
  split <;> exact h

theorem exists_lexeme (cs : List Char) (start : StartsLexeme c) :
    ∃ x rest, c :: cs = x ++ rest ∧
      ((∃ t, Spells x t ∧ Ends t rest) ∨ MaximalNumeral x rest ∧ ∀ t, ¬Spells x t) := by
  rcases start with word | digit | ⟨s, symbol⟩
  · refine ⟨c :: cs.takeWhile isWordPart, cs.dropWhile isWordPart, ?_, .inl ⟨_, ofWord_spells ?_, ?_⟩⟩
    · rw [List.cons_append, List.takeWhile_append_dropWhile]
    · exact .mk word fun d mem => List.mem_takeWhile_imp mem
    · exact ends_ofWord (endsRun_dropWhile _ _)
  · obtain ⟨n, rest, same, numeral⟩ := exists_numeral cs digit
    refine ⟨n, rest, same, ?_⟩
    -- How far a numeral goes does not depend on whether its value is in range.
    by_cases value : ∃ v, Spells n (.number v)
    · obtain ⟨v, spells⟩ := value
      exact .inl ⟨_, spells, numeral.ends spells⟩
    · refine .inr ⟨numeral, fun t spells => ?_⟩
      obtain ⟨d, ds, rfl, -⟩ := spells.first
      cases same
      obtain ⟨v, rfl⟩ := spells.number digit
      exact value ⟨v, spells⟩
  · by_cases assign : c = ':' ∧ cs.head? = some '='
    · obtain ⟨rfl, next⟩ := assign
      obtain ⟨ds, rfl⟩ := List.head?_eq_some_iff.mp next
      exact ⟨[':', '='], ds, rfl, .inl ⟨_, .symbol .assign, trivial⟩⟩
    · have spells := Spells.symbol s
      rw [ofChar?_eq_some.mp symbol] at spells
      refine ⟨[c], cs, rfl, .inl ⟨_, spells, ?_⟩⟩
      cases s with
      | colon =>
        intro next
        exact assign ⟨(List.head_eq_of_cons_eq (ofChar?_eq_some.mp symbol)).symm, next⟩
      | _ => trivial

theorem exists_scanned (s : Cursor) : ∃ outcome u, Scanned s outcome u := by
  obtain ⟨cs, p⟩ := s
  obtain ⟨l, rest, rfl, layout, rfl | ⟨c, cs, rfl, bare⟩ | ⟨body, rfl, opened⟩⟩ := exists_layout cs
  · rw [List.append_nil]
    exact ⟨_, _, .nothing layout⟩
  · by_cases start : StartsLexeme c
    · obtain ⟨x, rest, same, ⟨t, spells, ends⟩ | ⟨numeral, none⟩⟩ := exists_lexeme cs start
      · rw [same]
        exact ⟨_, _, .token layout spells ends⟩
      · rw [same]
        exact ⟨_, _, .invalidNumber layout numeral none⟩
    · refine ⟨_, _, .unexpectedChar layout bare fun x rest t same spells => ?_⟩
      obtain ⟨d, ds, rfl, first⟩ := spells.first
      cases same
      exact start first
  · exact ⟨_, _, .unterminatedComment layout opened⟩

/-- A scan finds what there is to find, and nothing else. -/
theorem scan_iff {s u : Cursor} {outcome : Except LexError Lookahead} :
    s.scan = (outcome, u) ↔ Scanned s outcome u := by
  constructor
  · intro h
    obtain ⟨outcome', u', found⟩ := exists_scanned s
    cases h.symm.trans found.scan_eq
    exact found
  · exact Scanned.scan_eq

end Scan
end MiniPascal.Grammar
