import MiniPascal.Proofs.Printing.Expression

/-! # The texts of tokens

The text of a token is a lexeme of that token, unless it is a real that is written with an exponent. Exponents are for
reals below 10^-4, other than zero, and for those from 10^16 on. Without them the texts of tokens, with a blank between
each two, are scanned to the same tokens. -/

namespace MiniPascal
open Grammar Binary64

/-! ### Exponents -/

/-- Zero, or from 10^-4 up to 10^16, whatever the sign. -/
def Binary64.Moderate (x : Float) : Prop :=
  isZero x = true ∨ unitsPerOne ≤ 10 ^ 4 * units (magnitude x) ∧ units (magnitude x) < 10 ^ 16 * unitsPerOne

instance (x : Float) : Decidable (Moderate x) := inferInstanceAs (Decidable (_ ∨ _))

section Exponents
variable {x : Float} {m : Nat} {cs : List Char}

theorem nearest_tenthousandth_le_iff : nearest 1 10000 ≤ m ↔ unitsPerOne ≤ 10 ^ 4 * units m := by
  -- The double that is nearest to 10^-4 is above it, and the one before that is below.
  obtain ⟨a, next, below, above⟩ : ∃ a, nearest 1 10000 = a + 1 ∧
      10 ^ 4 * units a < unitsPerOne ∧ unitsPerOne ≤ 10 ^ 4 * units (a + 1) :=
    ⟨0x3F1A36E2EB1C432C, by decide +kernel, by decide +kernel, by decide +kernel⟩
  rw [next]
  constructor
  · intro le
    exact above.trans (Nat.mul_le_mul_left _ (units_strictMono.monotone le))
  · intro le
    by_contra less
    have least := Nat.mul_le_mul_left (10 ^ 4) (units_strictMono.monotone (Nat.lt_succ_iff.mp (Nat.not_le.mp less)))
    exact Nat.not_le.mpr below (le.trans least)

theorem lt_nearest_tenquadrillion_iff : m < nearest 10000000000000000 1 ↔ units m < 10 ^ 16 * unitsPerOne := by
  have value : units (nearest 10000000000000000 1) = 10 ^ 16 * unitsPerOne := by decide +kernel
  rw [← value, units_strictMono.lt_iff_lt]

theorem zero_rounds : Rounds ['0', '.', '0'] 0 :=
  ⟨['0'], ['0'], rfl, digits_zero, digits_zero, by decide +kernel⟩

theorem Rounds.not_mem {c : Char} (h : Rounds cs m) (digit : c.isDigit = false) (point : c ≠ '.') : c ∉ cs := by
  obtain ⟨ds, es, rfl, whole, fraction, -⟩ := h
  intro mem
  rcases List.mem_append.mp mem with mem | mem
  · exact nomatch digit.symm.trans (whole.digits c mem)
  rcases List.mem_cons.mp mem with same | mem
  · exact point same
  · exact nomatch digit.symm.trans (fraction.digits c mem)

theorem toList_realText (x : Float) : (Token.realText x).toList = (if isNegative x then ['-'] else []) ++
    if magnitude x = 0 then ['0', '.', '0']
    else if unitsPerOne ≤ 10 ^ 4 * units (magnitude x) ∧ units (magnitude x) < 10 ^ 16 * unitsPerOne then
      (shortest (magnitude x)).positional
    else (shortest (magnitude x)).scientific := by
  simp only [← nearest_tenthousandth_le_iff, ← lt_nearest_tenquadrillion_iff]
  unfold Token.realText
  dsimp only
  rw [String.toList_append, String.toList_ofList]
  cases isNegative x <;> rfl

/-- The text of a moderate real is its sign and a decimal that is rounded to its magnitude. -/
theorem realText_of_moderate (h : Moderate x) :
    ∃ cs, Rounds cs (magnitude x) ∧ (Token.realText x).toList = (if isNegative x then ['-'] else []) ++ cs := by
  refine ⟨_, ?_, toList_realText x⟩
  split
  · next zero =>
    rw [zero]
    exact zero_rounds
  · next nonzero =>
    have inside := h.resolve_left fun zero => nonzero (of_decide_eq_true zero)
    rw [if_pos inside]
    refine shortest_rounds (Nat.pos_of_ne_zero nonzero) ?_
    exact (lt_nearest_tenquadrillion_iff.mpr inside.2).trans_le (nearest_le_infinity _ _)

/-- The text of any other real has an exponent. -/
theorem realText_of_not_moderate (h : ¬Moderate x) : 'e' ∈ (Token.realText x).toList := by
  obtain ⟨nonzero, outside⟩ := not_or.mp h
  rw [toList_realText, if_neg fun zero => nonzero (decide_eq_true zero), if_neg outside]
  exact List.mem_append_right _ (List.mem_append_right _ List.mem_cons_self)

theorem moderate_iff : Moderate x ↔ 'e' ∉ (Token.realText x).toList := by
  constructor
  · intro h
    obtain ⟨cs, rounds, text⟩ := realText_of_moderate h
    rw [text, List.mem_append, not_or]
    refine ⟨?_, rounds.not_mem (by decide) (by decide)⟩
    split <;> decide
  · exact fun h => not_not.mp fun other => h (realText_of_not_moderate other)

end Exponents

/-! ### Lexemes -/

/-- The text of a token that has a spelling is one, unless it has an exponent. -/
theorem Token.text_spells {t : Token} {cs : List Char} (h : Spells cs t)
    (moderate : ∀ x, t = .number (.real x) → Moderate x) : Spells t.text.toList t := by
  cases t with
  | symbol s => exact .symbol s
  | keyword k => exact k.spells
  | identifier => exact h.of_identifier
  | number v =>
    cases h with
    | integer _ value => exact int_spells (value ▸ Int.natCast_nonneg _)
    | @real _ _ x _ _ finite positive =>
      obtain ⟨cs, rounds, text⟩ := realText_of_moderate (moderate x rfl)
      rw [positive, if_neg Bool.false_ne_true, List.nil_append] at text
      rw [Token.text, text]
      exact rounds.spells finite positive

/-- Lexemes of tokens with a blank between each two write the tokens. -/
theorem writes_intercalate {ts : List Token} (h : ∀ t ∈ ts, Spells t.text.toList t) :
    Writes (" ".intercalate (ts.map Token.text)).toList ts := by
  induction ts with
  | nil => exact .nil
  | cons t ts ih =>
    obtain ⟨first, others⟩ := List.forall_mem_cons.mp h
    cases ts with
    | nil => simpa using Writes.token first
    | cons u us => simpa using (Writes.token first).append_blank (ih others)

/-- The texts of the tokens of a text, with a blank between each two, are scanned to these tokens, if all reals among
them are moderate, which is so if none of their texts has an exponent. -/
theorem texts_of_tokens_scan_back {text : String} {ts : List Token} (scanned : TokenStream.ofText text = ⟨ts, none⟩) :
    (∀ x, .number (.real x) ∈ ts → (Moderate x ↔ 'e' ∉ (Token.number (.real x)).text.toList)) ∧
      ((∀ x, .number (.real x) ∈ ts → Moderate x) →
        TokenStream.ofText (" ".intercalate (ts.map Token.text)) = ⟨ts, none⟩) := by
  refine ⟨fun x _ => moderate_iff, fun moderate => ?_⟩
  have spelled : Spelled ts := by
    have all := spelled_ofText text
    rwa [scanned] at all
  refine (writes_intercalate fun t mem => ?_).ofText
  obtain ⟨x, spells⟩ := spelled t mem
  exact Token.text_spells spells fun x same => moderate x (same ▸ mem)

theorem texts_of_tokens_scan_back_of_quotient :
    let ts : List Token := [.identifier "Größe", .symbol .assign, .number (.int 1), .symbol .dot, .keyword .integerDiv,
      .number (.int 7), .symbol .times, .number (.real 0.5)]
    TokenStream.ofText "Größe:=1. dıv 007*0.50" = ⟨ts, none⟩ ∧
      " ".intercalate (ts.map Token.text) = "Größe := 1 . DIV 7 * 0.5" ∧
      TokenStream.ofText "Größe := 1 . DIV 7 * 0.5" = ⟨ts, none⟩ := by
  intro ts
  have scanned : TokenStream.ofText "Größe:=1. dıv 007*0.50" = ⟨ts, none⟩ := by decide +kernel
  have joined : " ".intercalate (ts.map Token.text) = "Größe := 1 . DIV 7 * 0.5" := by decide +kernel
  have moderate : ∀ x, .number (.real x) ∈ ts → Moderate x := by
    intro x mem
    simp only [ts, List.mem_cons, List.not_mem_nil, reduceCtorEq, Token.number.injEq, Value.real.injEq, or_false,
      false_or] at mem
    rw [mem]
    decide +kernel
  exact ⟨scanned, joined, joined ▸ (texts_of_tokens_scan_back scanned).2 moderate⟩

end MiniPascal
