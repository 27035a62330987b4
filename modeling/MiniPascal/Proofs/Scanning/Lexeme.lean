import MiniPascal.Binary64.Bits
import MiniPascal.Proofs.Scanning.Characters

/-! # Scanning one lexeme

From the first character of a lexeme on, exactly the lexeme is taken and gives its token. For a numeral this is
so even if it has no value. -/

namespace MiniPascal.Grammar

/-! ### Runs of characters -/

section Run
variable {p : Char → Bool} {cs rest : List Char}

theorem endsRun_nil (p : Char → Bool) : EndsRun p [] := by
  intro c h
  cases h

theorem EndsRun.takeWhile (ends : EndsRun p rest) : rest.takeWhile p = [] := by
  rcases rest with _ | ⟨c, rest⟩
  · rfl
  · exact List.takeWhile_cons_of_neg (by simp [ends c rfl])

theorem takeWhile_run (h : ∀ c ∈ cs, p c = true) (ends : EndsRun p rest) : (cs ++ rest).takeWhile p = cs := by
  rw [List.takeWhile_append_of_pos h, ends.takeWhile, List.append_nil]

theorem dropWhile_run (h : ∀ c ∈ cs, p c = true) (ends : EndsRun p rest) : (cs ++ rest).dropWhile p = rest := by
  have split := List.takeWhile_append_dropWhile (p := p) (l := cs ++ rest)
  rw [takeWhile_run h ends] at split
  exact List.append_cancel_left split

theorem endsRun_dropWhile (p : Char → Bool) (cs : List Char) : EndsRun p (cs.dropWhile p) := by
  intro c h
  have := List.head?_dropWhile_not p cs
  rw [h] at this
  simpa using this

end Run

/-! ### Words -/

theorem keyword_ofText?_eq_some {s : String} {k : Keyword} : Keyword.ofText? s = some k ↔ k.text = s := by
  constructor
  · intro h
    simpa using List.find?_some h
  · rintro rfl
    cases k <;> rfl

theorem keyword_ofText?_eq_none {s : String} : Keyword.ofText? s = none ↔ ∀ k : Keyword, k.text ≠ s := by
  constructor
  · intro h k same
    exact nomatch h.symm.trans (keyword_ofText?_eq_some.mpr same)
  · intro h
    rcases found : Keyword.ofText? s with _ | k
    · rfl
    · exact absurd (keyword_ofText?_eq_some.mp found) (h k)

theorem uppercase_spells {cs : List Char} {k : Keyword} :
    Text.uppercase cs = k.text.toList ↔ k.text = String.ofList (Text.uppercase cs) := by
  constructor
  · intro h
    rw [h, String.ofList_toList]
  · intro h
    rw [h, String.toList_ofList]

theorem ofWord_spells {cs : List Char} (word : Word cs) : Spells cs (.ofWord cs) := by
  unfold Token.ofWord
  rcases found : Keyword.ofText? (String.ofList (Text.uppercase cs)) with _ | k
  · refine .identifier word fun k same => ?_
    exact keyword_ofText?_eq_none.mp found k (uppercase_spells.mp same)
  · exact .keyword word (uppercase_spells.mpr (keyword_ofText?_eq_some.mp found))

theorem ofWord_of_keyword {cs : List Char} {k : Keyword} (h : Text.uppercase cs = k.text.toList) :
    Token.ofWord cs = .keyword k := by
  unfold Token.ofWord
  rw [keyword_ofText?_eq_some.mpr (uppercase_spells.mp h)]

theorem ofWord_of_identifier {cs : List Char} (h : ∀ k : Keyword, Text.uppercase cs ≠ k.text.toList) :
    Token.ofWord cs = .identifier (String.ofList cs) := by
  unfold Token.ofWord
  rw [keyword_ofText?_eq_none.mpr fun k same => h k (uppercase_spells.mpr same)]

/-! ### Numerals -/

section Numeral
variable {ds es rest : List Char}

theorem endsRun_point (rest : List Char) : EndsRun Char.isDigit ('.' :: rest) := by
  intro c h
  cases h
  rfl

theorem numeral_of_integer (h : Digits ds) (ends : EndsInteger rest) : Numeral.ofText (ds ++ rest) = ⟨ds, []⟩ := by
  unfold Numeral.ofText
  rw [takeWhile_run h.digits ends.1, dropWhile_run h.digits ends.1]
  split
  · rename_i fs
    have none : EndsRun Char.isDigit fs := by
      intro c hc
      obtain ⟨gs, rfl⟩ := List.head?_eq_some_iff.mp hc
      exact ends.2 c gs rfl
    rw [none.takeWhile]
  · rfl

theorem numeral_of_real (whole : Digits ds) (fraction : Digits es) (ends : EndsRun Char.isDigit rest) :
    Numeral.ofText (ds ++ '.' :: es ++ rest) = ⟨ds, es⟩ := by
  unfold Numeral.ofText
  rw [List.append_assoc, List.cons_append, takeWhile_run whole.digits (endsRun_point _),
    dropWhile_run whole.digits (endsRun_point _)]
  simp only
  rw [takeWhile_run fraction.digits ends]

theorem not_digits_point : ¬Digits (ds ++ '.' :: es) := by
  intro h
  exact absurd (h.digits '.' (by simp)) (by decide)

theorem integer_value {v : Value} (h : Digits ds) : (Numeral.mk ds []).value? = some v ↔ Spells ds (.number v) := by
  have value : (Numeral.mk ds []).value? = Value.ofInteger? (Numeral.digitsValue ds) := by
    unfold Numeral.value?
    exact if_pos rfl
  rw [value]
  unfold Value.ofInteger?
  constructor
  · intro some
    split at some
    · rename_i bounds
      cases some
      rw [Int64.toInt_minValue, Int64.toInt_maxValue] at bounds
      exact .integer h (Int64.toInt_ofInt_of_le bounds.1 (by omega))
    · cases some
  · intro spells
    cases spells with
    | @integer _ n _ value =>
      rw [← value, if_pos ⟨n.minValue_le_toInt, n.toInt_le⟩, Int64.ofInt_toInt]
    | real => exact absurd h not_digits_point

theorem real_value {v : Value} (whole : Digits ds) (fraction : Digits es) :
    (Numeral.mk ds es).value? = some v ↔ Spells (ds ++ '.' :: es) (.number v) := by
  obtain ⟨m, hm⟩ : ∃ m, m = Binary64.nearest (Numeral.digitsValue (ds ++ es)) (10 ^ es.length) := ⟨_, rfl⟩
  have nearest : Binary64.IsNearest (Numeral.digitsValue (ds ++ es)) (10 ^ es.length) m := by
    rw [hm]
    exact Binary64.nearest_isNearest (Nat.pow_pos (by decide))
  have value : (Numeral.mk ds es).value? = Value.ofReal? (Binary64.make false m) := by
    unfold Numeral.value?
    simp only [Nat.pow_eq]
    rw [if_neg (by simpa using fraction.ne_nil), hm]
  have magnitude : Binary64.magnitude (Binary64.make false m) = m := Binary64.magnitude_make nearest.le_infinity
  rw [value]
  unfold Value.ofReal?
  constructor
  · intro some
    split at some
    · rename_i finite
      cases some
      exact .real whole fraction finite (Binary64.isNegative_make nearest.le_infinity) (by rwa [magnitude])
    · cases some
  · intro spells
    generalize text : ds ++ '.' :: es = cs at spells
    cases spells with
    | integer h =>
      rw [← text] at h
      exact absurd h not_digits_point
    | @real ds' es' x whole' fraction' finite sign rounded =>
      -- The point splits the text in one way only, and only one magnitude is nearest.
      have split := numeral_of_real whole fraction (endsRun_nil _)
      rw [text, numeral_of_real whole' fraction' (endsRun_nil _)] at split
      cases split
      have same := rounded.unique (Nat.pow_pos (by decide)) nearest
      have made := Binary64.make_isNegative_magnitude rounded.le_infinity
      rw [sign, same] at made
      rw [made, if_pos finite]

theorem MaximalNumeral.digit {n : List Char} (h : MaximalNumeral n rest) :
    ∃ c cs, n = c :: cs ∧ c.isDigit = true := by
  cases h with
  | integer h | real h =>
    obtain ⟨c, cs, rfl⟩ := List.exists_cons_of_ne_nil h.ne_nil
    exact ⟨c, _, rfl, h.digits c List.mem_cons_self⟩

/-- A maximal numeral is what is scanned as one, and its value is the one that it spells. -/
theorem MaximalNumeral.scanned {n : List Char} (h : MaximalNumeral n rest) :
    (Numeral.ofText (n ++ rest)).text = n ∧
      ∀ v, (Numeral.ofText (n ++ rest)).value? = some v ↔ Spells n (.number v) := by
  cases h with
  | integer h ends =>
    rw [numeral_of_integer h ends]
    exact ⟨rfl, fun v => integer_value h⟩
  | real whole fraction ends =>
    rw [numeral_of_real whole fraction ends]
    refine ⟨?_, fun v => real_value whole fraction⟩
    unfold Numeral.text
    rw [if_neg (by simpa using fraction.ne_nil)]

theorem Spells.maximal {n : List Char} {v : Value} (h : Spells n (.number v)) (ends : Ends (.number v) rest) :
    MaximalNumeral n rest := by
  cases h with
  | integer h => exact .integer h ends
  | real whole fraction => exact .real whole fraction ends

theorem MaximalNumeral.ends {n : List Char} {v : Value} (h : MaximalNumeral n rest) (spells : Spells n (.number v)) :
    Ends (.number v) rest := by
  cases h with
  | integer digits ends =>
    cases spells with
    | integer => exact ends
    | real => exact absurd digits not_digits_point
  | @real ds es _ whole fraction ends =>
    generalize text : ds ++ '.' :: es = n at spells
    cases spells with
    | integer digits =>
      rw [← text] at digits
      exact absurd digits not_digits_point
    | real => exact ends

end Numeral
end MiniPascal.Grammar
