import Mathlib.Data.List.DropRight
import MiniPascal.Proofs.Scanning.Scan

/-! # Places of errors

A position tells one place of a text. A scan starts at a place outside every comment that does not cut a run of
digits, and it ends at such a place or at the end of the text. So an error of a scan has the position of the character,
the brace or the numeral that it is about. -/

namespace MiniPascal
open Grammar

/-- The place between `before` and `rest`: the line is counted from the line feeds before it, and the column from the
characters since the last of them. -/
structure Position.Locates (p : Position) (text before rest : List Char) : Prop where
  split : text = before ++ rest
  line : p.line = before.count '\n' + 1
  column : p.column = (before.rtakeWhile (· ≠ '\n')).length + 1

/-- Characters outside comments, and whole comments. -/
inductive Uncommented : List Char → Prop
  | nil : Uncommented []
  | char {c cs} (h : c ≠ '{') (rest : Uncommented cs) : Uncommented (c :: cs)
  | comment {body cs} (h : '}' ∉ body) (rest : Uncommented cs) : Uncommented ('{' :: (body ++ '}' :: cs))

/-- A numeral whose value is more than the greatest integer, or too large to be rounded to a finite double. -/
inductive OutOfRange : List Char → Prop
  | integer {ds} (h : Digits ds) (large : 2 ^ 63 - 1 < Numeral.digitsValue ds) : OutOfRange ds
  | real {ds es} (whole : Digits ds) (fraction : Digits es)
      (infinite : Binary64.IsNearest (Numeral.digitsValue (ds ++ es)) (10 ^ es.length) Binary64.infinity) :
      OutOfRange (ds ++ '.' :: es)

/-- No digit stands before the place. -/
def StartsRun (before : List Char) : Prop :=
  ∀ c, before.getLast? = some c → c.isDigit = false

/-- The error has the position of what it is about: a character that no lexeme starts with, the brace of a comment
that is not closed, or a whole numeral that is out of range. -/
inductive LexError.PointsInto (text : List Char) : LexError → Prop
  | unexpectedChar {before rest c p} (place : p.Locates text before (c :: rest)) (outside : Uncommented before)
      (brace : c ≠ '{') (h : ∀ x t, ¬Spells (c :: x) t) : PointsInto text (.unexpectedChar c p)
  | unterminatedComment {before body p} (place : p.Locates text before ('{' :: body)) (outside : Uncommented before)
      (h : '}' ∉ body) : PointsInto text (.unterminatedComment p)
  | invalidNumber {before n rest p} (place : p.Locates text before (n ++ rest)) (outside : Uncommented before)
      (starts : StartsRun before) (ends : MaximalNumeral n rest) (h : OutOfRange n) :
      PointsInto text (.invalidNumber (String.ofList n) p)

/-! ### Positions -/

namespace Position.Locates
variable {p : Position} {c : Char} {text before before' rest rest' : List Char}

theorem start (text : List Char) : Position.start.Locates text [] text := ⟨rfl, rfl, rfl⟩

theorem after (h : p.Locates text before (c :: rest)) : (p.after c).Locates text (before ++ [c]) rest := by
  have split : text = before ++ [c] ++ rest := h.split.trans (List.append_cons before c rest)
  by_cases feed : c = '\n'
  · subst feed
    exact ⟨split, by simp [Position.after, h.line], by simp [Position.after]⟩
  · exact ⟨split, by simp [Position.after, feed, h.line], by simp [Position.after, feed, h.column]⟩

theorem afterAll {x : List Char} (h : p.Locates text before (x ++ rest)) :
    (p.afterAll x).Locates text (before ++ x) rest := by
  induction x generalizing p before with
  | nil => simpa using h
  | cons c x ih => simpa using ih h.after

/-- Characters that do not change the position are none. -/
theorem eq_nil_of_append {between : List Char} (h : p.Locates text before rest)
    (h' : p.Locates text (before ++ between) rest') : between = [] := by
  have lines := h.line.symm.trans h'.line
  have columns := h.column.symm.trans h'.column
  rw [List.count_append] at lines
  have none : '\n' ∉ between := List.count_eq_zero.mp (by omega)
  have passed : ∀ c ∈ between.reverse, decide (c ≠ '\n') = true := by
    simpa using fun c mem => ne_of_mem_of_not_mem mem none
  rw [List.rtakeWhile, List.rtakeWhile, List.reverse_append, List.takeWhile_append_of_pos passed] at columns
  simpa using columns

/-- A position tells at most one place. -/
theorem unique (h : p.Locates text before rest) (h' : p.Locates text before' rest') :
    before = before' ∧ rest = rest' := by
  rcases List.append_eq_append_iff.mp (h.split.symm.trans h'.split) with ⟨between, rfl, rfl⟩ | ⟨between, rfl, rfl⟩
  · obtain rfl := h.eq_nil_of_append h'
    simp
  · obtain rfl := h'.eq_nil_of_append h
    simp

end Position.Locates

/-! ### Comments -/

namespace Uncommented
variable {x y : List Char}

theorem append (h : Uncommented x) (h' : Uncommented y) : Uncommented (x ++ y) := by
  induction h with
  | nil => exact h'
  | char first _ ih => exact .char first ih
  | comment body _ ih => simpa using Uncommented.comment body ih

theorem of_layout (h : Layout x) : Uncommented x := by
  induction h with
  | none => exact .nil
  | blank blank _ ih =>
    refine .char ?_ ih
    rintro rfl
    exact absurd blank (by decide)
  | comment body _ ih => exact .comment body ih

theorem of_bare (h : ∀ c ∈ x, Bare c) : Uncommented x := by
  induction x with
  | nil => exact .nil
  | cons c x ih => exact .char (h c List.mem_cons_self).2 (ih fun d mem => h d (.tail _ mem))

end Uncommented

/-! ### Numerals -/

section
variable {l n x before rest : List Char} {t : Token}

theorem Grammar.MaximalNumeral.endsRun (h : MaximalNumeral n rest) : EndsRun Char.isDigit rest := by
  cases h with
  | integer _ ends => exact ends.1
  | real _ _ ends => exact ends

/-- A numeral that spells no number is out of range. -/
theorem Grammar.MaximalNumeral.outOfRange (h : MaximalNumeral n rest) (none : ∀ t, ¬Spells n t) : OutOfRange n := by
  cases h with
  | integer digits =>
    refine .integer digits (Nat.lt_of_not_le fun small => ?_)
    exact none _ (.integer digits (Int64.toInt_ofInt_of_le (n := Numeral.digitsValue n) (by omega) (by omega)))
  | @real ds es _ whole fraction =>
    obtain ⟨m, nearest⟩ : ∃ m, Binary64.IsNearest (Numeral.digitsValue (ds ++ es)) (10 ^ es.length) m :=
      ⟨_, Binary64.nearest_isNearest (Nat.pow_pos (by decide))⟩
    -- If the nearest magnitude were finite, the numeral would spell a number.
    rcases Nat.lt_or_eq_of_le nearest.le_infinity with small | rfl
    · have magnitude : Binary64.magnitude (Binary64.make false m) = m := Binary64.magnitude_make nearest.le_infinity
      have finite : Binary64.isFinite (Binary64.make false m) = true := by
        rw [Binary64.isFinite, magnitude]
        exact decide_eq_true small
      have spells := Spells.real whole fraction finite (Binary64.isNegative_make nearest.le_infinity)
        (magnitude.symm ▸ nearest)
      exact absurd spells (none _)
    · exact .real whole fraction nearest

/-! ### Places where scans start -/

/-- No run of digits goes over the place. -/
def BetweenRuns (before rest : List Char) : Prop :=
  StartsRun before ∨ EndsRun Char.isDigit rest

theorem startsRun_append (nonempty : x ≠ []) (last : StartsRun x) : StartsRun (before ++ x) := by
  intro c mem
  rw [List.getLast?_append_of_ne_nil before nonempty] at mem
  exact last c mem

theorem startsRun_cons {c : Char} (first : c.isDigit = false) (last : StartsRun x) : StartsRun (c :: x) := by
  intro d mem
  rw [List.getLast?_cons] at mem
  rcases others : x.getLast? with _ | e <;> rw [others] at mem <;> cases mem
  · exact first
  · exact last e others

theorem startsRun_layout (h : Layout l) : StartsRun l := by
  induction h with
  | none => exact nofun
  | blank blank _ ih => exact startsRun_cons (isDigit_of_isBlank blank) ih
  | @comment body cs _ _ ih =>
    have closed : StartsRun ('}' :: cs) := startsRun_cons rfl ih
    rw [← List.cons_append]
    exact startsRun_append (List.cons_ne_nil _ _) closed

theorem startsRun_symbol (s : Symbol) : StartsRun s.text.toList := by
  intro c mem
  cases s <;>
    · cases mem
      rfl

theorem BetweenRuns.past_layout (h : BetweenRuns before (l ++ rest)) (layout : Layout l) :
    BetweenRuns (before ++ l) rest := by
  rcases eq_or_ne l [] with rfl | nonempty
  · simpa using h
  · exact .inl (startsRun_append nonempty (startsRun_layout layout))

theorem BetweenRuns.past_lexeme (h : Spells x t) (ends : Ends t rest) : BetweenRuns (before ++ x) rest := by
  have word (ends : EndsRun isWordPart rest) : EndsRun Char.isDigit rest := by
    intro c next
    rw [Bool.eq_false_iff]
    exact fun digit => nomatch (isWordPart_of_isDigit digit).symm.trans (ends c next)
  obtain ⟨c, cs, nonempty, -⟩ := h.first
  cases h with
  | symbol s => exact .inl (startsRun_append (nonempty ▸ List.cons_ne_nil c cs) (startsRun_symbol s))
  | keyword | identifier => exact .inr (word ends)
  | integer => exact .inr ends.1
  | real => exact .inr ends

theorem BetweenRuns.startsRun (h : BetweenRuns before (n ++ rest)) (numeral : MaximalNumeral n rest) :
    StartsRun before := by
  obtain ⟨c, cs, rfl, digit⟩ := numeral.digit
  exact h.resolve_right fun ends => nomatch digit.symm.trans (ends c rfl)

/-- Where a scan starts: at the end of the text, or at a place outside every comment and between runs of digits. -/
inductive Reached (text : List Char) : Cursor → Prop
  | finished {p} : Reached text ⟨[], p⟩
  | between {before rest p} (place : p.Locates text before rest) (outside : Uncommented before)
      (runs : BetweenRuns before rest) : Reached text ⟨rest, p⟩

/-- A scan that starts at such a place ends at one, and its error points into the text. -/
theorem Reached.scanned {text : List Char} {c u : Cursor} {outcome : Except LexError Lookahead} (h : Reached text c)
    (found : Scanned c outcome u) : Reached text u ∧ ∀ e, outcome = .error e → e.PointsInto text := by
  cases h with
  | @finished p =>
    -- What a scan finds is determined, and here it finds nothing.
    have nothing : Scanned ⟨[], p⟩ (.ok none) ⟨[], p⟩ := .nothing .none
    cases nothing.scan_eq.symm.trans found.scan_eq
    exact ⟨.finished, nofun⟩
  | @between before _ p place outside runs =>
    cases found with
    | nothing => exact ⟨.finished, nofun⟩
    | token layout spells ends =>
      have passed := (outside.append (.of_layout layout)).append (.of_bare spells.bare)
      exact ⟨.between place.afterAll.afterAll passed (.past_lexeme spells ends), nofun⟩
    | unexpectedChar layout bare none =>
      have passed := outside.append (.of_layout layout)
      refine ⟨.between place.afterAll passed (runs.past_layout layout), ?_⟩
      rintro _ ⟨⟩
      refine .unexpectedChar place.afterAll passed bare.2 fun x t spells => ?_
      obtain ⟨d, ds, same, start⟩ := spells.first
      cases same
      obtain ⟨u, single⟩ := start.spells
      exact none _ _ u rfl single
    | invalidNumber layout numeral none =>
      have passed := outside.append (.of_layout layout)
      refine ⟨.between place.afterAll.afterAll (passed.append (.of_bare numeral.bare)) (.inr numeral.endsRun), ?_⟩
      rintro _ ⟨⟩
      exact .invalidNumber place.afterAll passed ((runs.past_layout layout).startsRun numeral) numeral
        (numeral.outOfRange none)
    | unterminatedComment layout opened =>
      refine ⟨.finished, ?_⟩
      rintro _ ⟨⟩
      exact .unterminatedComment place.afterAll (outside.append (.of_layout layout)) opened

end

end MiniPascal
