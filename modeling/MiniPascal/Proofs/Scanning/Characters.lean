import MiniPascal.Proofs.Grammar.Lexeme

/-! # What tokens start with

The first character of a lexeme says of which kind it is: the signs, the digits and the letters are different
characters, and none of them is a blank or an opening brace. -/

namespace MiniPascal
namespace Text.CodePoints

/-- Whether no range of one set meets a range of the other. -/
def apart (s t : CodePoints) : Bool :=
  s.ranges.all fun r => t.ranges.all fun q => Nat.blt r.2 q.1 || Nat.blt q.2 r.1

theorem contains_of_apart {s t : CodePoints} (h : s.apart t = true) {c : Char} (hs : s.contains c = true) :
    t.contains c = false := by
  rw [Bool.eq_false_iff]
  intro ht
  obtain ⟨r, hr, low, high⟩ := contains_iff.mp hs
  obtain ⟨q, hq, low', high'⟩ := contains_iff.mp ht
  have := List.all_eq_true.mp (List.all_eq_true.mp h r hr) q hq
  simp only [Bool.or_eq_true, Nat.blt_eq] at this
  omega

end Text.CodePoints

namespace Grammar
open Text

/-- The ten digits. -/
def digitPoints : CodePoints := ⟨[(48, 57)]⟩

/-- The one-character signs and the opening brace. -/
def markPoints : CodePoints := ⟨[(40, 47), (58, 59), (123, 123)]⟩

theorem apart_alphanumeric : ∀ s ∈ [blank, markPoints], s.apart alphabetic = true ∧ s.apart numeric = true := by
  decide +kernel

theorem digits_apart : digitPoints.apart alphabetic = true := by decide +kernel

theorem isDigit_eq (c : Char) : c.isDigit = digitPoints.contains c := by
  unfold Char.isDigit CodePoints.contains digitPoints
  simp only [List.any_cons, List.any_nil, Bool.or_false, UInt32.le_iff_toNat_le, ge_iff_le]
  rfl

theorem isAlphabetic_of_isDigit {c : Char} (h : c.isDigit = true) : isAlphabetic c = false :=
  CodePoints.contains_of_apart digits_apart (isDigit_eq c ▸ h)

theorem isDigit_of_isBlank {c : Char} (h : isBlank c = true) : c.isDigit = false :=
  (isDigit_eq c).trans (CodePoints.contains_of_apart (by rfl) h)

theorem isAlphanumeric_of_apart {s : CodePoints} (h : s ∈ [blank, markPoints]) {c : Char}
    (hs : s.contains c = true) : isAlphanumeric c = false := by
  have letter : isAlphabetic c = false := CodePoints.contains_of_apart (apart_alphanumeric s h).1 hs
  have number : isNumeric c = false := CodePoints.contains_of_apart (apart_alphanumeric s h).2 hs
  rw [isAlphanumeric, letter, number]
  rfl

theorem isAlphanumeric_of_isBlank {c : Char} (h : isBlank c = true) : isAlphanumeric c = false :=
  isAlphanumeric_of_apart (by simp) h

theorem ofChar?_eq_some {c : Char} {s : Symbol} : Symbol.ofChar? c = some s ↔ s.text.toList = [c] := by
  constructor
  · unfold Symbol.ofChar?
    split <;> rintro ⟨⟩ <;> rfl
  · intro h
    cases s with
    | assign => cases h
    | _ =>
      obtain rfl : _ = c := List.head_eq_of_cons_eq h
      rfl

theorem mark_of_ofChar? {c : Char} {s : Symbol} (h : Symbol.ofChar? c = some s) :
    markPoints.contains c = true ∧ c ≠ '{' ∧ c ≠ '_' := by
  unfold Symbol.ofChar? at h
  split at h <;> first | cases h; done | exact ⟨rfl, by decide, by decide⟩

/-- The one-character signs are neither blanks, nor braces, digits or letters. -/
theorem symbol_separate {c : Char} {s : Symbol} (h : Symbol.ofChar? c = some s) :
    Bare c ∧ c.isDigit = false ∧ isWordStart c = false := by
  obtain ⟨mark, brace, underscore⟩ := mark_of_ofChar? h
  have letter : isAlphabetic c = false :=
    CodePoints.contains_of_apart (apart_alphanumeric markPoints (by simp)).1 mark
  refine ⟨⟨CodePoints.contains_of_apart (by rfl) mark, brace⟩, ?_, ?_⟩
  · exact (isDigit_eq c).trans (CodePoints.contains_of_apart (by rfl) mark)
  · rw [isWordStart, letter, Bool.false_or, beq_eq_false_iff_ne]
    exact underscore

/-- A word goes on with bare characters only. -/
theorem isWordPart_bare {c : Char} (h : isWordPart c = true) : Bare c := by
  rcases Bool.or_eq_true_iff.mp h with part | underscore
  · constructor
    · rw [Bool.eq_false_iff]
      intro blank
      exact nomatch part.symm.trans (isAlphanumeric_of_isBlank blank)
    · rintro rfl
      exact nomatch part.symm.trans (isAlphanumeric_of_apart (s := markPoints) (by simp) rfl)
  · obtain rfl : c = '_' := by simpa using underscore
    exact ⟨rfl, by decide⟩

theorem isWordStart_separate {c : Char} (h : isWordStart c = true) : Bare c ∧ c.isDigit = false := by
  refine ⟨isWordPart_bare (Cursor.isWordPart_of_isWordStart h), ?_⟩
  rcases Bool.or_eq_true_iff.mp h with letter | underscore
  · rw [Bool.eq_false_iff]
    intro digit
    exact nomatch letter.symm.trans (isAlphabetic_of_isDigit digit)
  · obtain rfl : c = '_' := by simpa using underscore
    rfl

theorem isWordPart_of_isDigit {c : Char} (h : c.isDigit = true) : isWordPart c = true := by
  have number : isNumeric c = true :=
    CodePoints.contains_iff.mpr ⟨(0x30, 0x39), .head _, Char.isDigit_iff_toNat.mp h⟩
  rw [isWordPart, isAlphanumeric, number, Bool.or_true, Bool.true_or]

theorem ofChar?_of_isWordStart {c : Char} (h : isWordStart c = true) : Symbol.ofChar? c = none := by
  rcases symbol : Symbol.ofChar? c with _ | s
  · rfl
  · exact nomatch h.symm.trans (symbol_separate symbol).2.2

theorem ofChar?_of_isDigit {c : Char} (h : c.isDigit = true) : Symbol.ofChar? c = none := by
  rcases symbol : Symbol.ofChar? c with _ | s
  · rfl
  · exact nomatch h.symm.trans (symbol_separate symbol).2.1

theorem isDigit_bare {c : Char} (h : c.isDigit = true) : Bare c := by
  constructor
  · rw [Bool.eq_false_iff]
    intro blank
    exact nomatch h.symm.trans (isDigit_of_isBlank blank)
  · rintro rfl
    exact absurd h (by decide)

end Grammar
end MiniPascal
