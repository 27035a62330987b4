import MiniPascal.Proofs.Folding.CaseMaps
import MiniPascal.Proofs.Printing.Writing
import MiniPascal.Tree.Basic

/-! # The two foldings of words

A keyword is recognized in upper case, and a variable is kept under its lower case. Neither folding refines the other:
`ı` and `i` share only their upper case, the Kelvin sign and `k` only their lower case. But few characters share the
lower case of one that a keyword is spelled with, and those share its upper case too, so no key belongs to a keyword and
to an identifier. -/

namespace MiniPascal
open Grammar Text

/-! ### The letters of keywords -/

namespace Keyword

/-- The capitals of all keywords. -/
def capitals : List Char := (all.flatMap (·.text.toList)).eraseDups

/-- What a keyword may be spelled with: its capitals, their small letters, and the dotless `ı`. -/
def letters : List Char := 'ı' :: capitals ++ capitals.map Char.toLower

theorem mem_capitals {c : Char} (k : Keyword) (h : c ∈ k.text.toList) : c ∈ capitals :=
  List.mem_eraseDups.mpr (List.mem_flatMap.mpr ⟨k, by cases k <;> decide, h⟩)

theorem upperMap_draws : upperMap.draws letters capitals = true := by decide +kernel

theorem lowerMap_draws : lowerMap.draws letters letters = true := by decide +kernel

/-- Whether the lower case of the character is made of such letters, and its upper case does not tell them apart. -/
def keepsUpper (c : Char) : Bool :=
  c != 'Σ' && (lowerMap.apply c).all letters.contains && uppercase (lowerMap.apply c) == upperMap.apply c

theorem letters_keepUpper : letters.all keepsUpper = true := by decide +kernel

theorem sigma_not_letter (final : Bool) : (if final then 'ς' else 'σ') ∉ letters := by
  cases final <;> decide +kernel

variable {k : Keyword} {before cs ds : List Char} {c : Char}

theorem lower_of_letter (h : c ∈ letters) :
    c ≠ 'Σ' ∧ (∀ d ∈ lowerMap.apply c, d ∈ letters) ∧ uppercase (lowerMap.apply c) = upperMap.apply c := by
  have checked := List.all_eq_true.mp letters_keepUpper c h
  simpa [keepsUpper, and_assoc] using checked

theorem letters_of_uppercase (h : uppercase cs = k.text.toList) : ∀ c ∈ cs, c ∈ letters := by
  intro c mem
  refine CaseMap.mem_of_draws upperMap_draws fun d image => k.mem_capitals ?_
  rw [← h]
  exact List.mem_flatMap.mpr ⟨c, mem, image⟩

theorem lowerBetween_of_letter (before after : List Char) (h : c ∈ letters) :
    lowerBetween before c after = lowerMap.apply c :=
  if_neg (lower_of_letter h).1

theorem letter_of_lowerBetween {after : List Char} (h : ∀ d ∈ lowerBetween before c after, d ∈ letters) :
    c ∈ letters := by
  unfold lowerBetween at h
  split at h
  · exact absurd (h _ List.mem_cons_self) (sigma_not_letter _)
  · exact CaseMap.mem_of_draws lowerMap_draws h

/-- Lower case neither makes such letters of other characters nor others of them. -/
theorem letters_lowercase : (∀ d ∈ lowercase cs, d ∈ letters) ↔ ∀ c ∈ cs, c ∈ letters := by
  constructor
  · intro h c mem
    obtain ⟨init, after, split⟩ := List.append_of_mem mem
    exact letter_of_lowerBetween fun d image => h d (mem_lowercaseAfter.mpr ⟨init, c, after, split, image⟩)
  · intro h d mem
    obtain ⟨init, c, after, rfl, image⟩ := mem_lowercaseAfter.mp mem
    have letter := h c (by simp)
    rw [lowerBetween_of_letter _ _ letter] at image
    exact (lower_of_letter letter).2.1 d image

theorem uppercase_lowercaseAfter (h : ∀ c ∈ cs, c ∈ letters) : uppercase (lowercaseAfter before cs) = uppercase cs := by
  induction cs generalizing before with
  | nil => rfl
  | cons c cs ih =>
    obtain ⟨letter, others⟩ := List.forall_mem_cons.mp h
    rw [lowercaseAfter, uppercase_append, ih others, lowerBetween_of_letter _ _ letter,
      (lower_of_letter letter).2.2]
    rfl

/-- What has the lower case of a keyword is this keyword. -/
theorem uppercase_of_lowercase_eq (same : lowercase cs = lowercase ds) (h : uppercase cs = k.text.toList) :
    uppercase ds = k.text.toList := by
  have letters := letters_of_uppercase h
  have letters' : ∀ d ∈ ds, d ∈ Keyword.letters := by rwa [← letters_lowercase, ← same, letters_lowercase]
  calc
    uppercase ds = uppercase (lowercase ds) := (uppercase_lowercaseAfter letters').symm
    _ = uppercase (lowercase cs) := by rw [same]
    _ = uppercase cs := uppercase_lowercaseAfter letters
    _ = k.text.toList := h

end Keyword

/-! ### Words -/

variable {a b : String} {k : Keyword}

theorem keyOf_inj : keyOf a = keyOf b ↔ lowercase a.toList = lowercase b.toList := by
  rw [keyOf, keyOf, String.ofList_inj]

theorem ofText_of_keyword (word : Word a.toList) (h : uppercase a.toList = k.text.toList) :
    TokenStream.ofText a = ⟨[.keyword k], none⟩ :=
  (Writes.token (.keyword word h)).ofText

theorem ofText_of_identifier (word : Word a.toList) (h : ∀ k : Keyword, uppercase a.toList ≠ k.text.toList) :
    TokenStream.ofText a = ⟨[.identifier a], none⟩ := by
  have spells := Spells.identifier word h
  rw [String.ofList_toList] at spells
  exact (Writes.token spells).ofText

theorem word_of_identifier {text name : String} (h : .identifier name ∈ (TokenStream.ofText text).tokens) :
    Word name.toList ∧ ∀ k : Keyword, uppercase name.toList ≠ k.text.toList := by
  obtain ⟨x, spells⟩ := spelled_ofText text _ h
  cases spells with
  | identifier word other =>
    rw [String.toList_ofList]
    exact ⟨word, other⟩

/-- Two words with one key are both the same keyword or both identifiers. So no word that is a keyword has the key of
an identifier, wherever the identifier stands. -/
theorem words_of_one_key :
    (∀ a b : String, Word a.toList → Word b.toList → keyOf a = keyOf b →
      (∃ k, TokenStream.ofText a = ⟨[.keyword k], none⟩ ∧ TokenStream.ofText b = ⟨[.keyword k], none⟩) ∨
        TokenStream.ofText a = ⟨[.identifier a], none⟩ ∧ TokenStream.ofText b = ⟨[.identifier b], none⟩) ∧
      ∀ text name, .identifier name ∈ (TokenStream.ofText text).tokens → ∀ a : String, Word a.toList →
        keyOf a = keyOf name → TokenStream.ofText a = ⟨[.identifier a], none⟩ := by
  constructor
  · intro a b word word' same
    have lower := keyOf_inj.mp same
    by_cases keyword : ∃ k : Keyword, uppercase a.toList = k.text.toList
    · obtain ⟨k, upper⟩ := keyword
      have upper' := Keyword.uppercase_of_lowercase_eq lower upper
      exact .inl ⟨k, ofText_of_keyword word upper, ofText_of_keyword word' upper'⟩
    · have other := not_exists.mp keyword
      have other' (k : Keyword) : uppercase b.toList ≠ k.text.toList := fun upper =>
        other k (Keyword.uppercase_of_lowercase_eq lower.symm upper)
      exact .inr ⟨ofText_of_identifier word other, ofText_of_identifier word' other'⟩
  · intro text name mem a word same
    refine ofText_of_identifier word fun k upper => ?_
    exact (word_of_identifier mem).2 k (Keyword.uppercase_of_lowercase_eq (keyOf_inj.mp same) upper)

/-- The Kelvin sign and `k` have one key, and so have words of a dotless `ı` and different capitals. -/
theorem words_of_one_key_beyond_ascii :
    ((∃ k, TokenStream.ofText "dıv" = ⟨[.keyword k], none⟩ ∧ TokenStream.ofText "DıV" = ⟨[.keyword k], none⟩) ∨
      TokenStream.ofText "dıv" = ⟨[.identifier "dıv"], none⟩ ∧
        TokenStream.ofText "DıV" = ⟨[.identifier "DıV"], none⟩) ∧
      .identifier "\u212Aelvin" ∈ (TokenStream.ofText "\u212Aelvin := 1").tokens ∧ Word "kelvin".toList ∧
      keyOf "kelvin" = keyOf "\u212Aelvin" ∧ TokenStream.ofText "kelvin" = ⟨[.identifier "kelvin"], none⟩ := by
  have small : Word "dıv".toList := .mk (by decide +kernel) (List.all_eq_true.mp (by decide +kernel))
  have mixed : Word "DıV".toList := .mk (by decide +kernel) (List.all_eq_true.mp (by decide +kernel))
  have word : Word "kelvin".toList := .mk (by decide +kernel) (List.all_eq_true.mp (by decide +kernel))
  have same : keyOf "kelvin" = keyOf "\u212Aelvin" := by decide +kernel
  have mem : .identifier "\u212Aelvin" ∈ (TokenStream.ofText "\u212Aelvin := 1").tokens := by decide +kernel
  refine ⟨words_of_one_key.1 _ _ small mixed (by decide +kernel), mem, word, same, ?_⟩
  exact words_of_one_key.2 _ _ mem _ word same

end MiniPascal
