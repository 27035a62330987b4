import Mathlib.Data.List.TakeWhile
import MiniPascal.Proofs.Spelling.Parsing

/-! # Scanning and the case of letters

A text in small letters has the tokens of the text, at the same places, with the names in small letters: the
classes of characters and both case maps make no difference between a capital and its small letter. The small
letters here are those of ASCII, which `Char.toLower` and `String.toLower` put in the place of its capitals. -/

namespace MiniPascal

/-! ### Characters -/

/-- The code points of the capitals of ASCII. -/
def capitals : List Nat := List.range' 65 26

theorem toLower_of_not_capital {c : Char} (h : c.toNat ∉ capitals) : c.toLower = c := by
  unfold Char.toLower
  refine dif_neg fun bounds => h ?_
  simp only [ge_iff_le, UInt32.le_iff_toNat_le] at bounds
  exact List.mem_range'_1.mpr ⟨bounds.1, Nat.lt_succ_of_le bounds.2⟩

/-- What makes no difference between capitals and small letters makes none between a text and its small letters. -/
theorem apply_toLower {α : Type} {p : Char → α} (h : ∀ n ∈ capitals, p (Char.ofNat n).toLower = p (Char.ofNat n))
    (c : Char) : p c.toLower = p c := by
  by_cases capital : c.toNat ∈ capitals
  · have same := h c.toNat capital
    rwa [Char.ofNat_toNat] at same
  · rw [toLower_of_not_capital capital]

theorem toLower_of_other {p : Char → Bool} (h : ∀ n ∈ capitals, p (Char.ofNat n) = false) {c : Char}
    (hc : p c = true) : c.toLower = c := by
  refine toLower_of_not_capital fun capital => ?_
  have no := h c.toNat capital
  rw [Char.ofNat_toNat, hc] at no
  cases no

theorem toLower_eq_iff {d : Char} (other : d.isAlpha = false) (c : Char) : c.toLower = d ↔ c = d := by
  by_cases capital : c.toNat ∈ capitals
  · have letters : ∀ n ∈ capitals, (Char.ofNat n).isAlpha = true ∧ (Char.ofNat n).toLower.isAlpha = true := by decide
    obtain ⟨letter, small⟩ := letters c.toNat capital
    rw [Char.ofNat_toNat] at letter small
    constructor
    · rintro rfl
      exact nomatch other.symm.trans small
    · rintro rfl
      exact nomatch other.symm.trans letter
  · rw [toLower_of_not_capital capital]

theorem toLower_of_map {a b : String} (h : a.toList.map Char.toLower = b.toList.map Char.toLower) :
    a.toLower = b.toLower := by
  refine String.toList_injective ?_
  unfold String.toLower
  rw [String.toList_map, String.toList_map, h]

open Text

/-- All that is asked of a character. -/
structure Traits where
  blank : Bool
  digit : Bool
  wordStart : Bool
  wordPart : Bool
  symbol : Option Symbol
  upper : List Char
  lower : List Char
  cased : Bool
  caseIgnorable : Bool
deriving DecidableEq

/-- The traits of a character. -/
def Traits.of (c : Char) : Traits where
  blank := isBlank c
  digit := c.isDigit
  wordStart := isWordStart c
  wordPart := isWordPart c
  symbol := Symbol.ofChar? c
  upper := upperMap.apply c
  lower := lowerMap.apply c
  cased := isCased c
  caseIgnorable := isCaseIgnorable c

theorem traits_toLower : ∀ c : Char, Traits.of c.toLower = Traits.of c :=
  apply_toLower (by decide +kernel)

theorem isBlank_toLower (c : Char) : isBlank c.toLower = isBlank c :=
  congrArg Traits.blank (traits_toLower c)

theorem isDigit_toLower (c : Char) : c.toLower.isDigit = c.isDigit :=
  congrArg Traits.digit (traits_toLower c)

theorem isWordStart_toLower (c : Char) : isWordStart c.toLower = isWordStart c :=
  congrArg Traits.wordStart (traits_toLower c)

theorem isWordPart_toLower (c : Char) : isWordPart c.toLower = isWordPart c :=
  congrArg Traits.wordPart (traits_toLower c)

theorem ofChar?_toLower (c : Char) : Symbol.ofChar? c.toLower = Symbol.ofChar? c :=
  congrArg Traits.symbol (traits_toLower c)

theorem upperMap_toLower (c : Char) : upperMap.apply c.toLower = upperMap.apply c :=
  congrArg Traits.upper (traits_toLower c)

theorem lowerMap_toLower (c : Char) : lowerMap.apply c.toLower = lowerMap.apply c :=
  congrArg Traits.lower (traits_toLower c)

theorem isCased_toLower (c : Char) : isCased c.toLower = isCased c :=
  congrArg Traits.cased (traits_toLower c)

theorem isCaseIgnorable_toLower (c : Char) : isCaseIgnorable c.toLower = isCaseIgnorable c :=
  congrArg Traits.caseIgnorable (traits_toLower c)

/-! ### Runs of characters -/

section Run
variable {p : Char → Bool} (h : ∀ c : Char, p c.toLower = p c)
include h

theorem takeWhile_toLower (cs : List Char) :
    (cs.map Char.toLower).takeWhile p = (cs.takeWhile p).map Char.toLower := by
  rw [List.takeWhile_map, show p ∘ Char.toLower = p from funext h]

theorem dropWhile_toLower (cs : List Char) :
    (cs.map Char.toLower).dropWhile p = (cs.dropWhile p).map Char.toLower := by
  rw [List.dropWhile_map, show p ∘ Char.toLower = p from funext h]

end Run

theorem digits_toLower (cs : List Char) : (cs.map Char.toLower).takeWhile Char.isDigit = cs.takeWhile Char.isDigit := by
  rw [takeWhile_toLower isDigit_toLower]
  refine (List.map_congr_left fun c mem => ?_).trans (List.map_id _)
  exact toLower_of_other (by decide) (List.mem_takeWhile_imp mem)

/-! ### Names -/

theorem uppercase_toLower (cs : List Char) : uppercase (cs.map Char.toLower) = uppercase cs := by
  unfold uppercase
  rw [List.flatMap_map]
  exact congrArg (cs.flatMap ·) (funext upperMap_toLower)

theorem ofWord_toLower (word : List Char) :
    Token.ofWord (word.map Char.toLower) = (Token.ofWord word).respell String.toLower := by
  unfold Token.ofWord
  rw [uppercase_toLower]
  split
  · rfl
  · refine congrArg Token.identifier (String.toList_injective ?_)
    unfold String.toLower
    rw [String.toList_map, String.toList_ofList, String.toList_ofList]

theorem startsCased_toLower (cs : List Char) : startsCased (cs.map Char.toLower) = startsCased cs := by
  unfold startsCased
  rw [dropWhile_toLower isCaseIgnorable_toLower]
  cases cs.dropWhile isCaseIgnorable with
  | nil => rfl
  | cons c cs => exact isCased_toLower c

theorem lowercaseAfter_toLower (before cs : List Char) :
    lowercaseAfter (before.map Char.toLower) (cs.map Char.toLower) = lowercaseAfter before cs := by
  induction cs generalizing before with
  | nil => rfl
  | cons c cs ih =>
    have between :
        lowerBetween (before.map Char.toLower) c.toLower (cs.map Char.toLower) = lowerBetween before c cs := by
      unfold lowerBetween endsWord
      simp only [startsCased_toLower, lowerMap_toLower, toLower_eq_iff (d := 'Σ') rfl]
    rw [List.map_cons, lowercaseAfter, lowercaseAfter, between, ← List.map_cons, ih]

/-- A name keeps its key in small letters. -/
theorem keyOf_toLower (name : String) : keyOf name.toLower = keyOf name := by
  unfold keyOf lowercase String.toLower
  rw [String.toList_map]
  exact congrArg String.ofList (lowercaseAfter_toLower [] name.toList)

/-! ### Places -/

theorem Position.after_toLower (p : Position) (c : Char) : p.after c.toLower = p.after c := by
  simp only [Position.after, toLower_eq_iff (d := '\n') rfl]

theorem Position.afterAll_toLower (p : Position) (cs : List Char) :
    p.afterAll (cs.map Char.toLower) = p.afterAll cs := by
  unfold Position.afterAll
  rw [List.foldl_map]
  exact congrArg (List.foldl · p cs) (funext fun p => funext p.after_toLower)

/-- The cursor at the same place of the text in small letters. -/
def Cursor.toLower (s : Cursor) : Cursor := ⟨s.rest.map Char.toLower, s.position⟩

@[simp] theorem Cursor.toLower_rest (s : Cursor) : s.toLower.rest = s.rest.map Char.toLower := rfl

@[simp] theorem Cursor.toLower_position (s : Cursor) : s.toLower.position = s.position := rfl

theorem Cursor.skip_toLower (s : Cursor) (n : Nat) : s.toLower.skip n = (s.skip n).toLower := by
  simp only [skip, toLower, ← List.map_drop, ← List.map_take, Position.afterAll_toLower]

theorem skipLayout_toLower (comment? : Option Position) (p : Position) (cs : List Char) :
    skipLayout comment? p (cs.map Char.toLower) = (skipLayout comment? p cs).map Cursor.toLower := by
  induction cs generalizing comment? p with
  | nil => cases comment? <;> rfl
  | cons c cs ih =>
    rw [List.map_cons]
    unfold skipLayout
    simp only [Position.after_toLower, isBlank_toLower, toLower_eq_iff (d := '}') rfl,
      toLower_eq_iff (d := '{') rfl, ih]
    split
    · rfl
    · split
      · rfl
      · split <;> rfl

/-! ### Tokens -/

theorem Numeral.ofText_toLower (cs : List Char) : Numeral.ofText (cs.map Char.toLower) = Numeral.ofText cs := by
  unfold Numeral.ofText
  rw [digits_toLower, dropWhile_toLower isDigit_toLower]
  cases cs.dropWhile Char.isDigit with
  | nil => rfl
  | cons c ds =>
    by_cases point : c = '.'
    · subst point
      exact congrArg (Numeral.mk _) (digits_toLower ds)
    · have other : c.toLower ≠ '.' := fun same => point ((toLower_eq_iff rfl c).mp same)
      simp [point, other]

namespace Cursor

theorem scanFrom_toLower (s : Cursor) (c : Char) :
    s.toLower.scanFrom c.toLower =
      ((s.scanFrom c).1.map (Option.map (Token.respell String.toLower)), (s.scanFrom c).2.toLower) := by
  have assign : s.toLower.rest.take 2 = [':', '='] ↔ s.rest.take 2 = [':', '='] := by
    rw [toLower_rest, ← List.map_take]
    rcases s.rest.take 2 with _ | ⟨a, _ | ⟨b, _ | ⟨d, ds⟩⟩⟩ <;>
      simp [toLower_eq_iff (d := ':') rfl, toLower_eq_iff (d := '=') rfl]
  unfold scanFrom
  simp only [assign, ofChar?_toLower, isDigit_toLower, isWordStart_toLower]
  split
  · simp only [skip_toLower]
    rfl
  · split
    · simp only [skip_toLower]
      rfl
    · split
      · simp only [skip_toLower, toLower_rest, toLower_position, Numeral.ofText_toLower]
        split <;> rfl
      · split
        · simp only [skip_toLower, toLower_rest, takeWhile_toLower isWordPart_toLower, List.length_map, ofWord_toLower]
          rfl
        · next other =>
          -- Letters are no unexpected characters.
          have same : c.toLower = c := by
            refine toLower_of_other (p := fun c => !isWordStart c) (by decide +kernel) ?_
            rw [Bool.eq_false_iff.mpr other]
            rfl
          rw [same]
          rfl

theorem scan_toLower (s : Cursor) :
    s.toLower.scan = (s.scan.1.map (Option.map (Token.respell String.toLower)), s.scan.2.toLower) := by
  unfold scan pastLayout
  simp only [toLower_rest, toLower_position, skipLayout_toLower]
  rcases skipLayout none s.position s.rest with opened | t
  · simp only [Except.map, List.length_map, skip_toLower]
  · simp only [Except.map, toLower_rest]
    rcases t.rest with _ | ⟨c, cs⟩
    · rfl
    · exact t.scanFrom_toLower c

end Cursor

namespace TokenStream

theorem ofCursor_toLower (s : Cursor) : ofCursor s.toLower = (ofCursor s).respell String.toLower := by
  fun_induction ofCursor s with
  | case1 s t u scanned ih =>
    have scanned' := s.scan_toLower
    rw [scanned] at scanned'
    rw [ofCursor_of_token scanned', ih]
    rfl
  | case2 s u scanned =>
    have scanned' := s.scan_toLower
    rw [scanned] at scanned'
    exact ofCursor_of_end scanned'
  | case3 s e u scanned =>
    have scanned' := s.scan_toLower
    rw [scanned] at scanned'
    exact ofCursor_of_error scanned'

/-- The tokens of a text in small letters are those of the text, with the names in small letters. -/
theorem ofText_toLower (text : String) : ofText text.toLower = (ofText text).respell String.toLower := by
  unfold ofText
  rw [← ofCursor_toLower]
  unfold Cursor.ofText Cursor.toLower String.toLower
  rw [String.toList_map]

end TokenStream

end MiniPascal
