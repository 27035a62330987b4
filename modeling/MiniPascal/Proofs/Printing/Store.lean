import MiniPascal.Proofs.Bindings
import MiniPascal.Proofs.Drawing.Lines
import MiniPascal.Proofs.Folding.CaseMaps
import MiniPascal.Proofs.Printing.Token
import MiniPascal.Proofs.Printing.Value

/-! # The texts of stores

The text of a store has a line for each binding. No key holds a blank and no text of a value a line end, so the text is
split into its lines and each line into its key and its value in one way only. No two values have one text. So the text
of a store that a session reached determines the store. -/

namespace MiniPascal
open Grammar

/-! ### Characters -/

section
variable {text name : String} {v w : Value}

/-- The key of an identifier holds no blank, as long as it is the lower case of no other character. -/
theorem not_mem_keyOf {c : Char} (h : .identifier name ∈ (TokenStream.ofText text).tokens)
    (own : Text.lowerMap.sources c.toNat = [c.toNat]) (blank : Text.isBlank c = true) : c ∉ (keyOf name).toList := by
  intro mem
  rw [keyOf, String.toList_ofList] at mem
  have nonzero : c ≠ '\x00' := by
    rintro rfl
    cases blank
  have other : c ≠ 'ς' := by
    rintro rfl
    cases blank
  obtain ⟨x, spells⟩ := spelled_ofText text _ h
  have bare := spells.of_identifier.bare c (Text.mem_of_mem_lowercase own nonzero other mem)
  exact nomatch blank.symm.trans bare.1

theorem newline_not_sign {negative : Prop} [Decidable negative] : '\n' ∉ (if negative then ['-'] else []) := by
  split <;> decide

theorem Value.InRange.not_newline (h : v.InRange) : '\n' ∉ v.text.toList := by
  cases v with
  | int n =>
    rw [toList_text_int, List.mem_append, not_or]
    exact ⟨newline_not_sign, fun mem => nomatch (digits_toDigits _).digits _ mem⟩
  | real x =>
    rw [toList_text_real h, List.mem_append, not_or]
    exact ⟨newline_not_sign, (magnitudeText_rounds (of_decide_eq_true h)).not_mem rfl (by decide)⟩

/-- As an expression the text has the value again, if it is no least integer. -/
theorem Value.InRange.calculate_text (h : v.InRange) :
    calculate v.text = .ok v ∨ v = .int Int64.minValue ∧ ∃ e, calculate v.text = .error e := by
  cases v with
  | int n =>
    by_cases least : n = Int64.minValue
    · rw [least]
      exact .inr ⟨rfl, _, calculate_text_minimum⟩
    · exact .inl (calculate_text_int least)
  | real x => exact .inl (calculate_text_real h)

theorem Value.InRange.eq_of_text (h : v.InRange) (h' : w.InRange) (same : v.text = w.text) : v = w := by
  have result' := h'.calculate_text
  rw [← same] at result'
  rcases h.calculate_text with result | ⟨least, e, failed⟩ <;> rcases result' with other | ⟨least', e', failed'⟩
  · exact Except.ok.inj (result.symm.trans other)
  · cases result.symm.trans failed'
  · cases failed.symm.trans other
  · rw [least, least']

end

/-! ### Lines -/

section
variable {l : String} {ls ms : List String}

theorem splitOn_newline (plain : ∀ l ∈ ls, '\n' ∉ l.toList) (ne : ls ≠ []) :
    ("\n".intercalate ls).toList.splitOn '\n' = ls.map String.toList := by
  rw [String.toList_intercalate]
  refine List.splitOn_intercalate '\n' ?_ (by simpa using ne)
  simpa using plain

/-- A line of a text is a line of every list that has this text. -/
theorem mem_of_intercalate (plain : ∀ l ∈ ls, '\n' ∉ l.toList) (plain' : ∀ m ∈ ms, '\n' ∉ m.toList)
    (same : "\n".intercalate ls = "\n".intercalate ms) (mem : l ∈ ls) (ne : l ≠ "") : l ∈ ms := by
  have lines := splitOn_newline plain (List.ne_nil_of_mem mem)
  have among : l.toList ∈ ls.map String.toList := List.mem_map_of_mem mem
  rw [← lines, same] at among
  by_cases none : ms = []
  · rw [none] at among
    exact absurd (String.toList_inj.mp (List.mem_singleton.mp among)) ne
  · rw [splitOn_newline plain' none] at among
    obtain ⟨m, mem', code⟩ := List.mem_map.mp among
    rwa [← String.toList_inj.mp code]

end

/-! ### Stores -/

namespace Store
variable {s t : Store} {key key' : String} {v w : Value}

/-- The line of a binding. -/
def line (key : String) (v : Value) : String := key ++ " = " ++ v.text

/-- Keys without blanks and line ends, and values in range. -/
def Separable (s : Store) : Prop :=
  ∀ key v, s.get? key = some v → ' ' ∉ key.toList ∧ '\n' ∉ key.toList ∧ v.InRange

theorem toList_line (key : String) (v : Value) :
    (line key v).toList = key.toList ++ ' ' :: '=' :: ' ' :: v.text.toList := by
  simp [line]

theorem line_ne_empty : line key v ≠ "" := by
  intro empty
  have characters := congrArg String.toList empty
  rw [toList_line] at characters
  cases (List.append_eq_nil_iff.mp characters).2

theorem line_plain (plain : '\n' ∉ key.toList) (inRange : v.InRange) : '\n' ∉ (line key v).toList := by
  rw [toList_line]
  simp [plain, inRange.not_newline]

/-- The first blank ends the key, so a line tells the key and the value. -/
theorem eq_of_line (plain : ' ' ∉ key.toList) (plain' : ' ' ∉ key'.toList) (inRange : v.InRange) (inRange' : w.InRange)
    (same : line key v = line key' w) : key = key' ∧ v = w := by
  have characters := congrArg String.toList same
  rw [toList_line, toList_line] at characters
  obtain ⟨keys, rest⟩ := Outline.split_at_first plain plain' characters
  have texts : v.text.toList = w.text.toList := (List.cons.inj (List.cons.inj rest).2).2
  exact ⟨String.toList_inj.mp keys, inRange.eq_of_text inRange' (String.toList_inj.mp texts)⟩

theorem Separable.lines_plain (h : s.Separable) : ∀ l ∈ s.toList.map fun (key, v) => line key v, '\n' ∉ l.toList := by
  intro l mem
  obtain ⟨⟨key, v⟩, bound, rfl⟩ := List.mem_map.mp mem
  obtain ⟨-, plain, inRange⟩ := h key v (mem_toList_iff.mp bound)
  exact line_plain plain inRange

/-- What one of two stores with the same text binds, the other one binds too. -/
theorem Separable.get?_of_text (hs : s.Separable) (ht : t.Separable) (same : s.text = t.text)
    (found : s.get? key = some v) : t.get? key = some v := by
  have mem : line key v ∈ s.toList.map fun (key, v) => line key v :=
    List.mem_map_of_mem (f := fun (key, v) => line key v) (mem_toList_iff.mpr found)
  have mem' := mem_of_intercalate hs.lines_plain ht.lines_plain same mem line_ne_empty
  obtain ⟨⟨key', w⟩, bound, lines⟩ := List.mem_map.mp mem'
  obtain ⟨plain, -, inRange⟩ := hs key v found
  obtain ⟨plain', -, inRange'⟩ := ht key' w (mem_toList_iff.mp bound)
  obtain ⟨rfl, rfl⟩ := eq_of_line plain' plain inRange' inRange lines
  exact mem_toList_iff.mp bound

theorem Separable.eq_of_text (hs : s.Separable) (ht : t.Separable) (same : s.text = t.text) : s = t := by
  refine ext fun key => Option.ext fun v => ⟨?_, ?_⟩
  · exact hs.get?_of_text ht same
  · exact ht.get?_of_text hs same.symm

end Store

namespace Session

theorem store_separable (mode : Mode) (texts : List String) : ((start mode).afterAll texts).store.Separable := by
  intro key v found
  obtain ⟨_, text, _, _, name, -, -, ⟨target, -⟩, rfl⟩ := store_binds found
  have mem : .identifier name ∈ (TokenStream.ofText text).tokens := target.subset List.mem_cons_self
  refine ⟨not_mem_keyOf mem ?_ rfl, not_mem_keyOf mem ?_ rfl, store_inRange mode texts _ v found⟩
  · decide +kernel
  · decide +kernel

/-- Stores that sessions reach have the same text only if they bind the same keys to the same values, bit by bit. -/
theorem store_determined_by_text (mode mode' : Mode) (texts texts' : List String) :
    let s := ((start mode).afterAll texts).store
    let t := ((start mode').afterAll texts').store
    s.text = t.text ↔ s = t := by
  intro s t
  constructor
  · exact (store_separable mode texts).eq_of_text (store_separable mode' texts')
  · exact congrArg Store.text

end Session
end MiniPascal
