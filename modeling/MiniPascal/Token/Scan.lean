import MiniPascal.Source.Layout
import MiniPascal.Text.Numeric
import MiniPascal.Text.Uppercase
import MiniPascal.Token
import MiniPascal.Token.Numeral

/-! # Scanning a token

The token at a cursor is the longest one that starts after the layout there. A word is a keyword if its
upper case is one, and otherwise an identifier with its own spelling. Scanning fails at an open comment,
at a character that no token starts with, and at a numeral out of range. An unexpected character is not
passed, so it is met again; a numeral out of range is passed, and an open comment reaches to the end. -/

namespace MiniPascal

/-- Why no token can be scanned, and where. -/
inductive LexError where
  | unexpectedChar (c : Char) (position : Position)
  | unterminatedComment (position : Position)
  | invalidNumber (numeral : String) (position : Position)
deriving DecidableEq, Repr

namespace LexError

/-- What is wrong with the text. -/
def message : LexError → String
  | unexpectedChar c p => "unexpected character '" ++ c.toString ++ "' at " ++ p.text
  | unterminatedComment p => "unterminated comment starting at " ++ p.text
  | invalidNumber n p => "invalid number literal " ++ n ++ " at " ++ p.text

end LexError

/-- What words start with. -/
def isWordStart (c : Char) : Bool :=
  Text.isAlphabetic c || c == '_'

/-- What words go on with. -/
def isWordPart (c : Char) : Bool :=
  Text.isAlphanumeric c || c == '_'

/-- The token of a word. -/
def Token.ofWord (word : List Char) : Token :=
  match Keyword.ofText? (String.ofList (Text.uppercase word)) with
  | some k => .keyword k
  | none => .identifier (String.ofList word)

namespace Cursor

/-- Scans a token of which `c` is the first character. -/
def scanFrom (s : Cursor) (c : Char) : Except LexError Lookahead × Cursor :=
  if s.rest.take 2 = [':', '='] then
    (.ok (some (.symbol .assign)), s.skip 2)
  else if let some sym := Symbol.ofChar? c then
    (.ok (some (.symbol sym)), s.skip 1)
  else if c.isDigit then
    let numeral := Numeral.ofText s.rest
    let outcome :=
      match numeral.value? with
      | some v => .ok (some (.number v))
      | none => .error (.invalidNumber (String.ofList numeral.text) s.position)
    (outcome, s.skip numeral.text.length)
  else if isWordStart c then
    let word := s.rest.takeWhile isWordPart
    (.ok (some (.ofWord word)), s.skip word.length)
  else
    (.error (.unexpectedChar c s.position), s)

/-- Scans the token after the layout at the cursor, and none at the end of the text. -/
def scan (s : Cursor) : Except LexError Lookahead × Cursor :=
  match s.pastLayout with
  | .error opened => (.error (.unterminatedComment opened), s.skip s.rest.length)
  | .ok t =>
    match t.rest with
    | [] => (.ok none, t)
    | c :: _ => t.scanFrom c

/-- The text of a numeral that starts with a digit is not empty. -/
theorem numeral_text_length_pos {c : Char} {cs : List Char} (h : c.isDigit = true) :
    0 < (Numeral.ofText (c :: cs)).text.length := by
  unfold Numeral.text
  split <;> simp [Numeral.ofText, h]

theorem isWordPart_of_isWordStart {c : Char} (h : isWordStart c = true) : isWordPart c = true := by
  simp only [isWordStart, isWordPart, Text.isAlphanumeric, Bool.or_eq_true] at h ⊢
  rcases h with h | h
  · exact .inl (.inl h)
  · exact .inr h

/-- Scanning from a character skips a number of characters, and at least one where it finds a token. -/
theorem scanFrom_eq_skip {s : Cursor} {c : Char} {cs : List Char} (hc : s.rest = c :: cs) :
    ∃ k, (s.scanFrom c).2 = s.skip k ∧ ∀ t, (s.scanFrom c).1 = .ok (some t) → 0 < k := by
  unfold scanFrom
  split
  · exact ⟨2, rfl, fun _ _ => by decide⟩
  · split
    · exact ⟨1, rfl, fun _ _ => by decide⟩
    · split
      · rename_i hd
        exact ⟨_, rfl, fun _ _ => hc ▸ numeral_text_length_pos hd⟩
      · split
        · rename_i hw
          refine ⟨_, rfl, fun _ _ => ?_⟩
          rw [hc, List.takeWhile_cons_of_pos (isWordPart_of_isWordStart hw)]
          exact Nat.zero_lt_succ _
        · exact ⟨0, s.skip_zero.symm, fun _ h => by simp at h⟩

/-- A scan only moves forward: it leaves the text without some characters at its start. -/
theorem scan_eq_skip (s : Cursor) : ∃ n, s.scan.2 = s.skip n := by
  unfold scan
  split
  · exact ⟨_, rfl⟩
  · rename_i t ht
    obtain ⟨n, rfl⟩ : ∃ n, t = s.skip n := skipLayout_eq_skip ht
    split
    · exact ⟨n, rfl⟩
    · rename_i c cs hc
      obtain ⟨k, hk, -⟩ := scanFrom_eq_skip hc
      exact ⟨n + k, hk.trans (skip_skip ..)⟩

/-- A token takes at least one character of the text. -/
theorem scan_rest_length_lt {s u : Cursor} {t : Token} (h : s.scan = (.ok (some t), u)) :
    u.rest.length < s.rest.length := by
  unfold scan at h
  split at h
  · simp at h
  · rename_i v hv
    obtain ⟨n, rfl⟩ : ∃ n, v = s.skip n := skipLayout_eq_skip hv
    split at h
    · simp at h
    · rename_i c cs hc
      obtain ⟨k, hk, pos⟩ := scanFrom_eq_skip hc
      rw [h] at hk pos
      obtain rfl : u = (s.skip n).skip k := hk
      have := pos t rfl
      have left : (s.rest.drop n).length = cs.length + 1 := congrArg List.length hc
      simp only [skip_skip, skip_rest, List.length_drop] at left ⊢
      omega

end Cursor
end MiniPascal
