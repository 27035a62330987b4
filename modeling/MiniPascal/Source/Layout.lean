import MiniPascal.Source.Cursor
import MiniPascal.Text.Blank

/-! # Layout

Layout is what separates tokens without meaning anything: blanks, and comments between braces. The first
closing brace ends a comment, so comments do not nest. A comment that is still open when the text ends is
an error, told by the position of its opening brace. -/

namespace MiniPascal

/-- The cursor after the layout that `cs` starts with, where `p` is the position of its first character
and `comment?` says where the comment around it was opened, if it lies in one. Fails with the position of
a comment that is never closed. -/
def skipLayout (comment? : Option Position) (p : Position) : List Char → Except Position Cursor
  | [] =>
    match comment? with
    | some opened => .error opened
    | none => .ok ⟨[], p⟩
  | c :: cs =>
    match comment? with
    | some _ => skipLayout (if c = '}' then none else comment?) (p.after c) cs
    | none =>
      if Text.isBlank c then skipLayout none (p.after c) cs
      else if c = '{' then skipLayout (some p) (p.after c) cs
      else .ok ⟨c :: cs, p⟩

namespace Cursor

/-- The cursor after the layout that it stands before, or the position of a comment that is never
closed. -/
def pastLayout (s : Cursor) : Except Position Cursor :=
  skipLayout none s.position s.rest

end Cursor

/-- Layout is a number of characters of the text, and what follows it is where the position says. -/
theorem skipLayout_eq_skip {comment? : Option Position} {p : Position} {cs : List Char} {t : Cursor}
    (h : skipLayout comment? p cs = .ok t) : ∃ n, t = (Cursor.mk cs p).skip n := by
  induction cs generalizing comment? p with
  | nil =>
    cases comment? with
    | none => exact ⟨0, by simpa [skipLayout] using h.symm⟩
    | some o => simp [skipLayout] at h
  | cons c cs ih =>
    have step {o : Option Position} (h' : skipLayout o (p.after c) cs = .ok t) :
        ∃ n, t = (Cursor.mk (c :: cs) p).skip n := by
      obtain ⟨n, rfl⟩ := ih h'
      exact ⟨n + 1, by simp [Cursor.skip]⟩
    unfold skipLayout at h
    split at h
    · exact step h
    · split at h
      · exact step h
      · split at h
        · exact step h
        · exact ⟨0, by simpa using h.symm⟩

end MiniPascal
