/-! # Places in a text

A position is a line and a column, both counted from one; columns count characters and only a line feed
starts a new line. A cursor is what is left of a text together with the position of its first character.
Reading moves a cursor in one way only, by skipping a number of characters. -/

namespace MiniPascal

/-- A line and a column, both counted from one. -/
structure Position where
  line : Nat
  column : Nat
deriving DecidableEq, Repr

namespace Position

/-- Where a text starts. -/
def start : Position := ⟨1, 1⟩

/-- The position after the character `c`. -/
def after (p : Position) (c : Char) : Position :=
  if c = '\n' then ⟨p.line + 1, 1⟩ else ⟨p.line, p.column + 1⟩

/-- The position after all of `cs`. -/
def afterAll (p : Position) (cs : List Char) : Position :=
  cs.foldl after p

@[simp] theorem afterAll_nil (p : Position) : p.afterAll [] = p := rfl

@[simp] theorem afterAll_cons (p : Position) (c : Char) (cs : List Char) :
    p.afterAll (c :: cs) = (p.after c).afterAll cs := rfl

theorem afterAll_append (p : Position) (cs ds : List Char) :
    p.afterAll (cs ++ ds) = (p.afterAll cs).afterAll ds :=
  List.foldl_append

/-- The text of a position, as messages show it. -/
def text (p : Position) : String :=
  toString p.line ++ ":" ++ toString p.column

end Position

/-- What is left of a text, and the position of its first character. -/
structure Cursor where
  rest : List Char
  position : Position
deriving DecidableEq, Repr

namespace Cursor

/-- The cursor before the first character of a text. -/
def ofText (text : String) : Cursor :=
  ⟨text.toList, .start⟩

/-- The cursor `n` characters further on. -/
def skip (s : Cursor) (n : Nat) : Cursor :=
  ⟨s.rest.drop n, s.position.afterAll (s.rest.take n)⟩

@[simp] theorem skip_rest (s : Cursor) (n : Nat) : (s.skip n).rest = s.rest.drop n := rfl

@[simp] theorem skip_zero (s : Cursor) : s.skip 0 = s := by
  simp [skip]

theorem skip_skip (s : Cursor) (m n : Nat) : (s.skip m).skip n = s.skip (m + n) := by
  simp [skip, List.drop_drop, List.take_add, Position.afterAll_append]

end Cursor
end MiniPascal
