import MiniPascal.Tree.Outline

/-! # Drawings of outlines

A drawing has one line for each node, parents before their children. A line names its node, and what
stands before the name is an indentation of three characters a level, which ends in the branch to the node
itself. The lines below the node take this indentation on with another last character, since the branch
goes on beside them or has ended. -/

namespace MiniPascal.Outline

/-- What stands on the lines below a character of an indentation. -/
def goesOn : Char → Char
  | '├' => '│'
  | '└' => ' '
  | c => c

/-- The indentation that the lines below a line take on: its last character is replaced. -/
def continuation (indent : String) : String :=
  match indent.toList.getLast? with
  | some c => String.ofList (indent.toList.dropLast ++ [goesOn c])
  | none => indent

mutual

/-- The lines of an outline behind an indentation. -/
def linesBelow (indent : String) : Outline → List String
  | ⟨n, cs⟩ => (indent ++ "─(" ++ n.label ++ ")") :: childLines (continuation indent) cs

/-- The lines of the children of one node, each with a branch behind what stands before all of them. The
branch of the last child ends there. -/
def childLines (base : String) : List Outline → List String
  | [] => []
  | [t] => t.linesBelow (base ++ "  └")
  | t :: ts => t.linesBelow (base ++ "  ├") ++ childLines base ts

end

/-- The lines of an outline that stands alone. -/
def lines (t : Outline) : List String :=
  t.linesBelow ""

/-- The drawing of an outline, in which every line is ended. -/
def draw (t : Outline) : String :=
  String.join (t.lines.map (· ++ "\n"))

end MiniPascal.Outline
