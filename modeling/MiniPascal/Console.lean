import MiniPascal.Outcome
import MiniPascal.Session
import MiniPascal.Text.Blank

/-! # The console

The console runs the lines of its input in one session. It asks for each line with a prompt, and answers
with what the line shows or with its error. Blanks around a line mean nothing, and a line of blanks is
passed over. The input ends the console, and so does a line that is no text. -/

namespace MiniPascal.Console

/-- What the console says first. -/
def banner : String :=
  "Pascal subset REPL. Enter an expression or statements separated by ';'.\n" ++
    "Bindings are kept between lines. Ctrl-D quits.\n"

/-- What stands before each line. -/
def prompt : String := "pascal> "

/-- What the console writes in answer to a run. Nothing to show is no line. -/
def answer : Except Error String → String
  | .ok shown => if shown.isEmpty then "" else shown ++ "\n"
  | .error e => "error: " ++ e.message ++ "\n"

/-- What the console writes in answer to a line of text, and the session after it. -/
def respond (s : Session) (line : List Char) : String × Session :=
  let line := Text.trim line
  if line.isEmpty then ("", s)
  else
    let (shown, t) := s.run (String.ofList line)
    (answer shown, t)

/-- The same for a line that comes as bytes. There is no answer to a line that is no text. -/
def respond? (s : Session) (line : List UInt8) : Option (String × Session) :=
  (String.fromUTF8? ⟨line.toArray⟩).map fun text => respond s text.toList

/-- The lines of an input, of which `begun` has been read, from its end. The last line need not be
ended. -/
def splitLines (begun : List UInt8) : List UInt8 → List (List UInt8)
  | [] => if begun.isEmpty then [] else [begun.reverse]
  | b :: bs => if b = 10 then begun.reverse :: splitLines [] bs else splitLines (b :: begun) bs

/-- All that happens from a session on when these lines come. -/
def converse (s : Session) : List (List UInt8) → Outcome
  | [] => .success (prompt ++ "\n")
  | line :: lines =>
    match respond? s line with
    | none => .failure prompt Outcome.notText none
    | some (written, t) => (converse t lines).after (prompt ++ written)

/-- All that happens when the console is given this input. -/
def transcript (input : List UInt8) : Outcome :=
  (converse (.start .lines) (splitLines [] input)).after banner

end MiniPascal.Console
