import MiniPascal.Error

/-! # Outcomes

What a command leaves behind: its exit code and what it writes to the two output streams. A failure is
reported on the error stream, with its cause below it where there is one. -/

namespace MiniPascal

/-- An exit code and two output texts. -/
structure Outcome where
  exit : UInt8
  output : String
  errors : String
deriving DecidableEq, Repr

namespace Outcome

/-- A command that did its work. -/
def success (output : String) : Outcome := ⟨0, output, ""⟩

/-- A command that failed after it wrote `output`. -/
def failure (output message : String) (cause? : Option String) : Outcome :=
  let report :=
    match cause? with
    | some cause => message ++ "\n\nCaused by:\n    " ++ cause
    | none => message
  ⟨1, output, "Error: " ++ report ++ "\n"⟩

/-- A command that failed with an error of the text it was given. -/
def ofError (output : String) (e : Error) : Outcome :=
  failure output e.message e.cause?

/-- The outcome of a command that wrote `output` before. -/
def after (output : String) (o : Outcome) : Outcome :=
  { o with output := output ++ o.output }

/-- What is said of bytes that are no text. -/
def notText : String := "stream did not contain valid UTF-8"

/-- What is said of a file that is not there. -/
def noSuchFile : String := "No such file or directory (os error 2)"

end Outcome
end MiniPascal
