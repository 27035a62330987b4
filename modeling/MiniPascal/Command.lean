import MiniPascal.Console
import MiniPascal.Tree.Drawing

/-! # Commands

The commands of the program: to run a file, to list its tokens, to draw its tree, to evaluate one
expression or draw it, and the console. What each of them leaves behind is an `Outcome`. -/

namespace MiniPascal

/-- What is done with a file. -/
inductive FileCommand where
  | run
  | tokens
  | ast
deriving DecidableEq, Repr

namespace FileCommand

/-- Runs a program and shows the store it leaves. -/
def showRun (source : String) : Outcome :=
  match (Session.start .programs).run source with
  | (.ok shown, _) => .success (shown ++ "\n")
  | (.error e, _) => .ofError "" e

/-- Shows the tokens of a text, one on a line, up to the end or the first error. -/
def showTokens (source : String) : Outcome :=
  let ts := TokenStream.ofText source
  let lines := ts.tokens.map fun t => "Token(" ++ t.kind ++ ", " ++ t.text ++ ")\n"
  let listed := String.join lines
  match ts.ending with
  | none => .success (listed ++ "Token(EOF)\n")
  | some e => .ofError listed (.lex e)

/-- Draws the tree of a program. -/
def showTree (source : String) : Outcome :=
  match Program.parse source with
  | .ok p => .success p.outline.draw
  | .error e => .ofError "" e

/-- Does what the command says with a source text. -/
def onText : FileCommand → String → Outcome
  | run => showRun
  | tokens => showTokens
  | ast => showTree

/-- Does what the command says with the contents of a file, or reports why there are none. -/
def onFile (command : FileCommand) (file : String) (contents : Except String ByteArray) : Outcome :=
  let text := contents.bind fun bytes =>
    match String.fromUTF8? bytes with
    | some source => .ok source
    | none => .error Outcome.notText
  match text with
  | .ok source => command.onText source
  | .error cause => .failure "" ("could not read " ++ file) (some cause)

end FileCommand

/-- Evaluates an expression and shows its value, or draws its tree. -/
def showExpression (source : String) (tree : Bool) : Outcome :=
  if tree then
    match Expr.parse source with
    | .ok e => .success e.outline.draw
    | .error e => .ofError "" e
  else
    match calculate source with
    | .ok v => .success (v.text ++ "\n")
    | .error e => .ofError "" e

/-- What the program is asked to do. -/
inductive Command where
  | file (command : FileCommand) (path : String)
  | expression (source : String) (tree : Bool)
  | console
deriving DecidableEq, Repr

namespace Command

/-- The command with these words, where `tree` says whether a drawing is asked for. -/
def ofWords? (tree : Bool) : List String → Option Command
  | [] => if tree then none else some .console
  | ["run", path] => if tree then none else some (.file .run path)
  | ["tokens", path] => if tree then none else some (.file .tokens path)
  | ["ast", path] => if tree then none else some (.file .ast path)
  | ["calc", source] => some (.expression source tree)
  | _ => none

/-- The command that the arguments of the program ask for. Options start with a hyphen, up to a lone
double hyphen. The option for more messages is accepted, and asks for none. -/
def ofArguments? (args : List String) : Option Command :=
  let before := args.takeWhile (· != "--")
  let after := (args.dropWhile (· != "--")).drop 1
  let options := before.filter (·.startsWith "-")
  let words := before.filter (!·.startsWith "-")
  if options.all (["-v", "--verbose", "--tree"].contains ·) then
    ofWords? (options.contains "--tree") (words ++ after)
  else
    none

/-- How the program is used. -/
def usage : String :=
  "Usage: pascal [-v] [run FILE | tokens FILE | ast FILE | calc [--tree] EXPR]\n"

end Command
end MiniPascal
