import MiniPascal.Command

/-! # The program

Reads files and the console, and writes what the commands leave behind. -/

namespace MiniPascal

/-- The next line of a stream without its end, or nothing at the end of the stream. -/
partial def readLine? (input : IO.FS.Stream) (begun : List UInt8 := []) : IO (Option (List UInt8)) := do
  match (← input.read 1).toList with
  | [] => return if begun.isEmpty then none else some begun.reverse
  | b :: _ => if b = 10 then return some begun.reverse else readLine? input (b :: begun)

/-- Writes an outcome and gives its exit code. -/
def Outcome.write (o : Outcome) : IO UInt32 := do
  IO.print o.output
  IO.eprint o.errors
  return o.exit.toUInt32

/-- Answers the lines of a stream, one after the other. -/
partial def Console.serve (input output : IO.FS.Stream) (s : Session) : IO UInt32 := do
  output.putStr prompt
  output.flush
  match (← readLine? input) with
  | none => (Outcome.success "\n").write
  | some line =>
    match respond? s line with
    | none => (Outcome.failure "" Outcome.notText none).write
    | some (written, t) =>
      output.putStr written
      serve input output t

/-- The contents of a file, or why there are none. -/
def readContents (path : String) : IO (Except String ByteArray) := do
  try
    return .ok (← IO.FS.readBinFile path)
  catch e =>
    match e with
    | .noFileOrDirectory _ _ _ => return .error Outcome.noSuchFile
    | e => return .error (toString e)

/-- Does what a command says. -/
def Command.perform : Command → IO UInt32
  | file command path => do (command.onFile path (← readContents path)).write
  | expression source tree => (showExpression source tree).write
  | console => do
    IO.print Console.banner
    Console.serve (← IO.getStdin) (← IO.getStdout) (.start .lines)

end MiniPascal

/-- Runs the command that the arguments ask for. -/
def main (args : List String) : IO UInt32 := do
  match MiniPascal.Command.ofArguments? args with
  | some command => command.perform
  | none => (MiniPascal.Outcome.mk 2 "" MiniPascal.Command.usage).write
