import MiniPascal.Parser.Program

/-! # The parser with a record

A recorder is the parser on states that keep what happens: the calls of the two procedures that recursion goes
through, the one for blocks and the one for factors, with their returns; the levels that are opened and closed; the
tokens that are asked for; and every look at the next token or at a height. With each event it writes down the depth
that the parser counts right after it, and so no change of the depth is missed.

Its rules are those of the parser. That it parses as the parser does on its own states is proved beside what is proved
of its record. -/

namespace MiniPascal

/-- An event, and the depth that the parser counts right after it. -/
structure Moment where
  event : Event
  depth : Nat
deriving DecidableEq, Repr

/-- The state of a parser, and all moments of its run so far. -/
structure Recording where
  state : ParserState
  past : List Moment

/-- A parser that writes down what happens. -/
abbrev Recorder := Rule Recording

namespace Recorder

/-- Takes a step of the parser, and writes down the event after it. -/
def record {α : Type} (event : Event) (p : Parser α) : Recorder α := fun x =>
  match p x.state with
  | .ok a s => .ok a ⟨s, x.past ++ [⟨event, s.depth⟩]⟩
  | .error e s => .error e ⟨s, x.past ++ [⟨event, s.depth⟩]⟩

/-- A call is written down before the procedure is run, and its return after that if there is one. -/
instance : Watched Recording where
  state x := x.state
  step := record
  call body := do
    record .called (pure ())
    let a ← body
    record .returned (pure ())
    pure a

/-- Parses a whole stream: the result, and the moments of the run. The first token is asked for before the rules are
followed. -/
def run {α : Type} (w : Recorder α) (ts : TokenStream) : Except Error α × List Moment :=
  match Parser.whole w ⟨.start ts, [⟨.requested, 0⟩]⟩ with
  | .ok a x => (.ok a, x.past)
  | .error e x => (.error e, x.past)

end Recorder

end MiniPascal
