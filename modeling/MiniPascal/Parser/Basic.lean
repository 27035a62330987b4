import MiniPascal.Error
import MiniPascal.Token.Stream

/-! # Parsers

A parser takes tokens from the front of a stream, with one token of lookahead, and fails with the first
error it meets. When the token before the end of the stream is taken, the token after it is asked for,
and so an error that ends the stream is raised then and not later.

The state counts two things beside the tokens. `depth` is the number of blocks, parentheses and signs
that are open, which is bounded by `maxDepth`; `requests` is the number of tokens asked for so far.

A run may be watched: the rules are stated for all states that have the state of a parser inside of them,
and every step of a rule is told to the state as an event. A parser has nothing beside its own state, and
takes no notice of the events. -/

namespace MiniPascal

/-- What a parser works on: the tokens from the next one on, the error after the last of them if there is
one, the number of open constructs, and the number of tokens asked for. -/
structure ParserState where
  tokens : List Token
  ending : Option LexError
  depth : Nat
  requests : Nat
deriving DecidableEq

namespace ParserState

/-- The state in which a stream is about to be parsed, with its first token asked for. -/
def start (ts : TokenStream) : ParserState :=
  ⟨ts.tokens, ts.ending, 0, 1⟩

/-- The token that comes next, or none at the end of the text. -/
def ahead (s : ParserState) : Lookahead :=
  s.tokens.head?

end ParserState

/-- A procedure that takes tokens from the front of a stream. -/
abbrev Parser := EStateM Error ParserState

/-! ### Steps -/

namespace Step

/-- The token that comes next. -/
def ahead : Parser Lookahead := fun s => .ok s.ahead s

/-- Fails where something else was looked for. -/
def fail {α : Type} (expected : Expectation) : Parser α := fun s =>
  .error (.unexpected expected s.ahead) s

/-- Fails if the next token cannot be scanned. -/
def settle : Parser Unit := fun s =>
  match s.tokens, s.ending with
  | [], some e => .error (.lex e) s
  | _, _ => .ok () s

/-- Takes the next token and asks for the one after it. -/
def advance : Parser Unit := fun s =>
  settle { s with tokens := s.tokens.tail, requests := s.requests + 1 }

/-- Fails with the depth or height that is one above the limit. -/
def tooDeep {α : Type} : Parser α :=
  throw (.tooDeep (maxDepth + 1) maxDepth)

/-- Opens a block, a parenthesis or a sign. -/
def enter : Parser Unit := fun s =>
  let s := { s with depth := s.depth + 1 }
  if s.depth > maxDepth then .error (.tooDeep s.depth maxDepth) s else .ok () s

/-- Closes what was opened last. -/
def leave : Parser Unit := fun s =>
  .ok () { s with depth := s.depth - 1 }

/-- Lets a height within the limit pass. -/
def checkHeight (h : Nat) : Parser Nat :=
  if h > maxDepth then throw (.tooDeep h maxDepth) else pure h

end Step

/-! ### Watching -/

/-- What happens while a parser runs: calls of the procedures that recursion goes through and their returns, levels that
are opened and closed, tokens that are asked for, and looks at the next token or at a height. -/
inductive Event where
  | called
  | returned
  | opened
  | closed
  | requested
  | checked
deriving DecidableEq, Repr

/-- A procedure on states that a parser may run on. -/
abbrev Rule (σ : Type) := EStateM Error σ

/-- The states that a parser may run on. -/
class Watched (σ : Type) where
  /-- The state of the parser alone. -/
  state : σ → ParserState
  /-- Takes a step of the parser, which is the event. -/
  step {α : Type} : Event → Parser α → Rule σ α
  /-- Runs a procedure with its call and its return. -/
  call {α : Type} : Rule σ α → Rule σ α

instance : Watched ParserState where
  state s := s
  step _ p := p
  call body := body

namespace Parser
open Watched

theorem call_eq {α : Type} (p : Parser α) : call p = p := rfl

theorem state_eq (s : ParserState) : state s = s := rfl

theorem step_eq {α : Type} (event : Event) (p : Parser α) : step event p = p := rfl

section
variable {σ α : Type} [Watched σ]

@[inherit_doc Step.ahead]
def ahead : Rule σ Lookahead := step .checked Step.ahead

@[inherit_doc Step.fail]
def fail (expected : Expectation) : Rule σ α := step .checked (Step.fail expected)

@[inherit_doc Step.settle]
def settle : Rule σ Unit := step .checked Step.settle

@[inherit_doc Step.advance]
def advance : Rule σ Unit := step .requested Step.advance

@[inherit_doc Step.tooDeep]
def tooDeep : Rule σ α := step .checked Step.tooDeep

@[inherit_doc Step.enter]
def enter : Rule σ Unit := step .opened Step.enter

@[inherit_doc Step.leave]
def leave : Rule σ Unit := step .closed Step.leave

@[inherit_doc Step.checkHeight]
def checkHeight (h : Nat) : Rule σ Nat := step .checked (Step.checkHeight h)

/-- Takes the token `t`. -/
def eat (t : Token) : Rule σ Unit := do
  if (← ahead) = some t then advance else fail (.token t)

/-- Takes an identifier, and gives its name. -/
def identifier : Rule σ String := do
  match (← ahead) with
  | some (.identifier name) => advance; pure name
  | _ => fail .identifier

/-- What stands between two tokens, on a level of its own. -/
def enclosed (opening closing : Token) (body : Rule σ α) : Rule σ α := do
  enter
  eat opening
  let a ← body
  eat closing
  leave
  pure a

/-- Separators and items, at most the given number of them. -/
def repeated (separator : Token) (item : Rule σ α) : Nat → Rule σ (List α)
  | 0 => pure []
  | n + 1 => do
    if (← ahead) = some separator then
      advance
      let a ← item
      let as ← repeated separator item n
      pure (a :: as)
    else
      pure []

/-- Nothing may come next but the end of the text. -/
def endOfInput : Rule σ Unit := do
  if (← ahead) = none then pure () else fail .endOfInput

/-- Follows a rule from the first token to the end of the text. -/
def whole (p : Rule σ α) : Rule σ α := do
  settle
  let a ← p
  endOfInput
  pure a

end

/-- Parses a whole stream. -/
def run {α : Type} (p : Parser α) (ts : TokenStream) : Except Error α :=
  match whole p (.start ts) with
  | .ok a _ => .ok a
  | .error e _ => .error e

/-- How many more levels may be asked for at this depth: one more than may be opened, since asking for
the last one fails. -/
def room (s : ParserState) : Nat :=
  maxDepth + 1 - s.depth

/-- Runs a procedure that is bounded by a number which the state tells. -/
def bounded {σ α : Type} [Watched σ] (bound : ParserState → Nat) (p : Nat → Rule σ α) : Rule σ α :=
  fun x => p (bound (state x)) x

theorem bounded_eq {α : Type} (bound : ParserState → Nat) (p : Nat → Parser α) (s : ParserState) :
    bounded bound p s = p (bound s) s := rfl

end Parser
end MiniPascal
