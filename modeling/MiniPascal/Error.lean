import MiniPascal.Token.Scan

/-! # Errors

Everything that can go wrong with a text, from scanning to evaluation, is one of a few causes. The wording
of each is in `Error.message`. -/

namespace MiniPascal

/-- How deep blocks, parentheses and signs may nest, and how high an expression may be. -/
def maxDepth : Nat := 128

/-- What a grammar rule was looking for. -/
inductive Expectation where
  | token (t : Token)
  | identifier
  | typeName
  | expression
  | endOfInput
deriving DecidableEq

/-- The words for what was looked for. -/
def Expectation.text : Expectation → String
  | token t => t.text
  | identifier => "identifier"
  | typeName => "INTEGER or REAL"
  | expression => "expression"
  | endOfInput => "end of input"

/-- Why a text cannot be read or run. -/
inductive Error where
  | lex (e : LexError)
  | unexpected (expected : Expectation) (found : Lookahead)
  | unbound (name : String)
  | divisionByZero
  | overflow
  | tooDeep (depth limit : Nat)
deriving DecidableEq

namespace Error

/-- What went wrong. -/
def message : Error → String
  | lex e => "lex error: " ++ e.message
  | unexpected expected found => "syntax error: expected " ++ expected.text ++ ", found " ++ found.text
  | unbound name => "name error: identifier not found: " ++ name
  | divisionByZero => "division by zero"
  | overflow => "arithmetic overflow"
  | tooDeep depth limit =>
    "syntax error: nesting depth " ++ toString depth ++ " exceeds the maximum of " ++ toString limit

/-- What lies behind an error, where the message only repeats it. -/
def cause? : Error → Option String
  | lex e => some e.message
  | _ => none

end Error
end MiniPascal
