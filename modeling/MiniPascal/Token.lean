import MiniPascal.Value

/-! # Tokens

A token is an identifier, a number, a keyword or a symbol. An identifier keeps its spelling and a number
its value. Every token has a kind, named as listings of tokens name it, and a text. -/

namespace MiniPascal

/-- The reserved words. -/
inductive Keyword where
  | program
  | var
  | integerDiv
  | integer
  | real
  | blockBegin
  | blockEnd
deriving DecidableEq, Repr

namespace Keyword

/-- Every reserved word. -/
def all : List Keyword :=
  [program, var, integerDiv, integer, real, blockBegin, blockEnd]

/-- The spelling of a keyword in capitals, which is also its text. -/
def text : Keyword → String
  | program => "PROGRAM"
  | var => "VAR"
  | integerDiv => "DIV"
  | integer => "INTEGER"
  | real => "REAL"
  | blockBegin => "BEGIN"
  | blockEnd => "END"

/-- The name of the token kind. -/
def kind : Keyword → String
  | integerDiv => "INTEGER_DIV"
  | k => k.text

/-- The keyword with this spelling in capitals. -/
def ofText? (s : String) : Option Keyword :=
  all.find? (·.text == s)

end Keyword

/-- The signs of the language. -/
inductive Symbol where
  | assign
  | plus
  | minus
  | times
  | divide
  | semicolon
  | dot
  | comma
  | colon
  | leftParen
  | rightParen
deriving DecidableEq, Repr

namespace Symbol

/-- The spelling of a symbol. -/
def text : Symbol → String
  | assign => ":="
  | plus => "+"
  | minus => "-"
  | times => "*"
  | divide => "/"
  | semicolon => ";"
  | dot => "."
  | comma => ","
  | colon => ":"
  | leftParen => "("
  | rightParen => ")"

/-- The name of the token kind. -/
def kind : Symbol → String
  | assign => "ASSIGN"
  | plus => "PLUS"
  | minus => "MINUS"
  | times => "MUL"
  | divide => "FLOAT_DIV"
  | semicolon => "SEMI"
  | dot => "DOT"
  | comma => "COMMA"
  | colon => "COLON"
  | leftParen => "LPAREN"
  | rightParen => "RPAREN"

/-- The symbol that is this one character. -/
def ofChar? : Char → Option Symbol
  | '+' => some plus
  | '-' => some minus
  | '*' => some times
  | '/' => some divide
  | ';' => some semicolon
  | '.' => some dot
  | ',' => some comma
  | ':' => some colon
  | '(' => some leftParen
  | ')' => some rightParen
  | _ => none

end Symbol

/-- The least part of a text that has a meaning. -/
inductive Token where
  | identifier (name : String)
  | number (value : Value)
  | keyword (k : Keyword)
  | symbol (s : Symbol)
deriving DecidableEq

namespace Token

/-- The name of the token's kind. -/
def kind : Token → String
  | identifier _ => "ID"
  | number (.int _) => "INTEGER_CONST"
  | number (.real _) => "REAL_CONST"
  | keyword k => k.kind
  | symbol s => s.kind

/-- The text of a real in a listing of tokens: the fewest digits that read back, positional from 10^-4
up to 10^16 and scientific outside of that. -/
def realText (x : Float) : String :=
  let m := Binary64.magnitude x
  let sign := if Binary64.isNegative x then "-" else ""
  let digits :=
    if m = 0 then ['0', '.', '0']
    else if Binary64.nearest 1 10000 ≤ m ∧ m < Binary64.nearest 10000000000000000 1 then
      (Binary64.shortest m).positional
    else (Binary64.shortest m).scientific
  sign ++ String.ofList digits

/-- The text of a token: the spelling of an identifier or a symbol, a number in decimal, and a keyword
in capitals. -/
def text : Token → String
  | identifier name => name
  | number (.int n) => toString n.toInt
  | number (.real x) => realText x
  | keyword k => k.text
  | symbol s => s.text

/-- Whether two tokens are of one kind, whatever their spelling or value. -/
def sameKind : Token → Token → Bool
  | identifier _, identifier _ => true
  | number (.int _), number (.int _) => true
  | number (.real _), number (.real _) => true
  | keyword k, keyword l => k == l
  | symbol s, symbol t => s == t
  | _, _ => false

/-- Whether two tokens are of one kind and their spellings or values agree. -/
def agrees : Token → Token → Bool
  | number v, number w => v.agrees w
  | t, u => t == u

end Token

/-- The token that comes next, or none at the end of the text. -/
abbrev Lookahead := Option Token

namespace Lookahead

/-- The name of the kind of what comes next. -/
def kind : Lookahead → String
  | some t => t.kind
  | none => "EOF"

/-- The text of what comes next. -/
def text : Lookahead → String
  | some t => t.text
  | none => "end of input"

/-- Whether tokens of one kind come next, or the end twice. -/
def sameKind : Lookahead → Lookahead → Bool
  | some t, some u => t.sameKind u
  | none, none => true
  | _, _ => false

/-- Whether tokens that agree come next, or the end twice. -/
def agrees : Lookahead → Lookahead → Bool
  | some t, some u => t.agrees u
  | none, none => true
  | _, _ => false

end Lookahead
end MiniPascal
