import MiniPascal.Proofs.Binary64.Nearest
import MiniPascal.Token.Stream

/-! # The grammar of tokens

A text is split into layout and lexemes in turn. A lexeme is a word, a numeral or a symbol, and it is as long
as the characters after it allow: what would make it longer may not follow. -/

namespace MiniPascal.Grammar

/-- Blanks and comments. A comment goes from its opening brace to the first closing one. -/
inductive Layout : List Char → Prop
  | none : Layout []
  | blank {c cs} (h : Text.isBlank c = true) (rest : Layout cs) : Layout (c :: cs)
  | comment {body cs} (h : '}' ∉ body) (rest : Layout cs) : Layout ('{' :: (body ++ '}' :: cs))

/-- A letter or underscore, and letters, numbers and underscores after it. -/
inductive Word : List Char → Prop
  | mk {c cs} (first : isWordStart c = true) (others : ∀ d ∈ cs, isWordPart d = true) : Word (c :: cs)

/-- One or more digits. -/
structure Digits (ds : List Char) : Prop where
  ne_nil : ds ≠ []
  digits : ∀ d ∈ ds, d.isDigit = true

/-- The characters of a token. A word is a keyword if its upper case is one, digits are an integer of 64 bits,
and two runs of digits with a point between them are the nearest double, which is finite. -/
inductive Spells : List Char → Token → Prop
  | symbol (s : Symbol) : Spells s.text.toList (.symbol s)
  | keyword {cs} {k : Keyword} (word : Word cs) (h : Text.uppercase cs = k.text.toList) : Spells cs (.keyword k)
  | identifier {cs} (word : Word cs) (h : ∀ k : Keyword, Text.uppercase cs ≠ k.text.toList) :
      Spells cs (.identifier (String.ofList cs))
  | integer {ds} {n : Int64} (h : Digits ds) (value : n.toInt = Numeral.digitsValue ds) :
      Spells ds (.number (.int n))
  | real {ds es} {x : Float} (whole : Digits ds) (fraction : Digits es) (finite : Binary64.isFinite x = true)
      (sign : Binary64.isNegative x = false)
      (value : Binary64.IsNearest (Numeral.digitsValue (ds ++ es)) (10 ^ es.length) (Binary64.magnitude x)) :
      Spells (ds ++ '.' :: es) (.number (.real x))

/-- A run of such characters does not go on. -/
def EndsRun (p : Char → Bool) (rest : List Char) : Prop :=
  ∀ c, rest.head? = some c → p c = false

/-- Neither a digit follows, nor a point and a digit. -/
def EndsInteger (rest : List Char) : Prop :=
  EndsRun Char.isDigit rest ∧ ∀ d ds, rest = '.' :: d :: ds → d.isDigit = false

/-- The token is not longer than this: what follows it does not belong to it. -/
def Ends : Token → List Char → Prop
  | .identifier _, rest | .keyword _, rest => EndsRun isWordPart rest
  | .number (.int _), rest => EndsInteger rest
  | .number (.real _), rest => EndsRun Char.isDigit rest
  | .symbol .colon, rest => rest.head? ≠ some '='
  | .symbol _, _ => True

/-- A numeral with its fraction if it has one, where no more of it follows. -/
inductive MaximalNumeral : List Char → List Char → Prop
  | integer {ds rest} (h : Digits ds) (ends : EndsInteger rest) : MaximalNumeral ds rest
  | real {ds es rest} (whole : Digits ds) (fraction : Digits es) (ends : EndsRun Char.isDigit rest) :
      MaximalNumeral (ds ++ '.' :: es) rest

/-- Neither a blank nor the start of a comment. -/
def Bare (c : Char) : Prop :=
  Text.isBlank c = false ∧ c ≠ '{'

/-- What a scan finds, from one place in a text to another: the end of the text, a token, or the reason why
there is none. -/
inductive Scanned : Cursor → Except LexError Lookahead → Cursor → Prop
  | nothing {l p} (layout : Layout l) : Scanned ⟨l, p⟩ (.ok .none) ⟨[], p.afterAll l⟩
  | token {l x rest p t} (layout : Layout l) (h : Spells x t) (ends : Ends t rest) :
      Scanned ⟨l ++ (x ++ rest), p⟩ (.ok (some t)) ⟨rest, (p.afterAll l).afterAll x⟩
  | unexpectedChar {l c cs p} (layout : Layout l) (bare : Bare c) (h : ∀ x rest t, c :: cs = x ++ rest → ¬Spells x t) :
      Scanned ⟨l ++ c :: cs, p⟩ (.error (.unexpectedChar c (p.afterAll l))) ⟨c :: cs, p.afterAll l⟩
  | invalidNumber {l n rest p} (layout : Layout l) (numeral : MaximalNumeral n rest) (h : ∀ t, ¬Spells n t) :
      Scanned ⟨l ++ (n ++ rest), p⟩ (.error (.invalidNumber (String.ofList n) (p.afterAll l)))
        ⟨rest, (p.afterAll l).afterAll n⟩
  | unterminatedComment {l body p} (layout : Layout l) (h : '}' ∉ body) :
      Scanned ⟨l ++ '{' :: body, p⟩ (.error (.unterminatedComment (p.afterAll l)))
        ⟨[], (p.afterAll l).afterAll ('{' :: body)⟩

/-- The start of a text as tokens with layout before each, and what is left of the text after them. -/
inductive Scan : List Char → List Token → List Char → Prop
  | done (cs) : Scan cs [] cs
  | token {l x cs t ts rest} (layout : Layout l) (h : Spells x t) (ends : Ends t cs) (others : Scan cs ts rest) :
      Scan (l ++ (x ++ cs)) (t :: ts) rest

/-- A whole text as tokens with layout before each and after the last. -/
def Splits (cs : List Char) (ts : List Token) : Prop :=
  ∃ l, Scan cs ts l ∧ Layout l

end MiniPascal.Grammar
