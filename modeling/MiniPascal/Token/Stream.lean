import MiniPascal.Token.Scan

/-! # The tokens of a text

A text is read as a list of tokens, up to its end or up to the first place where no token can be
scanned. A `Scanner` hands the same tokens out one at a time, in two ways: on request, and as a series
that ends for good at the end of the text or after an error. -/

namespace MiniPascal

/-- The tokens of a text, and the error that stands where they end, if they do not reach the end of the
text. -/
structure TokenStream where
  tokens : List Token
  ending : Option LexError
deriving DecidableEq

namespace TokenStream

/-- The stream with a token put in front. -/
def push (t : Token) (ts : TokenStream) : TokenStream :=
  { ts with tokens := t :: ts.tokens }

/-- The tokens from a cursor on. -/
def ofCursor (s : Cursor) : TokenStream :=
  match _h : s.scan with
  | (.ok (some t), u) => (ofCursor u).push t
  | (.ok none, _) => ⟨[], none⟩
  | (.error e, _) => ⟨[], some e⟩
termination_by s.rest.length
decreasing_by exact Cursor.scan_rest_length_lt _h

theorem ofCursor_of_token {s u : Cursor} {t : Token} (h : s.scan = (.ok (some t), u)) :
    ofCursor s = (ofCursor u).push t := by
  rw [ofCursor]
  split <;> simp_all

theorem ofCursor_of_end {s u : Cursor} (h : s.scan = (.ok none, u)) : ofCursor s = ⟨[], none⟩ := by
  rw [ofCursor]
  split <;> simp_all

theorem ofCursor_of_error {s u : Cursor} {e : LexError} (h : s.scan = (.error e, u)) :
    ofCursor s = ⟨[], some e⟩ := by
  rw [ofCursor]
  split <;> simp_all

/-- The tokens of a text. -/
def ofText (text : String) : TokenStream :=
  ofCursor (.ofText text)

end TokenStream

/-- A reader of tokens: where it stands, and whether its series has ended. -/
structure Scanner where
  cursor : Cursor
  ended : Bool
deriving DecidableEq

namespace Scanner

/-- A reader at the start of a text. -/
def ofText (text : String) : Scanner :=
  ⟨.ofText text, false⟩

/-- Scans the next token, whether or not the series has ended. -/
def request (s : Scanner) : Except LexError Lookahead × Scanner :=
  let (outcome, cursor) := s.cursor.scan
  (outcome, { s with cursor })

/-- The next member of the series: nothing once it has ended, which it does at the end of the text and
after an error. -/
def next (s : Scanner) : Except LexError Lookahead × Scanner :=
  if s.ended then
    (.ok none, s)
  else
    match s.cursor.scan with
    | (.ok (some t), cursor) => (.ok (some t), ⟨cursor, false⟩)
    | (outcome, cursor) => (outcome, ⟨cursor, true⟩)

end Scanner
end MiniPascal
