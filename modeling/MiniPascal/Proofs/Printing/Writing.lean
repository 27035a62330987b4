import MiniPascal.Proofs.Printing.Number
import MiniPascal.Proofs.Scanning

/-! # Texts that are put together from tokens

A text writes tokens if it is scanned to them wherever it stands: after any layout, and before any character that
no token goes on with. Such texts may be put together, with blanks between them or not, and they write the
tokens of their parts. -/

namespace MiniPascal
open Grammar

theorem Grammar.Layout.append {l m : List Char} (h : Layout l) (h' : Layout m) : Layout (l ++ m) := by
  induction h with
  | none => exact h'
  | blank blank _ ih => exact .blank blank ih
  | comment body _ ih =>
    rw [List.cons_append, List.append_assoc, List.cons_append]
    exact .comment body ih

theorem Grammar.Scan.append {cs mid rest : List Char} {ts us : List Token} (h : Scan cs ts mid)
    (h' : Scan mid us rest) :
    Scan cs (ts ++ us) rest := by
  induction h with
  | done => exact h'
  | token layout spells ends _ ih => exact .token layout spells ends (ih h')

/-- Each of the tokens has a spelling. -/
def Spelled (ts : List Token) : Prop :=
  ∀ t ∈ ts, ∃ x, Spells x t

theorem spelled_cons {t : Token} {ts : List Token} : Spelled (t :: ts) ↔ (∃ x, Spells x t) ∧ Spelled ts :=
  List.forall_mem_cons

theorem spelled_append {ts us : List Token} : Spelled (ts ++ us) ↔ Spelled ts ∧ Spelled us :=
  List.forall_mem_append

theorem Grammar.Scan.spelled {cs rest : List Char} {ts : List Token} (h : Scan cs ts rest) : Spelled ts := by
  induction h with
  | done => exact fun t mem => nomatch mem
  | token _ spells _ _ ih => exact spelled_cons.mpr ⟨⟨_, spells⟩, ih⟩

theorem spelled_ofText (text : String) : Spelled (TokenStream.ofText text).tokens := by
  have yields : (Scanner.ofText text).Yields (TokenStream.ofText text).tokens (TokenStream.ofText text).ending :=
    yields_iff_ofText.mpr rfl
  obtain ⟨_, _, _, -, scan, -⟩ := yields.scan rfl
  exact scan.spelled

/-! ### Delimiters -/

/-- Characters that end every token before them. -/
def delimiters : List Char := [' ', ')', ';']

/-- What comes next is a delimiter or the end of the text. -/
def Delimits (rest : List Char) : Prop :=
  ∀ c, rest.head? = some c → c ∈ delimiters

theorem delimits_nil : Delimits [] := nofun

theorem delimits_cons {c : Char} (cs : List Char) (h : c ∈ delimiters) : Delimits (c :: cs) := by
  rintro d ⟨⟩
  exact h

theorem Delimits.ends {rest : List Char} (h : Delimits rest) (t : Token) : Ends t rest := by
  have run {p : Char → Bool} (none : delimiters.any p = false) : EndsRun p rest := fun c next =>
    List.any_eq_false.mp none c (h c next) |> Bool.eq_false_iff.mpr
  have words : EndsRun isWordPart rest := run (by decide +kernel)
  have digits : EndsRun Char.isDigit rest := run (by decide)
  cases t with
  | identifier | keyword => exact words
  | number v =>
    cases v with
    | int => exact ⟨digits, by rintro d ds rfl; exact absurd (h '.' rfl) (by decide)⟩
    | real => exact digits
  | symbol s =>
    cases s with
    | colon => exact fun next => absurd (h '=' next) (by decide)
    | _ => trivial

/-- Nothing that comes behind a delimiter has a say in where a token ends. -/
theorem Grammar.Ends.append {t : Token} {cs rest : List Char} (ends : Ends t cs) (h : Delimits rest) :
    Ends t (cs ++ rest) := by
  rcases cs with _ | ⟨c, cs⟩
  · exact h.ends t
  cases t with
  | identifier | keyword => exact ends
  | number v =>
    cases v with
    | real => exact ends
    | int =>
      -- A digit behind a point would continue the number, and the point may be the last character before `rest`.
      refine ⟨ends.1, fun d ds same => ?_⟩
      simp only [List.cons_append, List.cons.injEq] at same
      obtain ⟨rfl, same⟩ := same
      rcases cs with _ | ⟨e, es⟩
      · exact (h.ends (.number (.int 0))).1 d (congrArg List.head? same)
      · obtain ⟨rfl, -⟩ := List.cons.inj same
        exact ends.2 e es rfl
  | symbol s =>
    cases s with
    | colon => exact ends
    | _ => trivial

/-- A lexeme spells one token only. -/
theorem Grammar.Spells.unique {x : List Char} {t u : Token} (h : Spells x t) (h' : Spells x u) : t = u := by
  have scanned {v : Token} (h : Spells x v) := (Scanned.token (p := .start) .none h (delimits_nil.ends v)).scan_eq
  cases (scanned h).symm.trans (scanned h')
  rfl

/-- The characters of an identifier are its name. -/
theorem Grammar.Spells.of_identifier {x : List Char} {name : String} (h : Spells x (.identifier name)) :
    Spells name.toList (.identifier name) := by
  cases h with
  | identifier word other =>
    rw [String.toList_ofList]
    exact .identifier word other

/-! ### Writing -/

/-- After any layout and before any delimiter, the characters are scanned to the tokens and at most layout of
theirs is left. -/
def Writes (cs : List Char) (ts : List Token) : Prop :=
  ∀ l rest, Layout l → Delimits rest → ∃ m, Layout m ∧ Scan (l ++ (cs ++ rest)) ts (m ++ rest)

namespace Writes
variable {cs ds x : List Char} {ts us : List Token} {t : Token}

theorem nil : Writes [] [] := fun l _ layout _ => ⟨l, layout, .done _⟩

theorem token (h : Spells x t) : Writes x [t] := fun _ rest layout delimits =>
  ⟨[], .none, .token layout h (delimits.ends t) (.done rest)⟩

theorem blank (h : Writes cs ts) : Writes (' ' :: cs) ts := by
  intro l rest layout delimits
  have wider : Layout (l ++ [' ']) := layout.append (.blank (by decide) .none)
  obtain ⟨m, left, scan⟩ := h _ rest wider delimits
  refine ⟨m, left, ?_⟩
  rwa [List.append_assoc] at scan

/-- A sign needs no delimiter behind it, unless it is a part of another one. -/
theorem symbol {s : Symbol} (alone : s ≠ .colon) (h : Writes cs ts) :
    Writes (s.text.toList ++ cs) (.symbol s :: ts) := by
  intro l rest layout delimits
  obtain ⟨m, left, scan⟩ := h [] rest .none delimits
  refine ⟨m, left, ?_⟩
  rw [List.append_assoc]
  refine .token layout (.symbol s) ?_ scan
  cases s with
  | colon => exact absurd rfl alone
  | _ => trivial

theorem append (h : Writes cs ts) (h' : Writes ds us) (next : ∀ rest, Delimits rest → Delimits (ds ++ rest)) :
    Writes (cs ++ ds) (ts ++ us) := by
  intro l rest layout delimits
  obtain ⟨m, left, first⟩ := h l (ds ++ rest) layout (next rest delimits)
  obtain ⟨n, left', second⟩ := h' m rest left delimits
  refine ⟨n, left', ?_⟩
  rw [List.append_assoc]
  exact first.append second

theorem append_blank (h : Writes cs ts) (h' : Writes ds us) : Writes (cs ++ ' ' :: ds) (ts ++ us) :=
  h.append h'.blank fun _ _ => delimits_cons _ (by decide)

/-- A text that splits into tokens writes them. -/
theorem of_splits (h : Splits cs ts) : Writes cs ts := by
  obtain ⟨last, scan, layout⟩ := h
  intro l rest before delimits
  induction scan generalizing l with
  | done cs =>
    refine ⟨l ++ cs, before.append layout, ?_⟩
    rw [← List.append_assoc]
    exact .done _
  | @token l' x cs t ts _ layout' spells ends _ ih =>
    obtain ⟨m, left, scan⟩ := ih layout [] .none
    refine ⟨m, left, ?_⟩
    have shape : l ++ (l' ++ (x ++ cs) ++ rest) = l ++ l' ++ (x ++ (cs ++ rest)) := by
      simp only [List.append_assoc]
    rw [shape]
    exact .token (before.append layout') spells (ends.append delimits) scan

theorem of_ofText {text : String} (h : TokenStream.ofText text = ⟨ts, none⟩) : Writes text.toList ts :=
  of_splits (yields_iff_splits.mp (yields_iff_ofText.mpr h))

/-- The tokens of a whole text are those that it writes. -/
theorem ofText {text : String} (h : Writes text.toList ts) : TokenStream.ofText text = ⟨ts, none⟩ := by
  obtain ⟨m, layout, scan⟩ := h [] [] .none delimits_nil
  refine yields_iff_ofText.mp (yields_iff_splits.mpr ⟨m, ?_, layout⟩)
  simpa using scan

end Writes
end MiniPascal
