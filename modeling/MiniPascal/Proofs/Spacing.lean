import MiniPascal.Proofs.Scanning
import MiniPascal.Session

/-! # Layout has no meaning

A text that is scanned to its end is layout, and lexemes with layout after each. Any of the layout may be replaced
by other layout, as long as lexemes with something between them keep something between them: the text is scanned to
the same tokens then, and it does the same. -/

namespace MiniPascal
namespace Grammar

/-- A lexeme and the layout after it. -/
structure Spaced where
  lexeme : List Char
  gap : List Char

/-- The text that starts with `first` and goes on with lexemes and the layout after each. -/
def spread (first : List Char) : List Spaced → List Char
  | [] => first
  | x :: xs => first ++ (x.lexeme ++ spread x.gap xs)

/-- Lexemes of these tokens, each as long as what follows it allows, with layout before the first and after each. -/
inductive Lexed : List Char → List Spaced → List Token → Prop
  | nil {first} (layout : Layout first) : Lexed first [] []
  | cons {first x xs t ts} (layout : Layout first) (spells : Spells x.lexeme t) (ends : Ends t (spread x.gap xs))
      (others : Lexed x.gap xs ts) : Lexed first (x :: xs) (t :: ts)

section
variable {l m cs rest rest' : List Char} {c : Char} {x y : Spaced} {xs ys : List Spaced} {t : Token} {ts : List Token}

theorem Lexed.lexeme_ne_nil (h : Lexed l xs ts) : ∀ x ∈ xs, x.lexeme ≠ [] := by
  induction h with
  | nil => exact fun _ mem => nomatch mem
  | cons _ spells _ _ ih =>
    obtain ⟨c, cs, first, -⟩ := spells.first
    exact List.forall_mem_cons.mpr ⟨first ▸ List.cons_ne_nil c cs, ih⟩

/-- Texts with such lexemes are the texts that split into tokens. -/
theorem splits_iff_lexed : Splits cs ts ↔ ∃ l xs, cs = spread l xs ∧ Lexed l xs ts := by
  constructor
  · rintro ⟨last, scan, layout⟩
    induction scan with
    | done cs => exact ⟨cs, [], rfl, .nil layout⟩
    | @token l x cs t ts rest before spells ends _ ih =>
      obtain ⟨gap, xs, rfl, others⟩ := ih layout
      exact ⟨l, ⟨x, gap⟩ :: xs, rfl, .cons before spells ends others⟩
  · rintro ⟨l, xs, rfl, lexed⟩
    induction lexed with
    | nil layout => exact ⟨_, .done _, layout⟩
    | cons layout spells ends _ ih =>
      obtain ⟨last, scan, end_⟩ := ih
      exact ⟨last, .token layout spells ends scan, end_⟩

/-! ### What ends a lexeme -/

theorem Layout.head_not_bare (h : Layout (c :: cs)) : ¬Bare c := by
  cases h with
  | blank blank => exact fun bare => nomatch blank.symm.trans bare.1
  | comment => exact fun bare => bare.2 rfl

/-- Where the second text goes on with a bare character, so does the first. -/
def Parted (rest rest' : List Char) : Prop :=
  ∀ c, rest'.head? = some c → Bare c → rest.head? = some c

theorem EndsRun.of_parted {p : Char → Bool} (h : EndsRun p rest) (parted : Parted rest rest')
    (bare : ∀ c, p c = true → Bare c) : EndsRun p rest' := by
  intro c next
  by_cases open_ : Bare c
  · exact h c (parted c next open_)
  · exact Bool.eq_false_iff.mpr fun part => open_ (bare c part)

/-- A token ends where less follows. An integer ends only if no digit follows a point either. -/
theorem Ends.of_parted (h : Ends t rest) (parted : Parted rest rest')
    (point : ∀ d ds, rest' = '.' :: d :: ds → d.isDigit = true → ∃ es, rest = '.' :: d :: es) : Ends t rest' := by
  cases t with
  | identifier | keyword => exact EndsRun.of_parted h parted fun c => isWordPart_bare
  | number v =>
    cases v with
    | real => exact EndsRun.of_parted h parted fun c => isDigit_bare
    | int =>
      refine ⟨h.1.of_parted parted fun c => isDigit_bare, fun d ds same => ?_⟩
      rw [Bool.eq_false_iff]
      intro digit
      obtain ⟨es, same'⟩ := point d ds same digit
      exact nomatch digit.symm.trans (h.2 d es same')
  | symbol s =>
    cases s with
    | colon => exact fun next => h (parted '=' next ⟨rfl, by decide⟩)
    | _ => trivial

/-! ### Other layout -/

/-- The lexemes of one list with the gaps of another, where between lexemes no gap is closed. -/
structure Respaced (xs ys : List Spaced) : Prop where
  lexemes : ys.map Spaced.lexeme = xs.map Spaced.lexeme
  layout : ∀ y ∈ ys, Layout y.gap
  apart : ∀ i x y, xs[i]? = some x → ys[i]? = some y → i + 1 < xs.length → y.gap = [] → x.gap = []

theorem Respaced.nil (h : Respaced [] ys) : ys = [] :=
  List.map_eq_nil_iff.mp h.lexemes

theorem Respaced.cons (h : Respaced (x :: xs) ys) :
    ∃ y ys', ys = y :: ys' ∧ y.lexeme = x.lexeme ∧ Layout y.gap ∧ (xs ≠ [] → y.gap = [] → x.gap = []) ∧
      Respaced xs ys' := by
  obtain ⟨y, ys', rfl, lexeme, lexemes⟩ := List.map_eq_cons_iff.mp h.lexemes
  obtain ⟨layout, layouts⟩ := List.forall_mem_cons.mp h.layout
  refine ⟨y, ys', rfl, lexeme, layout, fun more => ?_, lexemes, layouts, fun i a b ha hb inner => ?_⟩
  · exact h.apart 0 x y rfl rfl (Nat.succ_lt_succ (List.length_pos_iff.mpr more))
  · exact h.apart (i + 1) a b ha hb (Nat.succ_lt_succ inner)

theorem spread_parted (h : Respaced xs ys) (nonempty : ∀ x ∈ xs, x.lexeme ≠ []) (layout : Layout m)
    (apart : xs ≠ [] → m = [] → l = []) : Parted (spread l xs) (spread m ys) := by
  intro c next bare
  rcases m with _ | ⟨d, m⟩
  · rcases xs with _ | ⟨x, xs⟩
    · obtain rfl := h.nil
      cases next
    · obtain ⟨y, ys, rfl, lexeme, -⟩ := h.cons
      obtain rfl := apart (List.cons_ne_nil _ _) rfl
      obtain ⟨e, es, first⟩ := List.exists_cons_of_ne_nil (nonempty x List.mem_cons_self)
      simp only [spread, lexeme, first, List.nil_append, List.cons_append, List.head?_cons] at next ⊢
      exact next
  · have head : (spread (d :: m) ys).head? = some d := by
      cases ys <;> rfl
    cases head.symm.trans next
    exact absurd bare layout.head_not_bare

/-- What follows a token with the new layout ends it, if it did with the old one. The point of a numeral stands in a
lexeme of its own, so two gaps have a say in where an integer ends. -/
theorem Ends.respaced (ends : Ends t (spread l xs)) (h : Respaced xs ys) (nonempty : ∀ x ∈ xs, x.lexeme ≠ [])
    (layout : Layout m) (apart : xs ≠ [] → m = [] → l = []) : Ends t (spread m ys) := by
  refine ends.of_parted (spread_parted h nonempty layout apart) fun d ds same digit => ?_
  rcases m with _ | ⟨c, m⟩
  · rcases xs with _ | ⟨x, xs⟩
    · obtain rfl := h.nil
      cases same
    obtain ⟨y, ys, rfl, lexeme, gap, inner, others⟩ := h.cons
    obtain rfl := apart (List.cons_ne_nil _ _) rfl
    obtain ⟨ne, nonempty⟩ := List.forall_mem_cons.mp nonempty
    obtain ⟨e, es, first⟩ := List.exists_cons_of_ne_nil ne
    simp only [spread, lexeme, first, List.nil_append, List.cons_append, List.cons.injEq] at same ⊢
    obtain ⟨rfl, same⟩ := same
    rcases es with _ | ⟨f, es⟩
    · -- The point is the whole lexeme, and the digit comes after the gap behind it.
      have next : (spread y.gap ys).head? = some d := congrArg List.head? same
      have next' := spread_parted others nonempty gap inner d next (isDigit_bare digit)
      obtain ⟨fs, split⟩ := List.head?_eq_some_iff.mp next'
      exact ⟨fs, rfl, split⟩
    · obtain ⟨rfl, -⟩ := List.cons.inj same
      exact ⟨_, rfl, rfl⟩
  · have head : c = '.' := by
      cases ys <;> exact List.head_eq_of_cons_eq same
    subst head
    exact absurd ⟨rfl, by decide⟩ layout.head_not_bare

theorem Lexed.respaced (lexed : Lexed l xs ts) (layout : Layout m) (h : Respaced xs ys) : Lexed m ys ts := by
  induction lexed generalizing m ys with
  | nil =>
    obtain rfl := h.nil
    exact .nil layout
  | cons _ spells ends others ih =>
    obtain ⟨y, ys, rfl, lexeme, gap, inner, h⟩ := h.cons
    exact .cons layout (lexeme ▸ spells) (ends.respaced h others.lexeme_ne_nil gap inner) (ih gap h)

end
end Grammar

open Grammar

theorem Grammar.Lexed.tokens {text : String} {l : List Char} {xs : List Spaced} {ts : List Token}
    (h : Lexed l xs ts) (written : text.toList = spread l xs) : TokenStream.ofText text = ⟨ts, none⟩ :=
  yields_iff_ofText.mp (yields_iff_splits.mpr (splits_iff_lexed.mpr ⟨l, xs, written, h⟩))

/-- Texts with the same lexemes and other layout have the same tokens, the same trees or errors, the same results, and
the same effect on any session. -/
theorem layout_invisible {text other : String} {l m : List Char} {xs ys : List Spaced} {ts : List Token}
    (lexed : Lexed l xs ts) (written : text.toList = spread l xs) (layout : Layout m) (respaced : Respaced xs ys)
    (written' : other.toList = spread m ys) :
    TokenStream.ofText text = ⟨ts, none⟩ ∧ TokenStream.ofText other = ⟨ts, none⟩ ∧
      Program.parse other = Program.parse text ∧ Expr.parse other = Expr.parse text ∧
      Stmt.parseAll other = Stmt.parseAll text ∧ interpret other = interpret text ∧
      calculate other = calculate text ∧ ∀ s : Session, s.run other = s.run text := by
  have tokens := lexed.tokens written
  have tokens' := (lexed.respaced layout respaced).tokens written'
  have same : TokenStream.ofText other = TokenStream.ofText text := tokens'.trans tokens.symm
  have programs : Program.parse other = Program.parse text := congrArg (Parser.run _) same
  have expressions : Expr.parse other = Expr.parse text := congrArg (Parser.run _) same
  have statements : Stmt.parseAll other = Stmt.parseAll text := congrArg (Parser.run _) same
  refine ⟨tokens, tokens', programs, expressions, statements, ?_, ?_, fun s => ?_⟩
  · rw [interpret, interpret, programs]
  · rw [calculate, calculate, expressions]
  · have runs : s.mode.run other = s.mode.run text := by
      cases s.mode with
      | programs => rw [Mode.run, Mode.runProgram, Mode.runProgram, programs]
      | lines =>
        rw [Mode.run, Mode.runLine, Mode.runLine, Mode.runStatements, Mode.runStatements, expressions, statements]
    rw [Session.run, Session.run, runs]

theorem layout_invisible_in_assignment :
    Stmt.parseAll "x:=7 DIV 2" =
        .ok [.assign ⟨"x"⟩ (.binary .integerDiv (.literal (.int 7)) (.literal (.int 2)))] ∧
      Stmt.parseAll "{half} x :=7{of}DIV\t2\n" = Stmt.parseAll "x:=7 DIV 2" ∧
      (Session.start .lines).run "{half} x :=7{of}DIV\t2\n" = (Session.start .lines).run "x:=7 DIV 2" := by
  have name : Spells ['x'] (.identifier "x") :=
    .identifier (.mk (by decide +kernel) nofun) fun k => by cases k <;> decide +kernel
  have div : Spells ['D', 'I', 'V'] (.keyword .integerDiv) :=
    .keyword (.mk (by decide +kernel) (List.all_eq_true.mp (by decide +kernel))) (by decide +kernel)
  have seven : Spells ['7'] (.number (.int 7)) :=
    (integer_value ⟨List.cons_ne_nil _ _, List.all_eq_true.mp rfl⟩).mp (by decide +kernel)
  have two : Spells ['2'] (.number (.int 2)) :=
    (integer_value ⟨List.cons_ne_nil _ _, List.all_eq_true.mp rfl⟩).mp (by decide +kernel)
  let xs : List Spaced := [⟨['x'], []⟩, ⟨[':', '='], []⟩, ⟨['7'], [' ']⟩, ⟨['D', 'I', 'V'], [' ']⟩, ⟨['2'], []⟩]
  let ys : List Spaced := [⟨['x'], [' ']⟩, ⟨[':', '='], []⟩, ⟨['7'], ['{', 'o', 'f', '}']⟩, ⟨['D', 'I', 'V'], ['\t']⟩,
    ⟨['2'], ['\n']⟩]
  have lexed : Lexed [] xs
      [.identifier "x", .symbol .assign, .number (.int 7), .keyword .integerDiv, .number (.int 2)] := by
    refine .cons .none name ?_ (.cons .none (.symbol .assign) trivial (.cons .none seven ?_
      (.cons (.blank (by decide) .none) div ?_ (.cons (.blank (by decide) .none) two ?_ (.nil .none)))))
    · rintro c ⟨⟩
      decide +kernel
    · exact ⟨by rintro c ⟨⟩; decide, nofun⟩
    · rintro c ⟨⟩
      decide +kernel
    · exact ⟨nofun, nofun⟩
  have half : Layout "{half} ".toList := .comment (by decide : '}' ∉ ['h', 'a', 'l', 'f']) (.blank (by decide) .none)
  have of : Layout ['{', 'o', 'f', '}'] := .comment (by decide : '}' ∉ ['o', 'f']) .none
  have respaced : Respaced xs ys := by
    refine ⟨rfl, ?_, ?_⟩
    · simp only [ys, List.forall_mem_cons]
      exact ⟨.blank (by decide) .none, .none, of, .blank (by decide) .none, .blank (by decide) .none, nofun⟩
    · intro i a b ha hb inner closed
      match i, inner with
      | 0, _ | 1, _ =>
        cases ha
        rfl
      | 2, _ | 3, _ =>
        cases hb
        cases closed
  have written : "x:=7 DIV 2".toList = spread [] xs := rfl
  have written' : "{half} x :=7{of}DIV\t2\n".toList = spread "{half} ".toList ys := rfl
  obtain ⟨-, -, -, -, statements, -, -, runs⟩ := layout_invisible lexed written half respaced written'
  exact ⟨by decide +kernel, statements, runs _⟩

end MiniPascal
