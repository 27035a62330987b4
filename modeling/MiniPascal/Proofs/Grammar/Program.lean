import MiniPascal.Parser.Program
import MiniPascal.Proofs.Grammar.Expression

/-! # The grammar of programs

    program      := "PROGRAM" identifier ";" declarations block "."
    declarations := ("VAR" (declaration ";")+)*
    declaration  := identifier ("," identifier)* ":" ("INTEGER" | "REAL")
    block        := "BEGIN" statements "END"
    statements   := statement (";" statement)*
    statement    := block | identifier ":=" expression | nothing

As for expressions, a derivation relates tokens to a tree and to the number of levels that are open at
once where most of them are. Blocks count among the levels, with signs and parentheses. -/

namespace MiniPascal

namespace Stmt

/-- A statement assigns this expression to some variable, at any depth. -/
inductive Assigns : Stmt → Expr → Prop
  | assign (v e) : Assigns (.assign v e) e
  | block {ss s e} (mem : s ∈ ss) (h : Assigns s e) : Assigns (.block ss) e

/-- Every expression that a statement assigns is within the limit of heights. -/
def WithinHeight (s : Stmt) : Prop :=
  ∀ e, s.Assigns e → e.height ≤ maxDepth

theorem withinHeight_assign {v : Var} {e : Expr} : (assign v e).WithinHeight ↔ e.height ≤ maxDepth :=
  ⟨fun h => h e (.assign v e), fun h _ ha => by cases ha; exact h⟩

theorem withinHeight_skip : skip.WithinHeight := fun _ ha => nomatch ha

theorem withinHeight_block {ss : List Stmt} : (block ss).WithinHeight ↔ ∀ s ∈ ss, s.WithinHeight := by
  constructor
  · intro h s mem e ha
    exact h e (.block mem ha)
  · intro h e ha
    cases ha with
    | block mem ha => exact h _ mem e ha

end Stmt

namespace Grammar

/-- Items with a separator between each two. -/
inductive Separated {α : Type} (separator : Token) (item : List Token → α → Nat → Prop) :
    List Token → List α → Nat → Prop
  | one {ts a d} (last : item ts a d) : Separated separator item ts [a] d
  | more {ts a d us as k} (first : item ts a d) (rest : Separated separator item us as k) :
      Separated separator item (ts ++ separator :: us) (a :: as) (max d k)

theorem Separated.length_le {α : Type} {separator : Token} {item : List Token → α → Nat → Prop}
    {ts : List Token} {as : List α} {d : Nat} (h : Separated separator item ts as d) :
    as.length ≤ ts.length + 1 := by
  induction h with
  | one => simp
  | more _ _ ih =>
    simp only [List.length_cons, List.length_append]
    omega

theorem Separated.exists_item {α : Type} {separator : Token} {item : List Token → α → Nat → Prop}
    {ts : List Token} {as : List α} {d : Nat} (h : Separated separator item ts as d) {a : α} (mem : a ∈ as) :
    ∃ us k, item us a k ∧ k ≤ d := by
  induction h with
  | one last =>
    obtain rfl := List.mem_singleton.mp mem
    exact ⟨_, _, last, Nat.le_refl _⟩
  | more first _ ih =>
    obtain rfl | mem := List.mem_cons.mp mem
    · exact ⟨_, _, first, Nat.le_max_left _ _⟩
    · obtain ⟨us, k, item, le⟩ := ih mem
      exact ⟨us, k, item, Nat.le_trans le (Nat.le_max_right _ _)⟩

theorem Separated.append {α : Type} {separator : Token} {item : List Token → α → Nat → Prop} {ts us : List Token}
    {as bs : List α} {d k : Nat} (h : Separated separator item ts as d) (h' : Separated separator item us bs k) :
    Separated separator item (ts ++ separator :: us) (as ++ bs) (max d k) := by
  induction h with
  | one first => exact .more first h'
  | more first _ ih => simpa [Nat.max_assoc] using Separated.more first ih

theorem Separated.snoc {α : Type} {separator : Token} {item : List Token → α → Nat → Prop} {ts us : List Token}
    {as : List α} {b : α} {d k : Nat} (h : Separated separator item ts as d) (last : item us b k) :
    Separated separator item (ts ++ separator :: us) (as ++ [b]) (max d k) :=
  h.append (.one last)

/-- A block, an assignment, or nothing. -/
inductive Statement : List Token → Stmt → Nat → Prop
  | block {ts ss d} (h : Separated (.symbol .semicolon) Statement ts ss d) :
      Statement (.keyword .blockBegin :: (ts ++ [.keyword .blockEnd])) (.block ss) (d + 1)
  | assign {ts e d} (name : String) (h : Expression ts e d) :
      Statement (.identifier name :: .symbol .assign :: ts) (.assign ⟨name⟩ e) d
  | skip : Statement [] .skip 0

/-- Statements with semicolons between them. -/
abbrev Statements := Separated (.symbol .semicolon) Statement

/-- Statements between `BEGIN` and `END`. -/
inductive Block : List Token → List Stmt → Nat → Prop
  | mk {ts ss d} (h : Statements ts ss d) :
      Block (.keyword .blockBegin :: (ts ++ [.keyword .blockEnd])) ss (d + 1)

/-- A name. -/
inductive Identifier : List Token → String → Nat → Prop
  | mk (name : String) : Identifier [.identifier name] name 0

/-- The keyword that names a type. -/
def typeToken : TypeName → Token
  | .integer => .keyword .integer
  | .real => .keyword .real

/-- Names and their type, which stand for one declaration of each name. -/
inductive Declaration : List Token → List MiniPascal.Declaration → Prop
  | mk {ts names d} (h : Separated (.symbol .comma) Identifier ts names d) (type : TypeName) :
      Declaration (ts ++ [.symbol .colon, typeToken type]) (names.map fun n => ⟨⟨n⟩, type⟩)

/-- One or more declarations with a semicolon after each. -/
inductive Section : List Token → List MiniPascal.Declaration → Prop
  | one {ts ds} (h : Declaration ts ds) : Section (ts ++ [.symbol .semicolon]) ds
  | more {ts ds us es} (h : Declaration ts ds) (rest : Section us es) :
      Section (ts ++ .symbol .semicolon :: us) (ds ++ es)

/-- Sections of declarations with `VAR` before each. -/
inductive Declarations : List Token → List MiniPascal.Declaration → Prop
  | none : Declarations [] []
  | more {ts ds us es} (h : Section ts ds) (rest : Declarations us es) :
      Declarations (.keyword .var :: (ts ++ us)) (ds ++ es)

/-- A heading, declarations and a block. -/
inductive Program : List Token → MiniPascal.Program → Nat → Prop
  | mk {ts ds us ss d} (name : String) (declarations : Declarations ts ds) (body : Block us ss d) :
      Program (.keyword .program :: .identifier name :: .symbol .semicolon :: (ts ++ (us ++ [.symbol .dot])))
        ⟨name, ds, ss⟩ d

/-- Induction on statements, where the statements of a block are smaller ones. -/
theorem Statement.induction {motive : (ts : List Token) → (s : Stmt) → (d : Nat) → Statement ts s d → Prop}
    (block : ∀ {ts ss d} (h : Statements ts ss d),
      Separated (.symbol .semicolon) (fun ts s d => ∃ h, motive ts s d h) ts ss d → motive _ _ _ (.block h))
    (assign : ∀ {ts e d} (name : String) (h : Expression ts e d), motive _ _ _ (.assign name h))
    (skip : motive _ _ _ .skip) {ts : List Token} {s : Stmt} {d : Nat} (h : Statement ts s d) :
    motive ts s d h :=
  @Statement.rec motive
    (fun ts ss d _ => Separated (.symbol .semicolon) (fun ts s d => ∃ h, motive ts s d h) ts ss d)
    block assign skip (fun h hm => .one ⟨h, hm⟩) (fun h _ hm rest => .more ⟨h, hm⟩ rest) _ _ _ h

end Grammar
end MiniPascal
