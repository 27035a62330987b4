import MiniPascal.Parser.Statement

/-! # Parsing programs

    program      := "PROGRAM" identifier ";" declarations block "."
    declarations := ("VAR" (declaration ";")+)*
    declaration  := identifier ("," identifier)* ":" ("INTEGER" | "REAL")

A declaration of several names stands for one declaration of each, in their order. -/

namespace MiniPascal
namespace Parser

section
variable {σ : Type} [Watched σ]

/-- A type. -/
def typeName : Rule σ TypeName := do
  match (← ahead) with
  | some (.keyword .integer) => advance; pure .integer
  | some (.keyword .real) => advance; pure .real
  | _ => fail .typeName

/-- A declaration of one or more names. There are no more commas than tokens. -/
def declaration : Rule σ (List Declaration) := do
  let name ← identifier
  let names ← bounded (·.tokens.length) (repeated (.symbol .comma) identifier)
  eat (.symbol .colon)
  let type ← typeName
  pure ((name :: names).map fun n => ⟨⟨n⟩, type⟩)

/-- Declarations with a separator after each, up to the first that does not start with a name, and at
most the given number of them. -/
def declarationsFrom : Nat → Rule σ (List Declaration)
  | 0 => pure []
  | n + 1 => do
    let ds ← declaration
    eat (.symbol .semicolon)
    match (← ahead) with
    | some (.identifier _) => return ds ++ (← declarationsFrom n)
    | _ => pure ds

/-- The declarations of a section, one at least. There are no more of them than tokens. -/
def declarationList : Rule σ (List Declaration) := bounded (·.tokens.length + 1) declarationsFrom

/-- Sections of declarations, at most the given number of them. -/
def sectionsFrom : Nat → Rule σ (List Declaration)
  | 0 => pure []
  | n + 1 => do
    if (← ahead) = some (.keyword .var) then
      advance
      let ds ← declarationList
      let more ← sectionsFrom n
      pure (ds ++ more)
    else
      pure []

/-- All declarations of a program. There are no more sections than tokens. -/
def declarations : Rule σ (List Declaration) := bounded (·.tokens.length) sectionsFrom

/-- A program. -/
def program : Rule σ Program := do
  eat (.keyword .program)
  let name ← identifier
  eat (.symbol .semicolon)
  let declarations ← declarations
  let body ← block
  eat (.symbol .dot)
  pure ⟨name, declarations, body⟩

end
end Parser

/-- The program that a whole text is. -/
def Program.parse (text : String) : Except Error Program :=
  Parser.run Parser.program (.ofText text)

end MiniPascal
