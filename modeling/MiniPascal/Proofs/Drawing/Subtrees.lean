import MiniPascal.Proofs.Drawing

/-! # Drawings of subtrees

A drawing is put together from the drawings of the children: each of them hangs on a branch below the line of the
node, and nothing in it is drawn anew. So a subtree is drawn in every tree as it is drawn alone, with the same
characters before all of its lines but the first. -/

namespace MiniPascal.Outline

/-- A drawing that hangs on a branch. The branch stands before its first line, and what goes on beside it before the
others. -/
def hang (branch beside : String) : List String → List String
  | [] => []
  | l :: ls => (branch ++ l) :: ls.map (beside ++ ·)

/-- Drawings that hang below one node. The last of them ends the branch, which goes on beside the others. -/
def branches : List (List String) → List String
  | [] => []
  | [drawing] => hang "  └" "   " drawing
  | drawing :: drawings => hang "  ├" "  │" drawing ++ branches drawings

/-- The text consists of these lines, each of them ended. -/
def LinesOf (text : String) (ls : List String) : Prop :=
  (∀ l ∈ ls, '\n' ∉ l.toList) ∧ text = String.join (ls.map (· ++ "\n"))

/-- The outline of what some text is parsed to. -/
inductive Parsed : Outline → Prop
  | program {text p} (h : Program.parse text = .ok p) : Parsed p.outline
  | expression {text e} (h : Expr.parse text = .ok e) : Parsed e.outline
  | statements {text ss} (h : Stmt.parseAll text = .ok ss) : Parsed (Stmt.compoundOutline ss)

/-! ### Lines from the lines of the children -/

section
variable {branch beside lead margin : String} {ls : List String}

theorem hang_nothing (ls : List String) : hang "" "" ls = ls := by
  cases ls <;> simp [hang]

theorem map_hang (m : String) : (hang lead margin ls).map (m ++ ·) = hang (m ++ lead) (m ++ margin) ls := by
  cases ls <;> simp [hang, String.append_assoc]

mutual

theorem linesBelow_eq_hang : ∀ (t : Outline) (indent : String),
    t.linesBelow indent = hang indent (continuation indent) t.lines
  | ⟨n, cs⟩, indent => by
    rw [lines, linesBelow, linesBelow, hang, continuation_nothing, childLines_eq_branches cs (continuation indent),
      childLines_eq_branches cs ""]
    simp [String.append_assoc]

theorem childLines_eq_branches : ∀ (ts : List Outline) (base : String),
    childLines base ts = (branches (ts.map lines)).map (base ++ ·)
  | [], _ => rfl
  | [t], base => by
    rw [childLines, linesBelow_eq_hang t, continuation_last, ← map_hang]
    rfl
  | t :: u :: ts, base => by
    rw [childLines, linesBelow_eq_hang t, continuation_other, ← map_hang, childLines_eq_branches (u :: ts) base,
      ← List.map_append]
    · rfl
    · exact nofun

end

/-- A drawing is the line of its node and the drawings of the children below it. -/
theorem lines_eq_branches (t : Outline) :
    t.lines = ("─(" ++ t.node.label ++ ")") :: branches (t.children.map lines) := by
  obtain ⟨n, cs⟩ := t
  rw [lines, linesBelow, continuation_nothing, childLines_eq_branches cs ""]
  simp [node, children]

/-! ### Lines inside of a drawing -/

/-- What hangs inside of a drawing that hangs on a branch hangs on both. -/
theorem exists_hang_hang (branch beside lead margin : String) (ls before after : List String) :
    ∃ before' x after', (x = branch ∨ x = beside) ∧
      hang branch beside (before ++ hang lead margin ls ++ after) =
        before' ++ hang (x ++ lead) (beside ++ margin) ls ++ after' := by
  -- The branch stands before the first line only, so it matters whether the inner drawing comes first.
  cases before with
  | cons l others =>
    refine ⟨(branch ++ l) :: others.map (beside ++ ·), beside, after.map (beside ++ ·), .inr rfl, ?_⟩
    rw [List.append_assoc, List.cons_append, hang, List.map_append, List.map_append, map_hang]
    simp
  | nil =>
    cases ls with
    | nil => exact ⟨hang branch beside after, branch, [], .inl rfl, by simp [hang]⟩
    | cons l ls => exact ⟨[], branch, after.map (beside ++ ·), .inl rfl, by simp [hang, String.append_assoc]⟩

/-- Every one of the drawings below a node hangs there. -/
theorem exists_hang_branches {drawings : List (List String)} {i : Nat} (h : drawings[i]? = some ls) :
    ∃ before branch beside after, branches drawings = before ++ hang branch beside ls ++ after ∧
      Indents 1 branch ∧ Indents 1 beside := by
  induction drawings generalizing i with
  | nil => cases h
  | cons drawing drawings ih =>
    rcases i with _ | i
    · cases h
      cases drawings with
      | nil =>
        exact ⟨[], _, _, [], (List.append_nil _).symm, indents_level "  └" rfl rfl, indents_level "   " rfl rfl⟩
      | cons => exact ⟨[], _, _, _, rfl, indents_level "  ├" rfl rfl, indents_level "  │" rfl rfl⟩
    · obtain ⟨before, branch, beside, after, split, first, others⟩ := ih h
      cases drawings with
      | nil => cases h
      | cons =>
        refine ⟨hang "  ├" "  │" drawing ++ before, branch, beside, after, ?_, first, others⟩
        rw [branches, split]
        · simp
        · exact nofun

/-- A subtree is drawn in the whole tree as it is drawn alone, with the same characters before all of its lines but the
first, three for each level above it. -/
theorem exists_hang {root t : Outline} {path : List Nat} (found : root.descend? path = some t) :
    ∃ before lead margin after, root.lines = before ++ hang lead margin t.lines ++ after ∧
      Indents path.length lead ∧ Indents path.length margin := by
  induction path generalizing root with
  | nil =>
    cases found
    exact ⟨[], "", "", [], by simp [hang_nothing], indents_nothing, indents_nothing⟩
  | cons i path ih =>
    obtain ⟨child, member, below⟩ := Option.bind_eq_some_iff.mp found
    obtain ⟨before, lead, margin, after, split, leads, margins⟩ := ih below
    have drawing : (root.children.map lines)[i]? = some child.lines := by
      rw [List.getElem?_map, member, Option.map_some]
    obtain ⟨above, branch, beside, rest, whole, first, others⟩ := exists_hang_branches drawing
    obtain ⟨before', x, after', which, inside⟩ := exists_hang_hang branch beside lead margin t.lines before after
    refine ⟨("─(" ++ root.node.label ++ ")") :: (above ++ before'), x ++ lead, beside ++ margin, after' ++ rest, ?_⟩
    rw [List.length_cons, Nat.add_comm]
    refine ⟨?_, ?_, others.append margins⟩
    · rw [lines_eq_branches, whole, split, inside]
      simp
    · rcases which with rfl | rfl
      · exact first.append leads
      · exact others.append leads

end

/-! ### Drawings as texts -/

theorem Plain.descend {root t : Outline} {path : List Nat} (h : root.Plain) (found : root.descend? path = some t) :
    t.Plain := by
  induction path generalizing root with
  | nil =>
    cases found
    exact h
  | cons i path ih =>
    obtain ⟨child, member, below⟩ := Option.bind_eq_some_iff.mp found
    cases h with
    | mk _ children => exact ih (children _ (List.mem_of_getElem? member)) below

theorem Plain.linesOf {t : Outline} (h : t.Plain) : LinesOf t.draw t.lines := ⟨h.lines, rfl⟩

theorem Parsed.plain {t : Outline} (h : t.Parsed) : t.Plain := by
  cases h with
  | program h => exact (Program.legible_of_parse h).plain
  | expression h => exact (Parser.legible_of_expression h).plain
  | statements h => exact (Parser.legible_of_statements h).compound_plain

/-- A subtree of a parsed tree is drawn the same in every context. Its lines are that of its node and those of its
children, each hanging on a branch. It has one line for each node, parents before children, with three characters for
each level, and in the drawing of the whole tree these lines stand as they are, behind the characters of the levels
above. -/
theorem subtrees_drawn_alike {root t : Outline} {path : List Nat} (parsed : root.Parsed)
    (found : root.descend? path = some t) :
    t.lines = ("─(" ++ t.node.label ++ ")") :: branches (t.children.map lines) ∧
      LinesOf t.draw t.lines ∧ List.Forall₂ Draws t.lines (t.walk 0) ∧
      ∃ before lead margin after, root.lines = before ++ hang lead margin t.lines ++ after ∧
        Indents path.length lead ∧ Indents path.length margin :=
  ⟨t.lines_eq_branches, (parsed.plain.descend found).linesOf, t.lines_draw, exists_hang found⟩

theorem subtrees_drawn_alike_in_program :
    let body := [.assign ⟨"x"⟩ (.unary .minus (.literal (.int 1))), .block [.skip]]
    let p : Program := ⟨"p", [⟨⟨"x"⟩, .real⟩], body⟩
    let t := Stmt.compoundOutline body
    Program.parse "PROGRAM p; VAR x: REAL; BEGIN x := -1; BEGIN END END." = .ok p ∧ p.outline.descend? [0, 1] = some t ∧
      t.lines = ["─(COMPOUND)", "  ├─(:=)", "  │  ├─(x)", "  │  └─(-)", "  │     └─(1)", "  └─(COMPOUND)",
        "     └─(NOOP)"] ∧
      t.lines = "─(COMPOUND)" :: branches (t.children.map lines) ∧ LinesOf t.draw t.lines ∧
      List.Forall₂ Draws t.lines (t.walk 0) ∧
      ∃ before lead margin after, p.outline.lines = before ++ hang lead margin t.lines ++ after ∧
        Indents 2 lead ∧ Indents 2 margin := by
  intro body p t
  have parsed : Program.parse "PROGRAM p; VAR x: REAL; BEGIN x := -1; BEGIN END END." = .ok p := by decide +kernel
  have drawing : t.lines = ["─(COMPOUND)", "  ├─(:=)", "  │  ├─(x)", "  │  └─(-)", "  │     └─(1)", "  └─(COMPOUND)",
    "     └─(NOOP)"] := by decide +kernel
  have found : p.outline.descend? [0, 1] = some t := rfl
  exact ⟨parsed, found, drawing, subtrees_drawn_alike (.program parsed) found⟩

end MiniPascal.Outline
