import MiniPascal.Proofs.Drawing.Labels
import MiniPascal.Proofs.Printing

/-! # Trees from drawings

The drawing of a parsed tree determines the tree. The labels of its nodes do not always tell which nodes they are, as
`+` may be a sign or an operator and a name may stand for a target or for a value. But the number of children tells
the one from the other, and numbers and names are told apart by how they are spelled. -/

namespace MiniPascal
open Grammar

/-! ### Labels -/

theorem Grammar.Spells.not_newline {x : List Char} {t : Token} (h : Spells x t) : '\n' ∉ x :=
  fun mem => nomatch (h.bare _ mem).1

theorem UnaryOp.text_injective {op op' : UnaryOp} (same : op.text = op'.text) : op = op' := by
  cases op <;> cases op' <;> simp_all [text]

theorem BinaryOp.text_injective {op op' : BinaryOp} (same : op.text = op'.text) : op = op' := by
  cases op <;> cases op' <;> simp_all [text]

theorem TypeName.text_injective {t t' : TypeName} (same : t.text = t'.text) : t = t' := by
  cases t <;> cases t' <;> simp_all [text]

/-! ### Expressions -/

namespace Expr.Legible
variable {e f : Expr}

theorem plain (h : e.Legible) : e.outline.Plain := by
  induction h with
  | literal spells => exact .mk (value_text_spells spells).not_newline nofun
  | var spells => exact .mk spells.of_identifier.not_newline nofun
  | unary op _ ih =>
    refine .mk ?_ (List.forall_mem_singleton.mpr ih)
    cases op <;> decide
  | binary op _ _ ihl ihr =>
    refine .mk ?_ (List.forall_mem_cons.mpr ⟨ihl, List.forall_mem_singleton.mpr ihr⟩)
    cases op <;> decide

/-- The labels of an expression determine it: the number of operands tells which kind of node has the label, and a
label without operands is the spelling of a number or of a name. -/
theorem eq_of_labels (he : e.Legible) (hf : f.Legible) (same : e.outline.labels = f.outline.labels) : e = f := by
  induction he generalizing f with
  | @literal v _ spells =>
    have number := value_text_spells spells
    cases hf with
    | @literal w _ spells' =>
      have text : v.text = w.text := congrArg Labels.label same
      rw [text] at number
      cases number.unique (value_text_spells spells')
      rfl
    | @var name _ spells' =>
      have text : v.text = name := congrArg Labels.label same
      -- No text spells both a number and a name.
      rw [text] at number
      cases number.unique spells'.of_identifier
    | unary | binary => cases congrArg Labels.children same
  | @var name _ spells =>
    cases hf with
    | @literal v _ spells' =>
      have number := value_text_spells spells'
      have text : v.text = name := congrArg Labels.label same.symm
      rw [text] at number
      cases spells.of_identifier.unique number
    | @var name' =>
      obtain rfl : name = name' := congrArg Labels.label same
      rfl
    | unary | binary => cases congrArg Labels.children same
  | unary op _ ih =>
    have operands := congrArg Labels.children same
    cases hf with
    | unary op' hf =>
      obtain rfl := UnaryOp.text_injective (congrArg Labels.label same)
      rw [ih hf (List.cons.inj operands).1]
    | binary => cases (List.cons.inj operands).2
    | literal | var => cases operands
  | binary op _ _ ihl ihr =>
    have operands := congrArg Labels.children same
    cases hf with
    | binary op' hl hr =>
      obtain rfl := BinaryOp.text_injective (congrArg Labels.label same)
      obtain ⟨left, others⟩ := List.cons.inj operands
      rw [ihl hl left, ihr hr (List.cons.inj others).1]
    | unary => cases (List.cons.inj operands).2
    | literal | var => cases operands

end Expr.Legible

/-! ### Statements -/

namespace Stmt

theorem outlines_eq_map (ss : List Stmt) : outlines ss = ss.map outline := by
  induction ss with
  | nil => rfl
  | cons s ss ih => rw [outlines, ih, List.map_cons]

/-- What the labels of every statement determine, the labels of all statements determine. -/
theorem eq_of_labelsAll {ss ts : List Stmt} (hs : ∀ s ∈ ss, ∀ t ∈ ts, s.outline.labels = t.outline.labels → s = t)
    (same : Outline.labelsAll (outlines ss) = Outline.labelsAll (outlines ts)) : ss = ts := by
  induction ss generalizing ts with
  | nil =>
    cases ts with
    | nil => rfl
    | cons t ts => cases same
  | cons s ss ih =>
    cases ts with
    | nil => cases same
    | cons t ts =>
      obtain ⟨first, others⟩ := List.cons.inj same
      rw [hs s List.mem_cons_self t List.mem_cons_self first]
      rw [ih (fun s mem t mem' => hs s (List.mem_cons_of_mem _ mem) t (List.mem_cons_of_mem _ mem')) others]

namespace Legible
variable {s t : Stmt}

theorem plain (h : s.Legible) : s.outline.Plain := by
  induction h with
  | block _ _ ih =>
    refine .mk (by decide) ?_
    rw [outlines_eq_map]
    exact List.forall_mem_map.mpr ih
  | assign target value =>
    have name : Outline.Plain ⟨.target ⟨_⟩, []⟩ := .mk target.of_identifier.not_newline nofun
    exact .mk (by decide) (List.forall_mem_cons.mpr ⟨name, List.forall_mem_singleton.mpr value.plain⟩)
  | skip => exact .mk (by decide) nofun

theorem compound_plain {ss : List Stmt} (h : (Stmt.block ss).Legible) : (compoundOutline ss).Plain := by
  cases h.plain with
  | mk _ children => exact .mk (by decide) children

/-- The labels of the three kinds of statements differ, so they determine the statement. -/
theorem eq_of_labels (hs : s.Legible) (ht : t.Legible) (same : s.outline.labels = t.outline.labels) : s = t := by
  induction hs generalizing t with
  | @block ss _ _ ih =>
    have label : t.outline.labels.label = "COMPOUND" := congrArg Labels.label same.symm
    cases ht with
    | @block ts _ ht =>
      have statements : ss = ts :=
        eq_of_labelsAll (fun s mem t mem' => ih s mem (ht t mem')) (congrArg Labels.children same)
      rw [statements]
    | assign => exact absurd (show ":=" = "COMPOUND" from label) (by decide)
    | skip => exact absurd (show "NOOP" = "COMPOUND" from label) (by decide)
  | @assign name _ _ _ value =>
    have label : t.outline.labels.label = ":=" := congrArg Labels.label same.symm
    cases ht with
    | @assign name' _ _ _ value' =>
      obtain ⟨target, others⟩ := List.cons.inj (congrArg Labels.children same)
      obtain rfl : name = name' := congrArg Labels.label target
      rw [value.eq_of_labels value' (List.cons.inj others).1]
    | block => exact absurd (show "COMPOUND" = ":=" from label) (by decide)
    | skip => exact absurd (show "NOOP" = ":=" from label) (by decide)
  | skip =>
    have label : t.outline.labels.label = "NOOP" := congrArg Labels.label same.symm
    cases ht with
    | skip => rfl
    | block => exact absurd (show "COMPOUND" = "NOOP" from label) (by decide)
    | assign => exact absurd (show ":=" = "NOOP" from label) (by decide)

end Legible
end Stmt

/-! ### Declarations and programs -/

/-- The name of the declaration has a spelling. -/
def Declaration.Legible (d : Declaration) : Prop :=
  ∃ x, Spells x (.identifier d.var.name)

/-- Every number and every name in the program has a spelling. -/
structure Program.Legible (p : Program) : Prop where
  name : ∃ x, Spells x (.identifier p.name)
  declarations : ∀ d ∈ p.declarations, d.Legible
  body : (Stmt.block p.body).Legible

section
variable {ts : List Token} {ds : List MiniPascal.Declaration} {d : Nat}

theorem Grammar.Separated.spelled {names : List String} (h : Separated (.symbol .comma) Identifier ts names d)
    (spelled : Spelled ts) : ∀ n ∈ names, ∃ x, Spells x (.identifier n) := by
  induction h with
  | one last =>
    cases last
    exact List.forall_mem_singleton.mpr (spelled_cons.mp spelled).1
  | more first _ ih =>
    cases first
    obtain ⟨name, others⟩ := spelled_cons.mp spelled
    exact List.forall_mem_cons.mpr ⟨name, ih (spelled_cons.mp others).2⟩

theorem Grammar.Declaration.legible (h : Declaration ts ds) (spelled : Spelled ts) : ∀ d ∈ ds, d.Legible := by
  obtain ⟨names, type⟩ := h
  exact List.forall_mem_map.mpr (names.spelled (spelled_append.mp spelled).1)

theorem Grammar.Section.legible (h : Section ts ds) (spelled : Spelled ts) : ∀ d ∈ ds, d.Legible := by
  induction h with
  | one declaration => exact declaration.legible (spelled_append.mp spelled).1
  | more declaration _ ih =>
    obtain ⟨first, others⟩ := spelled_append.mp spelled
    exact List.forall_mem_append.mpr ⟨declaration.legible first, ih (spelled_cons.mp others).2⟩

theorem Grammar.Declarations.legible (h : Declarations ts ds) (spelled : Spelled ts) : ∀ d ∈ ds, d.Legible := by
  induction h with
  | none => exact nofun
  | more declared _ ih =>
    obtain ⟨first, others⟩ := spelled_append.mp (spelled_cons.mp spelled).2
    exact List.forall_mem_append.mpr ⟨declared.legible first, ih others⟩

/-- A program of spelled tokens is legible, its heading and its declarations included. -/
theorem Grammar.Program.legible_whole {p : MiniPascal.Program} (h : Program ts p d) (spelled : Spelled ts) :
    p.Legible := by
  have body := h.legible spelled
  obtain ⟨name, declarations, _⟩ := h
  obtain ⟨name, others⟩ := spelled_cons.mp (spelled_cons.mp spelled).2
  exact ⟨name, declarations.legible (spelled_append.mp (spelled_cons.mp others).2).1, body⟩

end

theorem Declaration.Legible.plain {d : Declaration} (h : d.Legible) : d.outline.Plain := by
  obtain ⟨x, spells⟩ := h
  have type : Outline.Plain ⟨.type d.type, []⟩ := by
    refine .mk ?_ nofun
    cases d.type <;> decide
  refine .mk ?_ (List.forall_mem_singleton.mpr type)
  show '\n' ∉ ("VAR " ++ d.var.name).toList
  simp [String.toList_append, spells.of_identifier.not_newline]

theorem Declaration.eq_of_labels {d e : Declaration} (same : d.outline.labels = e.outline.labels) : d = e := by
  obtain ⟨⟨name⟩, type⟩ := d
  obtain ⟨⟨name'⟩, type'⟩ := e
  have names : "VAR " ++ name = "VAR " ++ name' := congrArg Labels.label same
  have types := (List.cons.inj (congrArg Labels.children same)).1
  obtain rfl := (String.append_right_inj _).mp names
  obtain rfl : type = type' := TypeName.text_injective (congrArg Labels.label types)
  rfl

namespace Program
variable {p q : Program}

theorem legible_of_parse {text : String} (h : parse text = .ok p) : p.Legible := by
  obtain ⟨-, _, derivation⟩ := Parser.run_sound Parser.program_obeys Parser.exists_program h
  exact derivation.legible_whole (spelled_ofText text)

theorem Legible.plain (h : p.Legible) : p.outline.Plain := by
  obtain ⟨x, spells⟩ := h.name
  have declarations : ∀ t ∈ p.declarations.map Declaration.outline, t.Plain :=
    List.forall_mem_map.mpr fun d mem => (h.declarations d mem).plain
  have block : Outline.Plain ⟨.block, p.declarations.map Declaration.outline ++ [Stmt.compoundOutline p.body]⟩ :=
    .mk (by decide) (List.forall_mem_append.mpr ⟨declarations, List.forall_mem_singleton.mpr h.body.compound_plain⟩)
  refine .mk ?_ (List.forall_mem_singleton.mpr block)
  show '\n' ∉ ("PROGRAM " ++ p.name).toList
  simp [String.toList_append, spells.of_identifier.not_newline]

/-- The labels of a program determine it: the body is the last child of the block, and the declarations are the
children before it. -/
theorem eq_of_labels (hp : p.Legible) (hq : q.Legible) (same : p.outline.labels = q.outline.labels) : p = q := by
  obtain ⟨name, ds, ss⟩ := p
  obtain ⟨name', es, ts⟩ := q
  have names : "PROGRAM " ++ name = "PROGRAM " ++ name' := congrArg Labels.label same
  have blocks := congrArg Labels.children (List.cons.inj (congrArg Labels.children same)).1
  change Outline.labelsAll (ds.map _ ++ [_]) = Outline.labelsAll (es.map _ ++ [_]) at blocks
  simp only [Outline.labelsAll_eq_map, List.map_append, List.map_map] at blocks
  -- Both lists of children end with one body, so what stands before it are the declarations.
  obtain ⟨declarations, bodies⟩ := List.append_inj' blocks rfl
  obtain rfl := (String.append_right_inj _).mp names
  obtain rfl : ds = es := List.map_injective_iff.mpr (fun _ _ => Declaration.eq_of_labels) declarations
  have statements : ss = ts := by
    cases hp.body with
    | block _ hs =>
      cases hq.body with
      | block _ ht =>
        have children := congrArg Labels.children (List.cons.inj bodies).1
        exact Stmt.eq_of_labelsAll (fun s mem t mem' => (hs s mem).eq_of_labels (ht t mem')) children
  rw [statements]

end Program

/-! ### Drawings -/

/-- Two parsed programs with one drawing are the same program, and two parsed expressions with one drawing are the same
expression. -/
theorem drawing_determines_tree (a b : String) :
    (∀ p q, Program.parse a = .ok p → Program.parse b = .ok q → p.outline.draw = q.outline.draw → p = q) ∧
      ∀ e f, Expr.parse a = .ok e → Expr.parse b = .ok f → e.outline.draw = f.outline.draw → e = f := by
  refine ⟨fun p q hp hq same => ?_, fun e f he hf same => ?_⟩
  · have left := Program.legible_of_parse hp
    have right := Program.legible_of_parse hq
    exact Program.eq_of_labels left right (Outline.labels_of_draw left.plain right.plain same)
  · have left := Parser.legible_of_expression he
    have right := Parser.legible_of_expression hf
    exact left.eq_of_labels right (Outline.labels_of_draw left.plain right.plain same)

theorem drawing_determines_tree_of_signs :
    (∃ p q, Program.parse "PROGRAM p; VAR x: REAL; BEGIN x := -1.50 - +y END." = .ok p ∧
      Program.parse "program p; var x : real; begin x := (-1.5) - (+y){ } end." = .ok q ∧ p = q) ∧
      ∃ e f, Expr.parse "1 - 2 - 3" = .ok e ∧ Expr.parse "1 - (2 - 3)" = .ok f ∧ e.outline.draw ≠ f.outline.draw := by
  have program : Program.parse "PROGRAM p; VAR x: REAL; BEGIN x := -1.50 - +y END." =
      .ok ⟨"p", [⟨⟨"x"⟩, .real⟩], [.assign ⟨"x"⟩
        (.binary .sub (.unary .minus (.literal (.real 1.5))) (.unary .plus (.var ⟨"y"⟩)))]⟩ := by decide +kernel
  have program' : Program.parse "program p; var x : real; begin x := (-1.5) - (+y){ } end." =
      .ok ⟨"p", [⟨⟨"x"⟩, .real⟩], [.assign ⟨"x"⟩
        (.binary .sub (.unary .minus (.literal (.real 1.5))) (.unary .plus (.var ⟨"y"⟩)))]⟩ := by decide +kernel
  have left : Expr.parse "1 - 2 - 3" =
      .ok (.binary .sub (.binary .sub (.literal (.int 1)) (.literal (.int 2))) (.literal (.int 3))) := by decide +kernel
  have right : Expr.parse "1 - (2 - 3)" =
      .ok (.binary .sub (.literal (.int 1)) (.binary .sub (.literal (.int 2)) (.literal (.int 3)))) := by decide +kernel
  refine ⟨⟨_, _, program, program', (drawing_determines_tree _ _).1 _ _ program program' rfl⟩, _, _, left, right, ?_⟩
  exact fun same => absurd ((drawing_determines_tree _ _).2 _ _ left right same) (by decide)

end MiniPascal
