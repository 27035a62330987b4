import Mathlib.Data.List.Forall2
import MiniPascal.Tree.Drawing

/-! # Lines and nodes

A drawing has a line for each node of the walk. Before the branch to its node stands nothing but branches of other
levels and blanks, three for each level, and so the line tells the depth of the node and its label. The lines
themselves can be told apart as long as no label is broken over lines. -/

namespace MiniPascal.Outline

/-- The characters that may stand before the branch to a node. -/
def margins : List Char := [' ', '│', '├', '└']

/-- What stands before the branch to a node at this depth. -/
def Indents (depth : Nat) (lead : String) : Prop :=
  lead.length = 3 * depth ∧ ∀ c ∈ lead.toList, c ∈ margins

/-- The line of a node of a walk: the indentation of its depth, and its label behind the branch. -/
def Draws (line : String) (x : Nat × Node × Nat) : Prop :=
  ∃ lead, Indents x.1 lead ∧ line = lead ++ "─(" ++ x.2.1.label ++ ")"

section
variable {depth : Nat} {lead margin line : String} {x y : Nat × Node × Nat}

theorem indents_nothing : Indents 0 "" := ⟨rfl, nofun⟩

theorem indents_level (branch : String) (length : branch.length = 3)
    (chars : branch.toList.all margins.contains = true) : Indents 1 branch :=
  ⟨length, fun c mem => List.contains_iff_mem.mp (List.all_eq_true.mp chars c mem)⟩

theorem Indents.append {level : Nat} (h : Indents depth lead) (h' : Indents level margin) :
    Indents (depth + level) (lead ++ margin) := by
  constructor
  · rw [String.length_append, h.1, h'.1, Nat.mul_add]
  · rw [String.toList_append]
    exact List.forall_mem_append.mpr ⟨h.2, h'.2⟩

/-! ### Indentations that go on -/

theorem continuation_nothing : continuation "" = "" := rfl

theorem continuation_push (indent : String) (c : Char) : continuation (indent.push c) = indent.push (goesOn c) := by
  rw [continuation, String.toList_push, List.getLast?_concat, List.dropLast_concat]
  exact String.toList_inj.mp (by rw [String.toList_ofList, String.toList_push])

/-- The last branch below a node leaves a blank. -/
theorem continuation_last (base : String) : continuation (base ++ "  └") = base ++ "   " := by
  have last : base ++ "  └" = (base ++ "  ").push '└' := String.toList_inj.mp (by simp)
  rw [last, continuation_push]
  exact String.toList_inj.mp (by simp [goesOn])

/-- Every other branch goes on beside the lines below it. -/
theorem continuation_other (base : String) : continuation (base ++ "  ├") = base ++ "  │" := by
  have last : base ++ "  ├" = (base ++ "  ").push '├' := String.toList_inj.mp (by simp)
  rw [last, continuation_push]
  exact String.toList_inj.mp (by simp [goesOn])

mutual

theorem linesBelow_draw : ∀ (t : Outline) {depth : Nat} {indent : String}, Indents depth indent →
    Indents depth (continuation indent) → List.Forall₂ Draws (t.linesBelow indent) (t.walk depth)
  | ⟨_, cs⟩, _, indent, h, base => .cons ⟨indent, h, rfl⟩ (childLines_draw cs base)

/-- Every line below a node draws a node of the walk, in the order of the walk. -/
theorem childLines_draw : ∀ (ts : List Outline) {depth : Nat} {base : String}, Indents depth base →
    List.Forall₂ Draws (childLines base ts) (walkAll (depth + 1) ts)
  | [], _, _, _ => .nil
  | [t], depth, base, h => by
    have blank : Indents (depth + 1) (continuation (base ++ "  └")) := by
      rw [continuation_last]
      exact h.append (indents_level "   " rfl rfl)
    rw [childLines, walkAll, walkAll, List.append_nil]
    exact linesBelow_draw t (h.append (indents_level "  └" rfl rfl)) blank
  | t :: u :: ts, depth, base, h => by
    rw [childLines, walkAll]
    · have beside : Indents (depth + 1) (continuation (base ++ "  ├")) := by
        rw [continuation_other]
        exact h.append (indents_level "  │" rfl rfl)
      have first := linesBelow_draw t (h.append (indents_level "  ├" rfl rfl)) beside
      exact List.rel_append first (childLines_draw (u :: ts) h)
    · exact nofun

end

theorem lines_draw (t : Outline) : List.Forall₂ Draws t.lines (t.walk 0) :=
  linesBelow_draw t indents_nothing indents_nothing

/-! ### What a line tells -/

/-- Equal texts are equal before and after the first character of a kind. -/
theorem split_at_first {c : Char} {xs ys us vs : List Char} (hx : c ∉ xs) (hy : c ∉ ys)
    (same : xs ++ c :: us = ys ++ c :: vs) : xs = ys ∧ us = vs := by
  induction xs generalizing ys with
  | nil =>
    cases ys with
    | nil => exact ⟨rfl, List.tail_eq_of_cons_eq same⟩
    | cons y ys =>
      obtain rfl : c = y := List.head_eq_of_cons_eq same
      exact absurd List.mem_cons_self hy
  | cons x xs ih =>
    cases ys with
    | nil =>
      obtain rfl : x = c := List.head_eq_of_cons_eq same
      exact absurd List.mem_cons_self hx
    | cons y ys =>
      obtain ⟨rfl, others⟩ : x = y ∧ xs ++ c :: us = ys ++ c :: vs := List.cons.inj same
      obtain ⟨rfl, rest⟩ := ih (mt (List.mem_cons_of_mem _) hx) (mt (List.mem_cons_of_mem _) hy) others
      exact ⟨rfl, rest⟩

theorem Indents.not_mem {c : Char} (h : Indents depth lead) (other : c ∉ margins) : c ∉ lead.toList :=
  fun mem => other (h.2 c mem)

/-- What a drawing tells of a node: its depth and its label. -/
def mark (x : Nat × Node × Nat) : Nat × String := (x.1, x.2.1.label)

theorem toList_line (lead label : String) :
    (lead ++ "─(" ++ label ++ ")").toList = lead.toList ++ '─' :: '(' :: (label.toList ++ [')']) := by
  simp

/-- The branch ends the indentation, so a line tells the depth and the label of its node. -/
theorem Draws.unique (h : Draws line x) (h' : Draws line y) : mark x = mark y := by
  obtain ⟨lead, indents, rfl⟩ := h
  obtain ⟨lead', indents', same⟩ := h'
  have characters := congrArg String.toList same
  rw [toList_line, toList_line] at characters
  obtain ⟨leads, rest⟩ := split_at_first (indents.not_mem (by decide)) (indents'.not_mem (by decide)) characters
  have label : x.2.1.label = y.2.1.label :=
    String.toList_inj.mp (List.append_cancel_right (List.tail_eq_of_cons_eq rest))
  have depth : 3 * x.1 = 3 * y.1 := by
    rw [← indents.1, ← indents'.1, String.toList_inj.mp leads]
  exact Prod.ext (Nat.eq_of_mul_eq_mul_left (by decide) depth) label

theorem Draws.not_newline (h : Draws line x) (plain : '\n' ∉ x.2.1.label.toList) : '\n' ∉ line.toList := by
  obtain ⟨lead, indents, rfl⟩ := h
  have before : '\n' ∉ lead.toList := indents.not_mem (by decide)
  rw [toList_line]
  simp [before, plain]

end

/-! ### What a drawing tells -/

/-- Lines can be told apart in the text that ends each of them. -/
theorem lines_of_join {ls ms : List String} (hl : ∀ l ∈ ls, '\n' ∉ l.toList) (hm : ∀ m ∈ ms, '\n' ∉ m.toList)
    (same : String.join (ls.map (· ++ "\n")) = String.join (ms.map (· ++ "\n"))) : ls = ms := by
  induction ls generalizing ms with
  | nil =>
    cases ms with
    | nil => rfl
    | cons m ms => simp at same
  | cons l ls ih =>
    cases ms with
    | nil => simp at same
    | cons m ms =>
      obtain ⟨first, others⟩ := List.forall_mem_cons.mp hl
      obtain ⟨first', others'⟩ := List.forall_mem_cons.mp hm
      have characters := congrArg String.toList same
      rw [List.map_cons, List.map_cons, String.join_cons, String.join_cons] at characters
      simp only [String.toList_append, List.append_assoc] at characters
      obtain ⟨line, rest⟩ := split_at_first first first' characters
      rw [String.toList_inj.mp line, ih others others' (String.toList_inj.mp rest)]

theorem marks_of_lines {ls : List String} {xs ys : List (Nat × Node × Nat)} (h : List.Forall₂ Draws ls xs)
    (h' : List.Forall₂ Draws ls ys) : xs.map mark = ys.map mark := by
  induction h generalizing ys with
  | nil =>
    cases h'
    rfl
  | cons draws _ ih =>
    cases h' with
    | cons draws' others => rw [List.map_cons, List.map_cons, draws.unique draws', ih others]

/-- No label in the outline is broken over lines. -/
inductive Plain : Outline → Prop
  | mk {n cs} (label : '\n' ∉ n.label.toList) (children : ∀ t ∈ cs, Plain t) : Plain ⟨n, cs⟩

mutual

theorem Plain.walk : ∀ {t : Outline}, t.Plain → ∀ {depth : Nat}, ∀ x ∈ t.walk depth, '\n' ∉ x.2.1.label.toList
  | ⟨_, _⟩, .mk label children, _ => List.forall_mem_cons.mpr ⟨label, Plain.walkAll children⟩

theorem Plain.walkAll : ∀ {ts : List Outline}, (∀ t ∈ ts, t.Plain) → ∀ {depth : Nat}, ∀ x ∈ Outline.walkAll depth ts,
    '\n' ∉ x.2.1.label.toList
  | [], _, _ => nofun
  | _ :: _, plain, _ =>
    have ⟨first, others⟩ := List.forall_mem_cons.mp plain
    List.forall_mem_append.mpr ⟨first.walk, Plain.walkAll others⟩

end

theorem not_newline_of_lines {ls : List String} {xs : List (Nat × Node × Nat)} (h : List.Forall₂ Draws ls xs)
    (plain : ∀ x ∈ xs, '\n' ∉ x.2.1.label.toList) : ∀ l ∈ ls, '\n' ∉ l.toList := by
  induction h with
  | nil => exact nofun
  | cons draws _ ih =>
    obtain ⟨first, others⟩ := List.forall_mem_cons.mp plain
    exact List.forall_mem_cons.mpr ⟨draws.not_newline first, ih others⟩

theorem Plain.lines {t : Outline} (h : t.Plain) : ∀ l ∈ t.lines, '\n' ∉ l.toList :=
  not_newline_of_lines t.lines_draw h.walk

/-- Equal drawings tell the same of every node. -/
theorem marks_of_draw {t u : Outline} (ht : t.Plain) (hu : u.Plain) (same : t.draw = u.draw) :
    (t.walk 0).map mark = (u.walk 0).map mark := by
  have lines : t.lines = u.lines := lines_of_join ht.lines hu.lines same
  have draws := t.lines_draw
  rw [lines] at draws
  exact marks_of_lines draws u.lines_draw

end MiniPascal.Outline
