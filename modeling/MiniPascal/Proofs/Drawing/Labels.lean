import MiniPascal.Proofs.Drawing.Lines

/-! # The nesting of labels

The depths and the labels of a walk determine how the labels are nested, as parents come before their children:
whatever is deeper than a label lies below it, up to the first one that is not. So a drawing determines the labels of
its nodes and how they are nested. -/

namespace MiniPascal

/-- An outline of which only the labels are known. -/
inductive Labels where
  | mk (label : String) (children : List Labels)

namespace Labels

/-- The label at the root. -/
def label : Labels → String
  | ⟨label, _⟩ => label

/-- The labels below the root. -/
def children : Labels → List Labels
  | ⟨_, cs⟩ => cs

mutual

/-- Every label with its depth, parents before their children. -/
def marks (depth : Nat) : Labels → List (Nat × String)
  | ⟨label, cs⟩ => (depth, label) :: marksAll (depth + 1) cs

/-- The labels of trees that stand side by side at one depth. -/
def marksAll (depth : Nat) : List Labels → List (Nat × String)
  | [] => []
  | t :: ts => t.marks depth ++ marksAll depth ts

end

/-- What comes next is less deep than this. -/
def Rises (depth : Nat) (rest : List (Nat × String)) : Prop :=
  ∀ x, rest.head? = some x → x.1 < depth

variable {depth : Nat} {rest rest' : List (Nat × String)}

theorem rises_nil (depth : Nat) : Rises depth [] := by
  rintro x ⟨⟩

theorem Rises.ne_marksAll (h : Rises depth rest) (t : Labels) (ts : List Labels) :
    rest ≠ Labels.marksAll depth (t :: ts) ++ rest' := by
  obtain ⟨label, cs⟩ := t
  rintro rfl
  exact Nat.lt_irrefl depth (h (depth, label) rfl)

theorem Rises.marksAll (h : Rises depth rest) (ts : List Labels) : Rises (depth + 1) (marksAll depth ts ++ rest) := by
  rcases ts with _ | ⟨⟨label, cs⟩, ts⟩
  · exact fun x head => Nat.lt_succ_of_lt (h x head)
  · rintro x ⟨⟩
    exact Nat.lt_succ_self depth

/-! ### Reading the labels back

A tree ends where the depth rises again, so trees are read back with anything less deep behind them. -/

mutual

theorem marks_agree : ∀ (t u : Labels) {depth : Nat} {rest rest' : List (Nat × String)}, Rises (depth + 1) rest →
    Rises (depth + 1) rest' → t.marks depth ++ rest = u.marks depth ++ rest' → t = u ∧ rest = rest'
  | ⟨_, cs⟩, ⟨_, ds⟩, _, _, _, h, h', same => by
    obtain ⟨head, below⟩ := List.cons.inj same
    obtain ⟨rfl, rfl⟩ := marksAll_agree cs ds h h' below
    cases head
    exact ⟨rfl, rfl⟩

theorem marksAll_agree : ∀ (ts us : List Labels) {depth : Nat} {rest rest' : List (Nat × String)}, Rises depth rest →
    Rises depth rest' → marksAll depth ts ++ rest = marksAll depth us ++ rest' → ts = us ∧ rest = rest'
  | [], [], _, _, _, _, _, same => ⟨rfl, same⟩
  | [], u :: us, _, _, _, h, _, same => absurd same (h.ne_marksAll u us)
  | t :: ts, [], _, _, _, _, h', same => absurd same.symm (h'.ne_marksAll t ts)
  | t :: ts, u :: us, _, _, _, h, h', same => by
    rw [marksAll, marksAll, List.append_assoc, List.append_assoc] at same
    -- Behind the first tree the next one starts at its own depth, or the depth rises further.
    obtain ⟨rfl, others⟩ := marks_agree t u (h.marksAll ts) (h'.marksAll us) same
    obtain ⟨rfl, rfl⟩ := marksAll_agree ts us h h' others
    exact ⟨rfl, rfl⟩

end

theorem eq_of_marks {t u : Labels} (same : t.marks 0 = u.marks 0) : t = u :=
  (marks_agree t u (rises_nil 1) (rises_nil 1) (congrArg (· ++ []) same)).1

end Labels

namespace Outline

mutual

/-- The labels of an outline. -/
def labels : Outline → Labels
  | ⟨n, cs⟩ => ⟨n.label, labelsAll cs⟩

/-- The labels of outlines that stand side by side. -/
def labelsAll : List Outline → List Labels
  | [] => []
  | t :: ts => t.labels :: labelsAll ts

end

theorem labelsAll_eq_map (ts : List Outline) : labelsAll ts = ts.map labels := by
  induction ts with
  | nil => rfl
  | cons t ts ih => rw [labelsAll, ih, List.map_cons]

mutual

theorem marks_labels : ∀ (t : Outline) (depth : Nat), t.labels.marks depth = (t.walk depth).map mark
  | ⟨_, cs⟩, depth => congrArg (_ :: ·) (marksAll_labels cs (depth + 1))

theorem marksAll_labels : ∀ (ts : List Outline) (depth : Nat),
    Labels.marksAll depth (labelsAll ts) = (walkAll depth ts).map mark
  | [], _ => rfl
  | t :: ts, depth => by
    rw [labelsAll, Labels.marksAll, walkAll, List.map_append, marks_labels t depth, marksAll_labels ts depth]

end

/-- A drawing determines the labels of its nodes and how they are nested. -/
theorem labels_of_draw {t u : Outline} (ht : t.Plain) (hu : u.Plain) (same : t.draw = u.draw) :
    t.labels = u.labels := by
  refine Labels.eq_of_marks ?_
  rw [marks_labels, marks_labels]
  exact marks_of_draw ht hu same

end Outline
end MiniPascal
