import MiniPascal.Proofs.Nesting.Recorder

/-! # Paths through nested calls

A call of one of the two procedures that recursion goes through opens one level or none. So a run stands at a number
of open levels, with a call for each of them, and perhaps in one call more that has no level open. Every event moves
from one such place to another, and a path is a series of such moves that stays within the limit of levels.

The main result is what holds at every moment of a path, and of a path that goes one level above the limit. -/

namespace MiniPascal

/-- How many of these moments have the event. -/
def Event.count (event : Event) (past : List Moment) : Nat :=
  past.countP (·.event = event)

theorem Event.count_snoc (event : Event) (past : List Moment) (m : Moment) :
    event.count (past ++ [m]) = event.count past + if m.event = event then 1 else 0 := by
  simp [Event.count, List.countP_append, List.countP_singleton]

/-! ### Places -/

/-- Where a run stands: right inside of the open levels, or in a call there that has no level open. -/
inductive Place where
  | between (levels : Nat)
  | within (levels : Nat)

namespace Place

/-- The number of open levels. -/
def levels : Place → Nat
  | between d | within d => d

/-- The number of active calls. -/
def calls : Place → Nat
  | between d => d
  | within d => d + 1

theorem calls_le : ∀ a : Place, a.calls ≤ a.levels + 1
  | between d => Nat.le_succ d
  | within d => Nat.le_refl (d + 1)

end Place

/-- What an event does to the place of a run. -/
inductive Event.Moves : Event → Place → Place → Prop
  | called (d) : Moves .called (.between d) (.within d)
  | opened (d) : Moves .opened (.within d) (.between (d + 1))
  | closed (d) : Moves .closed (.between (d + 1)) (.within d)
  | returned (d) : Moves .returned (.within d) (.between d)
  | requested (a) : Moves .requested a a
  | checked (a) : Moves .checked a a

/-- The moments up to a place, with no level above the limit at any of them. -/
inductive Path : List Moment → Place → Prop
  | start : Path [] (.between 0)
  | step {past event a b} (h : Path past a) (move : event.Moves a b) (low : b.levels ≤ maxDepth) :
      Path (past ++ [⟨event, b.levels⟩]) b

theorem Path.low {past : List Moment} {a : Place} (h : Path past a) : a.levels ≤ maxDepth := by
  cases h with
  | start => exact Nat.zero_le _
  | step _ _ low => exact low

/-! ### Counts -/

/-- What the events so far say about a place: as many levels are open as were opened and not closed, and as many
calls are active as were begun and did not return. -/
structure Place.Counted (a : Place) (past : List Moment) : Prop where
  levels : Event.opened.count past = Event.closed.count past + a.levels
  calls : Event.called.count past = Event.returned.count past + a.calls

theorem Place.Counted.step {a b : Place} {past : List Moment} {event : Event} {d : Nat} (h : a.Counted past)
    (move : event.Moves a b) : b.Counted (past ++ [⟨event, d⟩]) := by
  obtain ⟨levels, calls⟩ := h
  constructor <;> cases move <;>
    simp only [Event.count_snoc, Place.levels, Place.calls, reduceCtorEq, if_true, if_false] at levels calls ⊢ <;>
    omega

theorem Path.counted {past : List Moment} {a : Place} (h : Path past a) : a.Counted past := by
  induction h with
  | start => exact ⟨rfl, rfl⟩
  | step _ move _ ih => exact ih.step move

/-! ### Moments -/

/-- A moment agrees with the events up to it: the depth is the number of levels that are open, no more calls are
active than the limit and one, and a level is closed only if one was open. -/
structure Moment.Fits (before : List Moment) (m : Moment) : Prop where
  depth : m.depth + Event.closed.count (before ++ [m]) = Event.opened.count (before ++ [m])
  calls : Event.called.count (before ++ [m]) ≤ Event.returned.count (before ++ [m]) + (maxDepth + 1)
  closes : m.event = .closed → Event.closed.count before < Event.opened.count before

theorem Path.fits_next {past : List Moment} {a b : Place} {event : Event} (h : Path past a) (move : event.Moves a b)
    (few : b.calls ≤ maxDepth + 1) : Moment.Fits past ⟨event, b.levels⟩ := by
  obtain ⟨levels, calls⟩ : b.Counted (past ++ [⟨event, b.levels⟩]) := h.counted.step move
  refine ⟨?_, by omega, ?_⟩
  · rw [levels]
    exact Nat.add_comm _ _
  rintro rfl
  cases move with
  | closed d =>
    have open_ := h.counted.levels
    simp only [Place.levels] at open_
    omega

/-- A moment of a longer journal is the last one, or a moment of the journal before. -/
theorem Moment.last_or_before {past before after : List Moment} {last m : Moment}
    (split : past ++ [last] = before ++ m :: after) :
    (before = past ∧ m = last ∧ after = []) ∨ ∃ after, past = before ++ m :: after := by
  obtain rfl | ⟨after, x, rfl⟩ := List.eq_nil_or_concat after
  · obtain ⟨rfl, same⟩ := List.append_inj' split rfl
    cases same
    exact .inl ⟨rfl, rfl, rfl⟩
  · have split : past ++ [last] = (before ++ m :: after) ++ [x] := by simpa using split
    exact .inr ⟨after, (List.append_inj' split rfl).1⟩

/-- At every moment of a path, the moment fits and no level is above the limit. -/
theorem Path.fits {past before after : List Moment} {a : Place} {m : Moment} (h : Path past a)
    (split : past = before ++ m :: after) : m.Fits before ∧ m.depth ≤ maxDepth := by
  induction h generalizing after with
  | start => simp at split
  | @step past event a b h move low ih =>
    obtain ⟨rfl, rfl, rfl⟩ | ⟨after, split⟩ := Moment.last_or_before split
    · exact ⟨h.fits_next move (Nat.le_trans b.calls_le (Nat.succ_le_succ low)), low⟩
    · exact ih split

/-! ### Whole journals -/

/-- An error of depth tells the first depth above the limit, and the limit. -/
def Error.TellsLimit (e : Error) : Prop :=
  ∀ d l, e = .tooDeep d l → d = maxDepth + 1 ∧ l = maxDepth

/-- How a run ends that fails: within the limit of levels, or with one level more and the error for it. -/
inductive Stops : Error → List Moment → Prop
  | within {e past a} (h : Path past a) (tells : e.TellsLimit) : Stops e past
  | beyond {past} (h : Path past (.within maxDepth)) :
      Stops (.tooDeep (maxDepth + 1) maxDepth) (past ++ [⟨.opened, maxDepth + 1⟩])

/-- A result and the journal of the run that it comes from: every moment fits; a depth above the limit is that of one
level more, just opened, and it is the last moment of a run that fails for it; and an error of depth tells that
depth. -/
structure Bounded {α : Type} (result : Except Error α) (journal : List Moment) : Prop where
  fits : ∀ before m after, journal = before ++ m :: after → m.Fits before
  full : ∀ before m after, journal = before ++ m :: after → maxDepth < m.depth →
    m = ⟨.opened, maxDepth + 1⟩ ∧ after = [] ∧ result = .error (.tooDeep (maxDepth + 1) maxDepth)
  error : ∀ e, result = .error e → e.TellsLimit

section Bounded
variable {α : Type} {past : List Moment} {result : Except Error α} {e : Error}

theorem Path.bounded {a : Place} (h : Path past a) (tells : ∀ e, result = .error e → e.TellsLimit) :
    Bounded result past where
  fits _ _ _ split := (h.fits split).1
  full _ _ _ split deep := absurd (h.fits split).2 (Nat.not_le.mpr deep)
  error := tells

theorem tellsLimit_of_tooDeep : Error.TellsLimit (.tooDeep (maxDepth + 1) maxDepth) := by
  rintro d l ⟨⟩
  exact ⟨rfl, rfl⟩

theorem Stops.bounded (h : Stops e past) : Bounded (.error e : Except Error α) past := by
  cases h with
  | within h tells =>
    refine h.bounded ?_
    rintro _ ⟨⟩
    exact tells
  | @beyond past h =>
    refine ⟨fun before m after split => ?_, fun before m after split deep => ?_, ?_⟩
    · obtain ⟨rfl, rfl, rfl⟩ | ⟨after, split⟩ := Moment.last_or_before split
      · exact h.fits_next (.opened maxDepth) (Nat.le_refl _)
      · exact (h.fits split).1
    · obtain ⟨rfl, rfl, rfl⟩ | ⟨after, split⟩ := Moment.last_or_before split
      · exact ⟨rfl, rfl, rfl⟩
      · exact absurd (h.fits split).2 (Nat.not_le.mpr deep)
    · rintro _ ⟨⟩
      exact tellsLimit_of_tooDeep

end Bounded
end MiniPascal
