import MiniPascal.Proofs.Nesting.Journal
import MiniPascal.Proofs.Parsing.Steps

/-! # Recorders and the parser

A recorder follows a parser from one place to another: it gives the same result, leaves the same state, and goes on
the path to that place, or it stops. This is closed under sequence, and so it is proved of one procedure after the
other; the two procedures that recursion goes through lead back to the place where they were called. -/

namespace MiniPascal.Recorder
open MiniPascal.Parser

/-- A recording that has come to a place. -/
structure At (a : Place) (x : Recording) : Prop where
  path : Path x.past a
  depth : x.state.depth = a.levels

/-- From one place, a recorder does what a parser does: it comes to the other place with a result as `post` says, or
it stops. -/
structure Follows {α : Type} (a b : Place) (post : α → Prop) (w : Recorder α) (p : Parser α) : Prop where
  ok : ∀ {x r y}, At a x → w x = .ok r y → p x.state = .ok r y.state ∧ At b y ∧ post r
  error : ∀ {x e y}, At a x → w x = .error e y → p x.state = .error e y.state ∧ Stops e y.past

/-- A step of the parser that leaves the depth as it is, and tells the limit if it fails for it. -/
structure Steady {α : Type} (post : α → Prop) (p : Parser α) : Prop where
  ok : ∀ {s r t}, p s = .ok r t → t.depth = s.depth ∧ post r
  error : ∀ {s e t}, p s = .error e t → t.depth = s.depth ∧ e.TellsLimit

section Record
variable {α : Type} {event : Event} {p : Parser α} {x y : Recording} {r : α} {e : Error}

theorem record_ok (h : record event p x = .ok r y) :
    p x.state = .ok r y.state ∧ y.past = x.past ++ [⟨event, y.state.depth⟩] := by
  unfold record at h
  split at h <;> cases h
  exact ⟨‹_›, rfl⟩

theorem record_error (h : record event p x = .error e y) :
    p x.state = .error e y.state ∧ y.past = x.past ++ [⟨event, y.state.depth⟩] := by
  unfold record at h
  split at h <;> cases h
  exact ⟨‹_›, rfl⟩

end Record

namespace Follows
section
variable {α β : Type} {a b c : Place} {post : α → Prop} {post' : β → Prop} {w : Recorder α} {p : Parser α}

theorem bind {f : α → Recorder β} {g : α → Parser β} (first : Follows a b post w p)
    (rest : ∀ r, post r → Follows b c post' (f r) (g r)) : Follows a c post' (w >>= f) (p >>= g) where
  ok start run := by
    obtain ⟨r, y, step, run⟩ := Parser.exists_of_bind_ok run
    obtain ⟨same, mid, holds⟩ := first.ok start step
    rw [Parser.bind_of_ok same]
    exact (rest r holds).ok mid run
  error start run := by
    obtain step | ⟨r, y, step, run⟩ := Parser.error_or_of_bind_error run
    · obtain ⟨same, stops⟩ := first.error start step
      exact ⟨Parser.bind_of_error same, stops⟩
    · obtain ⟨same, mid, holds⟩ := first.ok start step
      rw [Parser.bind_of_ok same]
      exact (rest r holds).error mid run

theorem of_ok {r : α} (h : post r) : Follows a a post (pure r) (pure r) where
  ok := by
    rintro x _ _ start ⟨⟩
    exact ⟨rfl, start, h⟩
  error := by
    rintro x _ _ start ⟨⟩

/-- A bound may be taken from the state. -/
theorem of_bounded (bound : ParserState → Nat) {f : Nat → Recorder α} {g : Nat → Parser α}
    (h : ∀ n, Follows a b post (f n) (g n)) : Follows a b post (bounded bound f) (bounded bound g) where
  ok start run := (h _).ok start run
  error start run := (h _).error start run

/-- A step of the parser that keeps the depth may go with an event that does so. -/
theorem of_steady {event : Event} (move : event.Moves a b) (same : a.levels = b.levels) (steady : Steady post p) :
    Follows a b post (record event p) p where
  ok {x r y} start run := by
    obtain ⟨step, past⟩ := record_ok run
    obtain ⟨keeps, holds⟩ := steady.ok step
    have depth : y.state.depth = b.levels := (keeps.trans start.depth).trans same
    refine ⟨step, ⟨?_, depth⟩, holds⟩
    rw [past, depth]
    exact .step start.path move (same ▸ start.path.low)
  error {x e y} start run := by
    obtain ⟨step, past⟩ := record_error run
    obtain ⟨keeps, tells⟩ := steady.error step
    have depth : y.state.depth = b.levels := (keeps.trans start.depth).trans same
    refine ⟨step, .within (a := b) ?_ tells⟩
    rw [past, depth]
    exact .step start.path move (same ▸ start.path.low)

end
end Follows

/-! ### Steady steps -/

/-- Any result will do. -/
def Any {α : Type} (_ : α) : Prop := True

theorem pure_steady : Steady Any (pure ()) := by
  constructor <;> rintro s _ _ ⟨⟩
  exact ⟨rfl, trivial⟩

theorem ahead_steady : Steady Any Step.ahead := by
  constructor <;> rintro s _ _ ⟨⟩
  exact ⟨rfl, trivial⟩

theorem fail_steady {α : Type} {post : α → Prop} (expected : Expectation) : Steady post (Step.fail expected) := by
  constructor <;> rintro s _ _ ⟨⟩
  exact ⟨rfl, nofun⟩

theorem tooDeep_steady {α : Type} {post : α → Prop} : Steady post Step.tooDeep := by
  constructor <;> rintro s _ _ ⟨⟩
  exact ⟨rfl, tellsLimit_of_tooDeep⟩

theorem settle_steady : Steady Any Step.settle := by
  constructor <;> intro s _ t run <;> unfold Step.settle at run <;> split at run <;> cases run
  · exact ⟨rfl, trivial⟩
  · exact ⟨rfl, nofun⟩

theorem advance_steady : Steady Any Step.advance where
  ok {s _ _} run := settle_steady.ok (s := { s with tokens := s.tokens.tail, requests := s.requests + 1 }) run
  error {s _ _} run := settle_steady.error (s := { s with tokens := s.tokens.tail, requests := s.requests + 1 }) run

/-- A height is refused as soon as it is one above the limit. -/
theorem checkHeight_steady {h : Nat} (most : h ≤ maxDepth + 1) : Steady (· ≤ maxDepth) (Step.checkHeight h) := by
  constructor <;> intro s _ t run <;> unfold Step.checkHeight at run <;> split at run <;> cases run
  · exact ⟨rfl, Nat.not_lt.mp ‹_›⟩
  · obtain rfl : h = maxDepth + 1 := Nat.le_antisymm most ‹_›
    exact ⟨rfl, tellsLimit_of_tooDeep⟩

/-! ### Steps -/

section
variable {α : Type} {a : Place} {d : Nat} {post : α → Prop} {w : Recorder α} {p : Parser α}

theorem ahead_follows : Follows a a Any ahead ahead :=
  .of_steady (.checked a) rfl ahead_steady

theorem fail_follows (expected : Expectation) : Follows a a post (fail expected) (fail expected) :=
  .of_steady (.checked a) rfl (fail_steady expected)

theorem tooDeep_follows : Follows a a post tooDeep tooDeep :=
  .of_steady (.checked a) rfl tooDeep_steady

theorem settle_follows : Follows a a Any settle settle :=
  .of_steady (.checked a) rfl settle_steady

theorem advance_follows : Follows a a Any advance advance :=
  .of_steady (.requested a) rfl advance_steady

theorem checkHeight_follows {h : Nat} (most : h ≤ maxDepth + 1) :
    Follows a a (· ≤ maxDepth) (checkHeight h) (checkHeight h) :=
  .of_steady (.checked a) rfl (checkHeight_steady most)

theorem enter_ok {s t : ParserState} {r : Unit} (h : Step.enter s = .ok r t) :
    t.depth = s.depth + 1 ∧ s.depth + 1 ≤ maxDepth := by
  unfold Step.enter at h
  dsimp only at h
  split at h <;> cases h
  exact ⟨rfl, Nat.not_lt.mp ‹_›⟩

theorem enter_error {s t : ParserState} {e : Error} (h : Step.enter s = .error e t) :
    t.depth = s.depth + 1 ∧ maxDepth < s.depth + 1 ∧ e = .tooDeep (s.depth + 1) maxDepth := by
  unfold Step.enter at h
  dsimp only at h
  split at h <;> cases h
  exact ⟨rfl, ‹_›, rfl⟩

/-- A level is opened, or it is the one above the limit and the run stops. -/
theorem enter_follows : Follows (.within d) (.between (d + 1)) Any enter enter where
  ok {x r y} start run := by
    obtain ⟨step, past⟩ := record_ok run
    obtain ⟨deeper, low⟩ := enter_ok step
    rw [start.depth] at deeper low
    refine ⟨step, ⟨?_, deeper⟩, trivial⟩
    rw [past, deeper]
    exact .step start.path (.opened d) low
  error {x e y} start run := by
    obtain ⟨step, past⟩ := record_error run
    obtain ⟨deeper, beyond, rfl⟩ := enter_error step
    rw [start.depth] at deeper beyond
    obtain rfl : d = maxDepth := Nat.le_antisymm start.path.low (Nat.le_of_lt_succ beyond)
    refine ⟨step, ?_⟩
    rw [past, deeper, start.depth]
    exact .beyond start.path

theorem leave_ok {s t : ParserState} {r : Unit} (h : Step.leave s = .ok r t) : t.depth = s.depth - 1 := by
  cases h
  rfl

theorem leave_follows : Follows (.between (d + 1)) (.within d) Any leave leave where
  ok {x r y} start run := by
    have run : record .closed Step.leave x = .ok r y := run
    obtain ⟨step, past⟩ := record_ok run
    have depth : y.state.depth = d := (leave_ok step).trans (congrArg (· - 1) start.depth)
    refine ⟨step, ⟨?_, depth⟩, trivial⟩
    rw [past, depth]
    exact .step start.path (.closed d) (Nat.le_of_succ_le start.path.low)
  error {x e y} start run := by
    have run : record .closed Step.leave x = .error e y := run
    obtain ⟨step, -⟩ := record_error run
    cases step

theorem call_follows (h : Follows (.within d) (.within d) post w p) :
    Follows (.between d) (.between d) post (Watched.call w) (Watched.call p) := by
  have called : Follows (.between d) (.within d) Any (record .called (pure ())) (pure ()) :=
    .of_steady (.called d) rfl pure_steady
  have returned : Follows (.within d) (.between d) Any (record .returned (pure ())) (pure ()) :=
    .of_steady (.returned d) rfl pure_steady
  -- The parser takes no step of its own for a call and for its return.
  have erased : Watched.call p = (pure () >>= fun _ => p >>= fun r => pure () >>= fun _ => pure r) := by
    simp only [call_eq, pure_bind, bind_pure]
  rw [erased]
  exact called.bind fun _ _ => h.bind fun _ holds => returned.bind fun _ _ => .of_ok holds

end

/-! ### Shapes of rules -/

section
variable {α : Type} {a : Place} {d : Nat} {post : α → Prop} {w : Recorder α} {p : Parser α}

theorem eat_follows (t : Token) : Follows a a Any (eat t) (eat t) := by
  refine ahead_follows.bind fun x _ => ?_
  split
  · exact advance_follows
  · exact fail_follows _

theorem identifier_follows : Follows a a Any identifier identifier := by
  refine ahead_follows.bind fun x _ => ?_
  obtain _ | name | v | k | sym := x
  case some.identifier => exact advance_follows.bind fun _ _ => .of_ok trivial
  all_goals exact fail_follows _

theorem enclosed_follows (opening closing : Token) (body : Follows (.between (d + 1)) (.between (d + 1)) post w p) :
    Follows (.within d) (.within d) post (enclosed opening closing w) (enclosed opening closing p) :=
  enter_follows.bind fun _ _ => (eat_follows _).bind fun _ _ => body.bind fun _ holds =>
    (eat_follows _).bind fun _ _ => leave_follows.bind fun _ _ => .of_ok holds

theorem repeated_follows (separator : Token) (item : Follows a a Any w p) (n : Nat) :
    Follows a a Any (repeated separator w n) (repeated separator p n) := by
  induction n with
  | zero => exact .of_ok trivial
  | succ n ih =>
    refine ahead_follows.bind fun x _ => ?_
    split
    · exact advance_follows.bind fun _ _ => item.bind fun _ _ => ih.bind fun _ _ => .of_ok trivial
    · exact .of_ok trivial

theorem endOfInput_follows : Follows a a Any endOfInput endOfInput := by
  refine ahead_follows.bind fun x _ => ?_
  split
  · exact .of_ok trivial
  · exact fail_follows _

end

/-! ### Expressions -/

/-- The height of a tree is within the limit. -/
def Low (r : Expr × Nat) : Prop := r.2 ≤ maxDepth

section
variable {d : Nat} {w : Recorder (Expr × Nat)} {p : Parser (Expr × Nat)}

theorem chainFrom_follows (op? : Token → Option BinaryOp) {a : Place} (operand : Follows a a Low w p) (n : Nat)
    {first : Expr × Nat} (low : Low first) : Follows a a Low (chainFrom op? w n first) (chainFrom op? p n first) := by
  induction n generalizing first with
  | zero => exact tooDeep_follows
  | succ n ih =>
    obtain ⟨left, h⟩ := first
    refine ahead_follows.bind fun x _ => ?_
    rcases x >>= op? with _ | op
    · exact .of_ok low
    · refine advance_follows.bind fun _ _ => operand.bind fun right low' => ?_
      exact (checkHeight_follows (Nat.succ_le_succ (Nat.max_le.mpr ⟨low, low'⟩))).bind fun _ low => ih low

theorem expressionOf_follows {a : Place} (factor : Follows a a Low w p) :
    Follows a a Low (expressionOf w) (expressionOf p) := by
  have chain (op?) {w p} (operand : Follows a a Low w p) : Follows a a Low (chain op? w) (chain op? p) :=
    operand.bind fun _ low => chainFrom_follows op? operand _ low
  exact chain _ (chain _ factor)

theorem signed_follows (op : UnaryOp) (factor : Follows (.between (d + 1)) (.between (d + 1)) Low w p) :
    Follows (.within d) (.within d) Low (signed op w) (signed op p) :=
  enter_follows.bind fun _ _ => advance_follows.bind fun _ _ => factor.bind fun _ low => leave_follows.bind fun _ _ =>
    (checkHeight_follows (Nat.succ_le_succ low)).bind fun _ low => .of_ok low

theorem factorOf_follows (factor : Follows (.between (d + 1)) (.between (d + 1)) Low w p) :
    Follows (.within d) (.within d) Low (factorOf w) (factorOf p) := by
  refine ahead_follows.bind fun x _ => ?_
  obtain _ | name | v | k | sym := x
  case some.identifier => exact identifier_follows.bind fun _ _ => .of_ok (Nat.zero_le _)
  case some.number => exact advance_follows.bind fun _ _ => .of_ok (Nat.zero_le _)
  case some.symbol =>
    cases sym with
    | plus => exact signed_follows .plus factor
    | minus => exact signed_follows .minus factor
    | leftParen => exact enclosed_follows _ _ (expressionOf_follows factor)
    | _ => exact fail_follows _
  all_goals exact fail_follows _

theorem factorWithin_follows (n : Nat) : Follows (.between d) (.between d) Low (factorWithin n) (factorWithin n) := by
  induction n generalizing d with
  | zero => exact call_follows tooDeep_follows
  | succ n ih => exact call_follows (factorOf_follows ih)

theorem expression_follows : Follows (.between d) (.between d) Low expression expression :=
  .of_bounded room fun n => expressionOf_follows (factorWithin_follows n)

end

/-! ### Statements -/

section
variable {d : Nat} {w : Recorder (List Stmt)} {p : Parser (List Stmt)}

theorem assignment_follows : Follows (.between d) (.between d) Any assignment assignment :=
  identifier_follows.bind fun _ _ => (eat_follows _).bind fun _ _ => expression_follows.bind fun _ _ => .of_ok trivial

theorem statementOf_follows (block : Follows (.between d) (.between d) Any w p) :
    Follows (.between d) (.between d) Any (statementOf w) (statementOf p) := by
  refine ahead_follows.bind fun x _ => ?_
  obtain _ | name | v | k | sym := x
  case some.identifier => exact assignment_follows
  case some.keyword =>
    cases k with
    | blockBegin =>
      show Follows _ _ _ (Stmt.block <$> w) (Stmt.block <$> p)
      rw [map_eq_pure_bind, map_eq_pure_bind]
      exact block.bind fun _ _ => .of_ok trivial
    | _ => exact .of_ok trivial
  all_goals exact .of_ok trivial

theorem statementsOf_follows (block : Follows (.between d) (.between d) Any w p) :
    Follows (.between d) (.between d) Any (statementsOf w) (statementsOf p) := by
  have statement := statementOf_follows block
  have more := Follows.of_bounded (·.tokens.length) (repeated_follows (.symbol .semicolon) statement)
  refine statement.bind fun _ _ => more.bind fun _ _ => ahead_follows.bind fun x _ => ?_
  obtain _ | name | v | k | sym := x
  case some.identifier => exact fail_follows _
  all_goals exact .of_ok trivial

theorem blockWithin_follows (n : Nat) : Follows (.between d) (.between d) Any (blockWithin n) (blockWithin n) := by
  induction n generalizing d with
  | zero => exact call_follows tooDeep_follows
  | succ n ih => exact call_follows (enclosed_follows _ _ (statementsOf_follows ih))

theorem block_follows : Follows (.between d) (.between d) Any block block :=
  .of_bounded room blockWithin_follows

theorem statements_follows : Follows (.between d) (.between d) Any statements statements :=
  .of_bounded room fun n => statementsOf_follows (blockWithin_follows n)

end

/-! ### Programs -/

section
variable {a : Place}

theorem typeName_follows : Follows a a Any typeName typeName := by
  refine ahead_follows.bind fun x _ => ?_
  obtain _ | name | v | k | sym := x
  case some.keyword =>
    cases k with
    | integer | real => exact advance_follows.bind fun _ _ => .of_ok trivial
    | _ => exact fail_follows _
  all_goals exact fail_follows _

theorem declaration_follows : Follows a a Any declaration declaration := by
  have more := Follows.of_bounded (a := a) (·.tokens.length) (repeated_follows (.symbol .comma) identifier_follows)
  exact identifier_follows.bind fun _ _ => more.bind fun _ _ => (eat_follows _).bind fun _ _ =>
    typeName_follows.bind fun _ _ => .of_ok trivial

theorem declarationsFrom_follows (n : Nat) : Follows a a Any (declarationsFrom n) (declarationsFrom n) := by
  induction n with
  | zero => exact .of_ok trivial
  | succ n ih =>
    refine declaration_follows.bind fun _ _ => (eat_follows _).bind fun _ _ => ahead_follows.bind fun x _ => ?_
    obtain _ | name | v | k | sym := x
    case some.identifier => exact ih.bind fun _ _ => .of_ok trivial
    all_goals exact .of_ok trivial

theorem declarationList_follows : Follows a a Any declarationList declarationList :=
  .of_bounded (·.tokens.length + 1) declarationsFrom_follows

theorem sectionsFrom_follows (n : Nat) : Follows a a Any (sectionsFrom n) (sectionsFrom n) := by
  induction n with
  | zero => exact .of_ok trivial
  | succ n ih =>
    refine ahead_follows.bind fun x _ => ?_
    split
    · exact advance_follows.bind fun _ _ => declarationList_follows.bind fun _ _ => ih.bind fun _ _ => .of_ok trivial
    · exact .of_ok trivial

end

theorem program_follows {d : Nat} : Follows (.between d) (.between d) Any program program := by
  have declarations := Follows.of_bounded (a := .between d) (·.tokens.length) sectionsFrom_follows
  exact (eat_follows _).bind fun _ _ => identifier_follows.bind fun _ _ => (eat_follows _).bind fun _ _ =>
    declarations.bind fun _ _ => block_follows.bind fun _ _ => (eat_follows _).bind fun _ _ => .of_ok trivial

/-! ### Whole texts -/

/-- A recorder that follows a parser gives its result on every stream, and the moments of its run are bounded. -/
theorem Follows.run {α : Type} {post : α → Prop} {w : Recorder α} {p : Parser α}
    (h : Follows (.between 0) (.between 0) post w p) (ts : TokenStream) :
    (Recorder.run w ts).1 = Parser.run p ts ∧ Bounded (Parser.run p ts) (Recorder.run w ts).2 := by
  have whole : Follows (.between 0) (.between 0) post (whole w) (whole p) :=
    settle_follows.bind fun _ _ => h.bind fun _ holds => endOfInput_follows.bind fun _ _ => .of_ok holds
  have start : At (.between 0) ⟨.start ts, [⟨.requested, 0⟩]⟩ :=
    ⟨.step .start (.requested _) (Nat.zero_le _), rfl⟩
  unfold Recorder.run Parser.run
  split
  · next r y step =>
    obtain ⟨same, end_, -⟩ := whole.ok start step
    rw [same]
    exact ⟨rfl, end_.path.bounded nofun⟩
  · next e y step =>
    obtain ⟨same, stops⟩ := whole.error start step
    rw [same]
    exact ⟨rfl, stops.bounded⟩

end MiniPascal.Recorder
