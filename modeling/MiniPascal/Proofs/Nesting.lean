import MiniPascal.Proofs.Nesting.Calls
import MiniPascal.Proofs.Nesting.Follows
import MiniPascal.Proofs.Parsing

/-! # The bounds of recursion

No text makes the parser or the evaluator recurse without bound. The parser is bounded by the levels that it opens,
on every text and at every moment; the trees that it accepts are bounded in their blocks and in the height of their
expressions, and so is the evaluation of these trees. -/

namespace MiniPascal
open Grammar

/-- What the rules do on a text where they keep a record: the result is that of the parser, and the moments are
bounded. -/
structure Recorded {α : Type} (w : Recorder α) (text : String) (result : Except Error α) : Prop where
  same : (Recorder.run w (.ofText text)).1 = result
  bounded : Bounded result (Recorder.run w (.ofText text)).2

theorem Recorder.Follows.recorded {α : Type} {post : α → Prop} {w : Recorder α} {p : Parser α}
    (h : Follows (.between 0) (.between 0) post w p) (text : String) :
    Recorded w text (Parser.run p (.ofText text)) :=
  ⟨(h.run _).1, (h.run _).2⟩

theorem Recorder.expressions_follow :
    Follows (.between 0) (.between 0) Any (Prod.fst <$> Parser.expression) (Prod.fst <$> Parser.expression) := by
  rw [map_eq_pure_bind, map_eq_pure_bind]
  exact expression_follows.bind fun _ _ => .of_ok trivial

theorem execAllWithin_of_program {text : String} {p : MiniPascal.Program} (h : Program.parse text = .ok p) :
    Stmt.execAllWithin (maxDepth + 1) maxDepth p.body = liftM p.exec := by
  obtain ⟨_, _, -, derived, levels, low⟩ := Parser.program_of_parse h
  cases derived with
  | mk name _ body =>
    cases body with
    | mk body => exact body.execAllWithin_eq (Nat.lt_succ_self _) low levels

/-- In each way to parse a text, the parser with a record gives the same result, and its moments are bounded. What is
accepted is evaluated with no more calls inside of each other than the limit and one, and no more blocks than the
limit; a list of statements is a block more. -/
theorem recursion_bounded (text : String) :
    Recorded Parser.program text (Program.parse text) ∧
      Recorded Parser.statements text (Stmt.parseAll text) ∧
      Recorded (Prod.fst <$> Parser.expression) text (Expr.parse text) ∧
      (∀ p, Program.parse text = .ok p → Stmt.execAllWithin (maxDepth + 1) maxDepth p.body = liftM p.exec) ∧
      (∀ ss, Stmt.parseAll text = .ok ss →
        Stmt.execAllWithin (maxDepth + 1) (maxDepth + 1) ss = liftM (Stmt.execAll ss)) ∧
      ∀ e s, Expr.parse text = .ok e → e.evalWithin s (maxDepth + 1) = liftM (e.eval s) := by
  refine ⟨Recorder.program_follows.recorded text, Recorder.statements_follows.recorded text,
    Recorder.expressions_follow.recorded text, fun p => execAllWithin_of_program, fun ss h => ?_, fun e s h => ?_⟩
  · obtain ⟨_, _, -, derived, levels, low⟩ := Parser.statements_of_parse h
    exact derived.execAllWithin_eq (Nat.lt_succ_self _) low (Nat.lt_succ_of_le levels)
  · obtain ⟨_, _, -, -, -, low⟩ := Parser.expression_of_parse h
    exact e.evalWithin_eq s (Nat.lt_succ_of_le low)

/-- A name with this many signs before it. -/
def manySigns (n : Nat) : String := String.ofList (List.replicate n '-') ++ "x"

/-- As many signs as there are levels are accepted, and one more is refused. -/
theorem recursion_bounded_on_signs :
    (∃ e, Expr.parse (manySigns 128) = .ok e ∧ ∀ s, e.evalWithin s 129 = liftM (e.eval s)) ∧
      ∃ before, (Recorder.run (Prod.fst <$> Parser.expression) (.ofText (manySigns 129))).2 =
          before ++ [⟨.opened, 129⟩] ∧
        Expr.parse (manySigns 129) = .error (.tooDeep 129 128) := by
  constructor
  · rcases accepted : Expr.parse (manySigns 128) with e | e
    · have is_ok : (Expr.parse (manySigns 128)).isOk = true := by decide +kernel
      rw [accepted] at is_ok
      cases is_ok
    · exact ⟨e, rfl, fun s => (recursion_bounded _).2.2.2.2.2 e s accepted⟩
  · have last : (Recorder.run (Prod.fst <$> Parser.expression) (.ofText (manySigns 129))).2.getLast? =
        some ⟨.opened, 129⟩ := by decide +kernel
    obtain ⟨before, journal⟩ := List.getLast?_eq_some_iff.mp last
    exact ⟨before, journal, ((recursion_bounded _).2.2.1.bounded.full before _ [] journal (by decide)).2.2⟩

end MiniPascal
