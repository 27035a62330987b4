import MiniPascal.Session

/-! # Runs that leave no trace

A run that fails leaves the store as it was, at whatever stage it fails: nothing was parsed, or what was
assigned before the failure went to a copy, or the store that an expression was evaluated in was put back.
An expression leaves the store as it was in any case. So such runs may be deleted from a session: the others
show what they showed, and the store at the end is the same. -/

namespace MiniPascal

namespace Mode
variable {text shown : String} {s t : Store} {e : Error}

theorem commit_of_error {executed : Store → Except Error Store} (h : commit executed s = .error e t) : t = s := by
  rw [commit_eq] at h
  split at h <;> cases h
  rfl

theorem runExpression_of_error {x : Expr} (h : runExpression x s = .error e t) : t = s := by
  rw [runExpression_eq] at h
  split at h <;> cases h
  rfl

theorem runExpression_of_ok {x : Expr} (h : runExpression x s = .ok shown t) : t = s := by
  rw [runExpression_eq] at h
  split at h <;> cases h
  rfl

theorem runProgram_of_error (h : runProgram text s = .error e t) : t = s := by
  rw [runProgram_eq] at h
  split at h
  · exact commit_of_error h
  · cases h
    rfl

theorem runStatements_of_error (h : runStatements text s = .error e t) : t = s := by
  rw [runStatements_eq] at h
  split at h
  · exact commit_of_error h
  · cases h
    rfl

/-- A run that fails leaves the store as it was. -/
theorem run_of_error {mode : Mode} (h : mode.run text s = .error e t) : t = s := by
  cases mode with
  | programs => exact runProgram_of_error h
  | lines =>
    change runLine text s = .error e t at h
    rcases parsed : Expr.parse text with _ | x
    · rw [runLine_of_statements parsed] at h
      exact runStatements_of_error h
    · rw [runLine_of_expression parsed] at h
      exact runExpression_of_error h

end Mode

namespace Session
variable {s : Session} {text : String}

theorem run_mode (s : Session) (text : String) : (s.run text).2.mode = s.mode := by
  unfold run
  split <;> rfl

theorem run_of_failed {e : Error} (h : (s.run text).1 = .error e) : (s.run text).2 = s := by
  unfold run at h ⊢
  split at h
  · cases h
  · next failed =>
    obtain rfl := Mode.run_of_error failed
    rfl

theorem run_of_expression {x : Expr} (lines : s.mode = .lines) (h : Expr.parse text = .ok x) :
    (s.run text).2 = s := by
  have evaluates : s.mode.run text = Mode.runExpression x := by
    rw [lines]
    exact Mode.runLine_of_expression h
  unfold run
  rw [evaluates]
  split
  · next shown =>
    obtain rfl := Mode.runExpression_of_ok shown
    rfl
  · next failed =>
    obtain rfl := Mode.runExpression_of_error failed
    rfl

/-- The texts of a session, each with what it showed and the session after it. -/
def record (s : Session) (texts : List String) : List (String × Except Error String × Session) :=
  texts.zip (s.runAll texts)

/-- Runs that leave the session as it was may be deleted. -/
theorem record_filter {keep : String × Except Error String × Session → Bool} (s : Session) (texts : List String)
    (idle : ∀ (t : Session) text, t.mode = s.mode → keep (text, t.run text) = false → (t.run text).2 = t) :
    s.record (((s.record texts).filter keep).map Prod.fst) = (s.record texts).filter keep ∧
      s.afterAll (((s.record texts).filter keep).map Prod.fst) = s.afterAll texts := by
  induction texts generalizing s with
  | nil => exact ⟨rfl, rfl⟩
  | cons text texts ih =>
    have next := ih (s.run text).2 fun t text mode => idle t text (mode.trans (s.run_mode _))
    have first : s.record (text :: texts) = (text, s.run text) :: (s.run text).2.record texts := rfl
    rw [first]
    by_cases kept : keep (text, s.run text) = true
    · rw [List.filter_cons_of_pos kept]
      refine ⟨?_, next.2⟩
      exact congrArg ((text, s.run text) :: ·) next.1
    · -- Without this text the others start in the same session.
      have same := idle s text rfl (Bool.eq_false_iff.mpr kept)
      rw [List.filter_cons_of_neg kept, afterAll_cons]
      rw [same] at next ⊢
      exact next

/-- Whether a run went without an error. -/
def succeeded (run : String × Except Error String × Session) : Bool :=
  run.2.1.isOk

/-- Whether the text of a run is an expression. -/
def isExpression (run : String × Except Error String × Session) : Bool :=
  (Expr.parse run.1).isOk

/-- In a session of either kind, the texts whose runs failed may be deleted, and from lines also those that are
expressions. What the other texts show, the session after each of them and the session at the end are the same. -/
theorem failed_runs_invisible (texts : List String) :
    (∀ mode, let kept := ((start mode).record texts).filter succeeded
      (start mode).record (kept.map Prod.fst) = kept ∧
        (start mode).afterAll (kept.map Prod.fst) = (start mode).afterAll texts) ∧
      let kept := ((start .lines).record texts).filter fun run => succeeded run && !isExpression run
      (start .lines).record (kept.map Prod.fst) = kept ∧
        (start .lines).afterAll (kept.map Prod.fst) = (start .lines).afterAll texts := by
  have failed {t : Session} {text : String} (h : succeeded (text, t.run text) = false) : (t.run text).2 = t := by
    rcases run : (t.run text).1 with e | shown
    · exact run_of_failed run
    · rw [succeeded, run] at h
      cases h
  refine ⟨fun mode => record_filter _ _ fun t text _ => failed, record_filter _ _ fun t text mode idle => ?_⟩
  rcases Bool.and_eq_false_iff.mp idle with fails | expression
  · exact failed fails
  · rcases parsed : Expr.parse text with e | x
    · rw [isExpression, parsed] at expression
      cases expression
    · exact run_of_expression mode parsed

example : (((start .lines).record ["2 * 3", "2 DIV 0", "2 3", "- 2"]).filter succeeded).map Prod.fst =
    ["2 * 3", "- 2"] := by
  decide +kernel

end Session
end MiniPascal
