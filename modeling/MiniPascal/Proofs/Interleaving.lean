import MiniPascal.Proofs.Scanning.Resuming

/-! # Requests and the series of tokens

A scanner may be asked in two ways, by request and for the next member of its series, and calls of both kinds may
follow each other in any order. They share one stream: a call either scans, and then it gives what a request would
have given in its place, or it comes after the end of the series, and then it gives nothing and leaves the scanner as
it is. -/

namespace MiniPascal

/-- The two ways to ask a scanner for a token. -/
inductive Call where
  | request
  | next
deriving DecidableEq

namespace Scanner
open Cursor

/-- What a scanner gives to a call, and the scanner that the call leaves. -/
def answer (s : Scanner) : Call → Except LexError Lookahead × Scanner
  | .request => s.request
  | .next => s.next

/-- A call with the scanner before it, what it gave, and the scanner after it. -/
structure Step where
  call : Call
  before : Scanner
  outcome : Except LexError Lookahead
  after : Scanner

/-- Calls one after the other. -/
def steps (s : Scanner) : List Call → List Step
  | [] => []
  | c :: cs => ⟨c, s, (s.answer c).1, (s.answer c).2⟩ :: (s.answer c).2.steps cs

/-- The series gave no token, and so it ends here if it has not ended before. -/
def Step.ends (x : Step) : Bool :=
  match x.call, x.outcome with
  | .next, .ok none | .next, .error _ => true
  | _, _ => false

/-- The step without what only the series needs. -/
def Step.scan (x : Step) : Cursor × Except LexError Lookahead × Cursor :=
  (x.before.cursor, x.outcome, x.after.cursor)

/-- The steps that scan: those up to the end of the series, and the requests after it. -/
def scanning : List Step → List Step
  | [] => []
  | x :: xs => x :: if x.ends then xs.filter (·.call = .request) else scanning xs

variable {s : Scanner}

/-! ### One call -/

/-- Before its series has ended, a scanner scans at every call. -/
theorem answer_active (c : Cursor) (call : Call) :
    ∃ ended, answer ⟨c, false⟩ call = (c.scan.1, ⟨c.scan.2, ended⟩) ∧
      Step.ends ⟨call, ⟨c, false⟩, c.scan.1, ⟨c.scan.2, ended⟩⟩ = ended := by
  cases call with
  | request => exact ⟨false, rfl, rfl⟩
  | next =>
    rcases found : c.scan with ⟨_ | _ | t, u⟩ <;> simp [answer, next, found, Step.ends]

/-- After its end the series gives nothing. -/
theorem answer_next_of_ended (h : s.ended = true) : s.answer .next = (.ok none, s) := by
  simp [answer, next, h]

theorem answer_ended (h : s.ended = true) (call : Call) : (s.answer call).2.ended = true := by
  cases call with
  | request => exact h
  | next =>
    rw [answer_next_of_ended h]
    exact h

theorem answer_ends (call : Call) (h : Step.ends ⟨call, s, (s.answer call).1, (s.answer call).2⟩ = true) :
    (s.answer call).2.ended = true := by
  obtain ⟨c, _ | _⟩ := s
  · obtain ⟨ended, given, same⟩ := answer_active c call
    rw [given] at h ⊢
    exact same.symm.trans h
  · exact answer_ended rfl call

theorem answer_eq_skip (s : Scanner) (call : Call) :
    ∃ n ≤ s.cursor.rest.length, (s.answer call).2.cursor = s.cursor.skip n := by
  obtain ⟨n, scanned⟩ := s.cursor.scan_eq_skip
  obtain ⟨m, inside, same⟩ := s.cursor.exists_skip_le n
  have moved : s.cursor.scan.2 = s.cursor.skip m := scanned.trans same
  obtain ⟨c, _ | _⟩ := s
  · obtain ⟨ended, given, -⟩ := answer_active c call
    rw [given]
    exact ⟨m, inside, moved⟩
  · cases call with
    | request => exact ⟨m, inside, moved⟩
    | next => exact ⟨0, Nat.zero_le _, (skip_zero c).symm⟩

/-! ### All calls -/

theorem steps_answer (calls : List Call) : ∀ x ∈ s.steps calls, x.before.answer x.call = (x.outcome, x.after) := by
  induction calls generalizing s with
  | nil => exact List.forall_mem_nil _
  | cons c cs ih => exact List.forall_mem_cons.mpr ⟨rfl, ih⟩

theorem steps_ended (h : s.ended = true) (calls : List Call) : ∀ x ∈ s.steps calls, x.before.ended = true := by
  induction calls generalizing s with
  | nil => exact List.forall_mem_nil _
  | cons c cs ih => exact List.forall_mem_cons.mpr ⟨h, ih (answer_ended h c)⟩

/-- Once a call of `next` gave no token, the series has ended for all later calls. -/
theorem steps_stay_ended (s : Scanner) (calls : List Call) :
    (s.steps calls).Pairwise fun x y => x.ends = true → y.before.ended = true := by
  induction calls generalizing s with
  | nil => exact .nil
  | cons c cs ih => exact .cons (fun y mem ends => steps_ended (answer_ends c ends) cs y mem) (ih _)

theorem steps_forward (s : Scanner) (calls : List Call) :
    ∀ x ∈ s.steps calls, ∃ i j, i ≤ j ∧ j ≤ s.cursor.rest.length ∧ x.before.cursor = s.cursor.skip i ∧
      x.after.cursor = s.cursor.skip j := by
  induction calls generalizing s with
  | nil => exact List.forall_mem_nil _
  | cons c cs ih =>
    obtain ⟨n, inside, moved⟩ := s.answer_eq_skip c
    refine List.forall_mem_cons.mpr ⟨⟨0, n, Nat.zero_le _, inside, (skip_zero _).symm, moved⟩, fun x mem => ?_⟩
    obtain ⟨i, j, le, below, before, after⟩ := ih _ x mem
    rw [moved, skip_rest, List.length_drop] at below
    rw [moved, skip_skip] at before after
    exact ⟨n + i, n + j, by omega, by omega, before, after⟩

/-! ### The calls that scan -/

theorem requests_eq_scans (s : Scanner) (n : Nat) :
    (s.steps (List.replicate n .request)).map Step.scan = s.cursor.scans n := by
  induction n generalizing s with
  | zero => rfl
  | succ n ih =>
    rw [List.replicate_succ, steps, List.map_cons, ih]
    rfl

theorem filter_eq_scans (h : s.ended = true) (calls : List Call) :
    ∃ n, ((s.steps calls).filter (·.call = .request)).map Step.scan = s.cursor.scans n := by
  induction calls generalizing s with
  | nil => exact ⟨0, rfl⟩
  | cons c cs ih =>
    cases c with
    | request =>
      obtain ⟨n, others⟩ := ih (answer_ended h .request)
      refine ⟨n + 1, ?_⟩
      rw [steps, List.filter_cons_of_pos rfl, List.map_cons, others]
      rfl
    | next =>
      obtain ⟨n, others⟩ := ih (answer_ended h .next)
      rw [answer_next_of_ended h] at others
      rw [steps, List.filter_cons_of_neg (by simp), answer_next_of_ended h]
      exact ⟨n, others⟩

theorem scanning_eq_scans (c : Cursor) (calls : List Call) :
    ∃ n, (scanning (steps ⟨c, false⟩ calls)).map Step.scan = c.scans n := by
  induction calls generalizing c with
  | nil => exact ⟨0, rfl⟩
  | cons call calls ih =>
    obtain ⟨ended, given, ends⟩ := answer_active c call
    rw [steps, given, scanning]
    cases ended with
    | false =>
      obtain ⟨n, others⟩ := ih c.scan.2
      refine ⟨n + 1, ?_⟩
      rw [ends, if_neg nofun, List.map_cons, others]
      rfl
    | true =>
      -- From here on only requests scan, whatever calls of `next` stand between them.
      obtain ⟨n, others⟩ := filter_eq_scans (s := ⟨c.scan.2, true⟩) rfl calls
      refine ⟨n + 1, ?_⟩
      rw [ends, if_pos rfl, List.map_cons, others]
      rfl

/-- However the two ways to ask for a token are mixed, they share one stream that only goes forward. Once `next` gave
no token, it gives nothing and does not move. All other calls scan, and they find what a scanner finds that is only
asked by request: a lexeme takes more than layout, an unexpected character is met again by every later scan, and after
the end of the text or a comment that is not closed there is nothing. -/
theorem calls_share_stream (text : String) (calls : List Call) :
    let steps := (ofText text).steps calls
    let scanned := scanning steps
    (steps.Pairwise fun x y => x.ends = true → y.call = .next → y.outcome = .ok none ∧ y.after = y.before) ∧
      scanned.map Step.scan = ((ofText text).steps (List.replicate scanned.length .request)).map Step.scan ∧
      (∀ x ∈ steps, ∃ i j, i ≤ j ∧ j ≤ text.length ∧ x.before.cursor = (Cursor.ofText text).skip i ∧
        x.after.cursor = (Cursor.ofText text).skip j) ∧
      (∀ x ∈ scanned, takesLexeme x.outcome = true → x.before.cursor.Takes x.after.cursor) ∧
      scanned.Pairwise fun x y => ∀ later, lasting? x.outcome = some later → y.outcome = later := by
  intro steps scanned
  -- However they were asked for, the scans are those of one cursor, one after the other.
  obtain ⟨n, same⟩ := scanning_eq_scans (Cursor.ofText text) calls
  change scanned.map Step.scan = _ at same
  refine ⟨?_, ?_, fun x mem => ?_, fun x mem lexeme => ?_, ?_⟩
  · refine (steps_stay_ended (ofText text) calls).imp_of_mem fun {x y} _ mem stays ends next => ?_
    have given := steps_answer calls y mem
    rw [next, answer_next_of_ended (stays ends)] at given
    obtain ⟨outcome, after⟩ := Prod.mk.inj given
    exact ⟨outcome.symm, after.symm⟩
  · have count := congrArg List.length same
    rw [List.length_map, length_scans] at count
    rw [count, requests_eq_scans, same]
    rfl
  · rw [← String.length_toList]
    exact steps_forward (ofText text) calls x mem
  · have member : x.scan ∈ (Cursor.ofText text).scans n := same ▸ List.mem_map_of_mem mem
    exact scans_take _ _ _ member lexeme
  · have settled := scans_lasting (Cursor.ofText text) n
    rw [← same] at settled
    exact List.pairwise_map.mp settled

theorem calls_share_stream_on_error :
    let calls : List Call := [.next, .next, .request, .next]
    let steps := (ofText "a ? 1").steps calls
    (scanning steps).map Step.outcome = [.ok (some (.identifier "a")), .error (.unexpectedChar '?' ⟨1, 3⟩),
        .error (.unexpectedChar '?' ⟨1, 3⟩)] ∧
      ∃ x : Step, steps[3]? = some x ∧ x.call = .next ∧ x.outcome = .ok none ∧ x.after = x.before := by
  intro calls steps
  obtain ⟨idle, -⟩ := calls_share_stream "a ? 1" calls
  have later := (List.pairwise_cons.mp (List.pairwise_cons.mp idle).2).1
  have last := later _ (.tail _ (.head _)) (by decide +kernel) rfl
  exact ⟨by decide +kernel, _, rfl, rfl, last⟩

end Scanner
end MiniPascal
