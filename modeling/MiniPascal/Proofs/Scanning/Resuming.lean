import MiniPascal.Proofs.Scanning.Scan

/-! # Scanning on

A scan may be followed by another one, whatever it found. It leaves a cursor further on, and a token or a numeral out
of range takes a character that is not layout. Where nothing can be taken, all later scans agree: a character that no
token starts with is met again, and the end of the text is never left. -/

namespace MiniPascal
open Grammar

namespace Cursor
variable {s u : Cursor} {outcome : Except LexError Lookahead}

/-- A cursor does not move past the end. -/
theorem exists_skip_le (s : Cursor) (n : Nat) : ∃ m ≤ s.rest.length, s.skip n = s.skip m := by
  rcases Nat.le_total n s.rest.length with inside | beyond
  · exact ⟨n, inside, rfl⟩
  · refine ⟨s.rest.length, Nat.le_refl _, ?_⟩
    simp [skip, List.drop_eq_nil_of_le beyond, List.take_of_length_le beyond]

/-- Between the two cursors stand layout, a character that is not layout, and whatever follows it. -/
def Takes (s u : Cursor) : Prop :=
  ∃ l c cs, Layout l ∧ Bare c ∧ s.rest = l ++ c :: (cs ++ u.rest)

/-- What a scan gives if it takes a lexeme: a token, or a numeral out of range. -/
def takesLexeme : Except LexError Lookahead → Bool
  | .ok (some _) => true
  | .error (.invalidNumber _ _) => true
  | _ => false

theorem takes_of_scan (h : s.scan = (outcome, u)) (lexeme : takesLexeme outcome = true) : s.Takes u := by
  cases scan_iff.mp h with
  | nothing | unexpectedChar | unterminatedComment => cases lexeme
  | @token l x rest p t layout spells ends =>
    obtain ⟨c, cs, rfl, bare, -⟩ := scanFrom_of_spells (p := p) spells ends
    exact ⟨l, c, cs, layout, bare, rfl⟩
  | @invalidNumber l n rest p layout numeral =>
    obtain ⟨c, cs, rfl, bare, -⟩ := scanFrom_of_numeral (p := p) numeral
    exact ⟨l, c, cs, layout, bare, rfl⟩

/-- What every later scan gives after one that gave this, if that is settled. -/
def lasting? : Except LexError Lookahead → Option (Except LexError Lookahead)
  | .ok (some _) => none
  | .ok none => some (.ok none)
  | .error (.unexpectedChar c p) => some (.error (.unexpectedChar c p))
  | .error (.unterminatedComment _) => some (.ok none)
  | .error (.invalidNumber _ _) => none

theorem scan_of_nil (p : Position) : scan ⟨[], p⟩ = (.ok none, ⟨[], p⟩) := rfl

theorem scan_again {later : Except LexError Lookahead} (h : s.scan = (outcome, u))
    (lasts : lasting? outcome = some later) : u.scan = (later, u) := by
  cases scan_iff.mp h with
  | token | invalidNumber => cases lasts
  | nothing | unterminatedComment =>
    cases lasts
    exact scan_of_nil _
  | @unexpectedChar l c cs p _ bare none =>
    cases lasts
    exact scan_iff.mpr (.unexpectedChar (p := p.afterAll l) .none bare none)

/-! ### Series of scans -/

/-- Scans one after the other, each with the cursor that it starts from, what it gives, and the cursor it leaves. -/
def scans (s : Cursor) : Nat → List (Cursor × Except LexError Lookahead × Cursor)
  | 0 => []
  | n + 1 => (s, s.scan) :: s.scan.2.scans n

theorem length_scans (s : Cursor) (n : Nat) : (s.scans n).length = n := by
  induction n generalizing s with
  | zero => rfl
  | succ n ih => exact congrArg (· + 1) (ih _)

theorem scans_of_fixed (fixed : s.scan = (outcome, s)) (n : Nat) : ∀ x ∈ s.scans n, x.2.1 = outcome := by
  induction n with
  | zero => exact nofun
  | succ n ih =>
    rw [scans, fixed]
    exact List.forall_mem_cons.mpr ⟨rfl, ih⟩

/-- What is settled by one scan is what all later ones give. -/
theorem scans_lasting (s : Cursor) (n : Nat) :
    (s.scans n).Pairwise fun x y => ∀ later, lasting? x.2.1 = some later → y.2.1 = later := by
  induction n generalizing s with
  | zero => exact .nil
  | succ n ih =>
    refine .cons (fun y mem later lasts => ?_) (ih _)
    exact scans_of_fixed (scan_again rfl lasts) n y mem

theorem scans_take (s : Cursor) (n : Nat) : ∀ x ∈ s.scans n, takesLexeme x.2.1 = true → x.1.Takes x.2.2 := by
  induction n generalizing s with
  | zero => exact nofun
  | succ n ih => exact List.forall_mem_cons.mpr ⟨fun lexeme => takes_of_scan rfl lexeme, ih _⟩

end Cursor
end MiniPascal
