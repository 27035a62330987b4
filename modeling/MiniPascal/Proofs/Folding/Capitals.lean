import MiniPascal.Proofs.Execution
import MiniPascal.Proofs.Folding

/-! # Spellings with the same capitals

A variable is kept under the lower case of its spelling, and two spellings that have the same capitals may differ in
lower case: `STRASSE` is the upper case of `straße`, but no lower case makes `ß` of `SS`. What counts is whether a
character has the lower case of its upper case. A spelling of such characters shares its key with all others that are
made of them and have the same capitals, and with no other; the few other characters are different letters in either
case. A sigma has two forms in lower case, of which its place in the word takes one, so a small sigma in the other form
has to stand in both spellings. -/

namespace MiniPascal
open Text

namespace Text

/-! ### Letters with a case

The characters that change their case are letters, and no mark that is looked through is one of them, before or after.
Sets are numbers with a bit for each code point here, so that they are compared at once. -/

/-- The set of these numbers. -/
def bitsOf (ns : List Nat) : Nat := ns.foldr (fun n bits => bits ||| 1 <<< n) 0

/-- The set of the code points. -/
def CodePoints.bits (s : CodePoints) : Nat :=
  s.ranges.foldr (fun (first, last) bits => bits ||| (2 ^ (last + 1 - first) - 1) <<< first) 0

theorem testBit_bitsOf {ns : List Nat} {n : Nat} : (bitsOf ns).testBit n = true ↔ n ∈ ns := by
  induction ns with
  | nil => simp [bitsOf]
  | cons m ns ih =>
    have split : bitsOf (m :: ns) = bitsOf ns ||| 1 <<< m := rfl
    rw [split, Nat.testBit_or, Bool.or_eq_true, ih, List.mem_cons, or_comm, Nat.one_shiftLeft, Nat.testBit_two_pow]
    simp [eq_comm]

theorem testBit_range {first last n : Nat} :
    ((2 ^ (last + 1 - first) - 1) <<< first).testBit n = true ↔ first ≤ n ∧ n ≤ last := by
  rw [Nat.testBit_shiftLeft, Nat.testBit_two_pow_sub_one, Bool.and_eq_true, decide_eq_true_eq, decide_eq_true_eq]
  omega

theorem CodePoints.testBit_bits {s : CodePoints} {c : Char} : s.bits.testBit c.toNat = s.contains c := by
  rw [Bool.eq_iff_iff, contains_iff, bits]
  induction s.ranges with
  | nil => simp
  | cons r rs ih =>
    rw [List.foldr_cons, Nat.testBit_or, Bool.or_eq_true, ih, testBit_range]
    simp [or_comm]

/-- The code points of a run. -/
def CaseRun.points (r : CaseRun) : List Nat := List.range' r.first ((r.last - r.first) / r.step + 1) r.step

theorem CaseRun.mem_points {r : CaseRun} {n : Nat} (h : r.covers n = true) : n ∈ r.points := by
  obtain ⟨low, high, even⟩ := covers_iff.mp h
  have steps := Nat.mul_div_cancel' (Nat.dvd_of_mod_eq_zero even)
  have few : (n - r.first) / r.step ≤ (r.last - r.first) / r.step := Nat.div_le_div_right (by omega)
  exact List.mem_range'.mpr ⟨_, Nat.lt_succ_of_le few, by omega⟩

/-- Whether all of these are code points of letters with a case that are not looked through. -/
def areLetters (ns : List Nat) : Bool :=
  (ns.all fun n => (Char.ofNat n).toNat == n) && bitsOf ns &&& cased.bits == bitsOf ns &&
    bitsOf ns &&& caseIgnorable.bits == 0

/-- Whether the runs go from letters to letters. -/
def keepLetters (runs : List CaseRun) : Bool :=
  areLetters (runs.flatMap (·.points)) && areLetters (runs.flatMap (·.image.points)) &&
    runs.all fun r => decide (0 ≤ r.first + r.offset)

/-- The runs of the upper case but for the one of the combining iota, which becomes a letter there. -/
def upperRuns : List CaseRun := upperMap.runs.filter fun r => r.first != 0x345

theorem upperRuns_keepLetters : keepLetters upperRuns = true := by decide +kernel

theorem lowerRuns_keepLetters : keepLetters lowerMap.runs = true := by decide +kernel

variable {c d : Char} {cs ds : List Char} {before before' after after' : List Char}

theorem letter_of_areLetters {ns : List Nat} (letters : areLetters ns = true) (h : c.toNat ∈ ns) :
    isCased c = true ∧ isCaseIgnorable c = false := by
  simp only [areLetters, Bool.and_eq_true, beq_iff_eq] at letters
  obtain ⟨⟨-, inside⟩, outside⟩ := letters
  have bit := testBit_bitsOf.mpr h
  constructor
  · have both := congrArg (·.testBit c.toNat) inside
    simp only [Nat.testBit_and, bit, Bool.true_and, CodePoints.testBit_bits] at both
    exact both
  · have both := congrArg (·.testBit c.toNat) outside
    simp only [Nat.testBit_and, bit, Bool.true_and, CodePoints.testBit_bits, Nat.zero_testBit] at both
    exact both

theorem toNat_of_areLetters {ns : List Nat} {n : Nat} (letters : areLetters ns = true) (h : n ∈ ns) :
    (Char.ofNat n).toNat = n := by
  simp only [areLetters, Bool.and_eq_true, List.all_eq_true, beq_iff_eq] at letters
  exact letters.1.1 n h

/-- Two characters are of one kind if a sigma beside either of them has the same form. -/
structure Alike (c d : Char) : Prop where
  cased : isCased d = isCased c
  ignorable : isCaseIgnorable d = isCaseIgnorable c

theorem Alike.refl (c : Char) : Alike c c := ⟨rfl, rfl⟩

theorem alike_of_run {runs : List CaseRun} {r : CaseRun} (checked : keepLetters runs = true) (mem : r ∈ runs)
    (covers : r.covers c.toNat = true) (image : Char.ofNat (c.toNat + r.offset).toNat = d) : Alike c d := by
  simp only [keepLetters, Bool.and_eq_true, List.all_eq_true, decide_eq_true_eq] at checked
  obtain ⟨⟨sources, targets⟩, sent⟩ := checked
  have source : c.toNat ∈ runs.flatMap (·.points) := List.mem_flatMap.mpr ⟨r, mem, CaseRun.mem_points covers⟩
  have target : (c.toNat + r.offset).toNat ∈ runs.flatMap (·.image.points) :=
    List.mem_flatMap.mpr ⟨r, mem, CaseRun.mem_points (CaseRun.image_covers covers (sent r mem))⟩
  rw [← toNat_of_areLetters targets target, image] at target
  obtain ⟨letter, seen⟩ := letter_of_areLetters sources source
  obtain ⟨letter', seen'⟩ := letter_of_areLetters targets target
  exact ⟨letter'.trans letter.symm, seen'.trans seen.symm⟩

theorem alike_of_apply {m : CaseMap} (expansions : ∀ e ∈ m.expansions, e.2.length ≠ 1)
    (runs : ∀ r ∈ m.runs, r.covers c.toNat = true → Char.ofNat (c.toNat + r.offset).toNat = d → Alike c d)
    (h : m.apply c = [d]) : Alike c d := by
  have image : (m.images c.toNat).map Char.ofNat = [d] := h
  rcases m.images_cases c.toNat with expanded | ⟨r, mem, covers, one⟩ | itself
  · have count := congrArg List.length image
    rw [List.length_map] at count
    exact absurd count (expansions _ expanded)
  · rw [one, List.map_singleton, List.singleton_inj] at image
    exact runs r mem covers image
  · rw [itself, List.map_singleton, List.singleton_inj, Char.ofNat_toNat] at image
    rw [image]
    exact .refl d

/-! ### Characters with the lower case of their upper case -/

/-- The character has the lower case of its upper case. The sigma at the end of a word has it in its place. -/
def Reversible (c : Char) : Prop := c = 'ς' ∨ (upperMap.apply c).flatMap lowerMap.apply = lowerMap.apply c

instance (c : Char) : Decidable (Reversible c) := inferInstanceAs (Decidable (_ ∨ _))

theorem length_lower (other : c ≠ 'İ') : (lowerMap.apply c).length = 1 := by
  rw [CaseMap.apply, List.length_map]
  rcases lowerMap.images_cases c.toNat with expanded | ⟨r, -, -, image⟩ | itself
  · refine absurd (Char.toNat_inj.mp ?_) other
    exact (Prod.mk.inj (List.mem_singleton.mp expanded)).1
  · rw [image]
    rfl
  · rw [itself]
    rfl

theorem length_lower_pos (c : Char) : 0 < (lowerMap.apply c).length := by
  by_cases dotted : c = 'İ'
  · rw [dotted]
    decide +kernel
  · rw [length_lower dotted]
    exact Nat.one_pos

theorem upper_dotted : upperMap.apply 'İ' = ['İ'] := by decide +kernel

theorem upper_ne_nil (c : Char) : upperMap.apply c ≠ [] :=
  CaseMap.apply_ne_nil (by decide +kernel) c

/-- Such a character has one character in upper case. -/
theorem upper_of_reversible (h : Reversible c) : ∃ d, upperMap.apply c = [d] := by
  by_cases dotted : c = 'İ'
  · exact ⟨'İ', dotted ▸ upper_dotted⟩
  rcases h with rfl | same
  · exact ⟨'Σ', by decide +kernel⟩
  rcases upper : upperMap.apply c with _ | ⟨d, _ | ⟨e, ds⟩⟩
  · exact absurd upper (upper_ne_nil c)
  · exact ⟨d, rfl⟩
  · have count := congrArg List.length same
    have first := length_lower_pos d
    have second := length_lower_pos e
    rw [upper, length_lower dotted] at count
    simp only [List.flatMap_cons, List.length_append] at count
    omega

theorem alike_of_upper (h : Reversible c) (upper : upperMap.apply c = [d]) : Alike c d := by
  refine alike_of_apply (by decide +kernel) (fun r mem covers image => ?_) upper
  by_cases iota : r.first = 0x345
  · have single : ∀ r ∈ upperMap.runs, r.first = 0x345 → r.last = 0x345 := by decide +kernel
    obtain ⟨low, high, -⟩ := CaseRun.covers_iff.mp covers
    have last := single r mem iota
    have code : c.toNat = 0x345 := by omega
    obtain rfl : c = '\u0345' := Char.toNat_inj.mp code
    exact absurd h (by decide +kernel)
  · exact alike_of_run upperRuns_keepLetters (List.mem_filter.mpr ⟨mem, bne_iff_ne.mpr iota⟩) covers image

theorem alike_of_lower (lower : lowerMap.apply c = [d]) : Alike c d :=
  alike_of_apply (by decide +kernel) (fun _ => alike_of_run lowerRuns_keepLetters) lower

/-- What a character counts as without its case: its upper case, if that has the same lower case, and else its lower
case. -/
def caseless (c : Char) : List Char := if Reversible c then upperMap.apply c else lowerMap.apply c

theorem exists_caseless (c : Char) : ∃ d, caseless c = [d] ∧ Alike c d := by
  unfold caseless
  split
  · next whole =>
    obtain ⟨d, upper⟩ := upper_of_reversible whole
    exact ⟨d, upper, alike_of_upper whole upper⟩
  · next other =>
    have dotted : c ≠ 'İ' := by
      rintro rfl
      exact other (by decide +kernel)
    obtain ⟨d, lower⟩ := List.length_eq_one_iff.mp (length_lower dotted)
    exact ⟨d, lower, alike_of_lower lower⟩

/-! ### Words -/

/-- The character is a small sigma in the other form than a capital one takes in its place. -/
def Misplaced (before : List Char) (c : Char) (after : List Char) : Prop :=
  (c = 'σ' ∨ c = 'ς') ∧ c ≠ if endsWord before after then 'ς' else 'σ'

instance (before : List Char) (c : Char) (after : List Char) : Decidable (Misplaced before c after) :=
  inferInstanceAs (Decidable (_ ∧ _))

/-- The misplaced sigmas of characters that follow `before`, with how many characters stand before each. -/
def misplacedSigmas (before : List Char) : List Char → List (Nat × Char)
  | [] => []
  | c :: after =>
    if Misplaced before c after then (before.length, c) :: misplacedSigmas (c :: before) after
    else misplacedSigmas (c :: before) after

theorem length_le_of_misplaced {before cs : List Char} : ∀ x ∈ misplacedSigmas before cs, before.length ≤ x.1 := by
  induction cs generalizing before with
  | nil => exact nofun
  | cons c cs ih =>
    have others : ∀ x ∈ misplacedSigmas (c :: before) cs, before.length ≤ x.1 :=
      fun x mem => Nat.le_of_succ_le (ih x mem)
    rw [misplacedSigmas]
    split
    · exact List.forall_mem_cons.mpr ⟨Nat.le_refl _, others⟩
    · exact others

theorem ne_cons_misplacedSigmas (c d : Char) (before cs : List Char) (xs : List (Nat × Char)) :
    misplacedSigmas (d :: before) cs ≠ (before.length, c) :: xs := by
  intro same
  have first : (before.length, c) ∈ misplacedSigmas (d :: before) cs := same ▸ List.mem_cons_self
  exact Nat.not_succ_le_self _ (length_le_of_misplaced _ first)

/-- With the same misplaced sigmas, either both first characters are in their place, or both are the same sigma. -/
theorem misplacedSigmas_cons (length : before'.length = before.length)
    (same : misplacedSigmas before (c :: cs) = misplacedSigmas before' (d :: ds)) :
    (¬Misplaced before c cs ∧ ¬Misplaced before' d ds ∨ Misplaced before c cs ∧ c = d) ∧
      misplacedSigmas (c :: before) cs = misplacedSigmas (d :: before') ds := by
  rw [misplacedSigmas, misplacedSigmas] at same
  split at same <;> split at same
  · obtain ⟨first, others⟩ := List.cons.inj same
    exact ⟨.inr ⟨‹_›, (Prod.mk.inj first).2⟩, others⟩
  · rw [← length] at same
    exact (ne_cons_misplacedSigmas _ _ _ _ _ same.symm).elim
  · rw [length] at same
    exact (ne_cons_misplacedSigmas _ _ _ _ _ same).elim
  · exact ⟨.inl ⟨‹_›, ‹_›⟩, same⟩

theorem startsCased_cons (c : Char) (cs : List Char) :
    startsCased (c :: cs) = if isCaseIgnorable c then startsCased cs else isCased c := by
  cases seen : isCaseIgnorable c <;> simp [startsCased, seen]

theorem Alike.startsCased (h : Alike c d) (same : startsCased ds = startsCased cs) :
    startsCased (d :: ds) = startsCased (c :: cs) := by
  rw [startsCased_cons, startsCased_cons, h.cased, h.ignorable, same]

theorem startsCased_caseless (cs : List Char) : startsCased (cs.flatMap caseless) = startsCased cs := by
  induction cs with
  | nil => rfl
  | cons c cs ih =>
    obtain ⟨d, form, alike⟩ := exists_caseless c
    rw [List.flatMap_cons, form, List.singleton_append]
    exact alike.startsCased ih

theorem sigma_of_upper (h : upperMap.apply c = ['Σ']) : c = 'Σ' ∨ c = 'σ' ∨ c = 'ς' := by
  have source : c.toNat ∈ upperMap.sources 'Σ'.toNat :=
    CaseMap.mem_sources_of_mem_apply (by rw [h]; exact List.mem_singleton_self _) (by decide)
  have sources : upperMap.sources 'Σ'.toNat = ['Σ'.toNat, 'ς'.toNat, 'σ'.toNat] := by decide +kernel
  rw [sources, List.mem_cons, List.mem_cons, List.mem_singleton] at source
  exact source.imp Char.toNat_inj.mp fun small => small.symm.imp Char.toNat_inj.mp Char.toNat_inj.mp

theorem upper_capitalSigma : upperMap.apply 'Σ' = ['Σ'] := by decide +kernel

theorem upper_finalSigma : upperMap.apply 'ς' = ['Σ'] := by decide +kernel

/-- In its place, a reversible character has the lower case of its upper case. -/
theorem lowerBetween_upper (h : Reversible c) (upper : upperMap.apply c = [d])
    (same : endsWord before' after' = endsWord before after)
    (sigma : c = 'σ' ∨ c = 'ς' → c = if endsWord before after then 'ς' else 'σ') :
    lowerBetween before' d after' = lowerBetween before c after := by
  -- The sigma is the one letter whose lower case depends on where it stands.
  by_cases capital : d = 'Σ'
  · rw [capital] at upper
    rw [capital, lowerBetween, if_pos rfl, same]
    rcases sigma_of_upper upper with rfl | small
    · rw [lowerBetween, if_pos rfl]
    · have own : lowerMap.apply c = [c] := by rcases small with rfl | rfl <;> decide +kernel
      have other : c ≠ 'Σ' := by rcases small with rfl | rfl <;> decide
      rw [← sigma small, lowerBetween, if_neg other, own]
  · have other : c ≠ 'Σ' := by
      rintro rfl
      exact capital (List.singleton_inj.mp (upper.symm.trans upper_capitalSigma))
    have notFinal : c ≠ 'ς' := by
      rintro rfl
      exact capital (List.singleton_inj.mp (upper.symm.trans upper_finalSigma))
    rw [lowerBetween, if_neg capital, lowerBetween, if_neg other, ← h.resolve_left notFinal, upper,
      List.flatMap_singleton]

theorem lowerBetween_caseless (form : caseless c = [d]) (same : endsWord before' after' = endsWord before after)
    (sigma : c = 'σ' ∨ c = 'ς' → c = if endsWord before after then 'ς' else 'σ') :
    lowerBetween before' d after' = lowerBetween before c after := by
  unfold caseless at form
  split at form
  · next whole => exact lowerBetween_upper whole form same sigma
  · next irreversible =>
    have other : c ≠ 'Σ' := by
      rintro rfl
      exact irreversible (by decide +kernel)
    obtain ⟨small, own⟩ : IsLower d := isLower_of_mem_apply (by rw [form]; exact List.mem_singleton_self _)
    rw [lowerBetween, if_neg small, lowerBetween, if_neg other, own, form]

theorem eq_of_not_misplaced (h : ¬Misplaced before c after) (small : c = 'σ' ∨ c = 'ς') :
    c = if endsWord before after then 'ς' else 'σ' :=
  by_contra fun other => h ⟨small, other⟩

theorem lowerBetween_of_misplaced (h : Misplaced before c after) :
    lowerBetween before' c after' = lowerMap.apply c := by
  refine if_neg ?_
  rcases h.1 with rfl | rfl <;> decide

/-- Words that count as the same without their case have one lower case, if the same sigmas are misplaced in them. -/
theorem lowercaseAfter_of_caseless (forms : cs.flatMap caseless = ds.flatMap caseless)
    (sigmas : misplacedSigmas before cs = misplacedSigmas before' ds) (length : before'.length = before.length)
    (starts : startsCased before' = startsCased before) : lowercaseAfter before cs = lowercaseAfter before' ds := by
  induction cs generalizing before before' ds with
  | nil =>
    rcases ds with _ | ⟨d, ds⟩
    · rfl
    · obtain ⟨y, form, -⟩ := exists_caseless d
      rw [List.flatMap_cons, form] at forms
      cases forms
  | cons c cs ih =>
    obtain ⟨x, form, alike⟩ := exists_caseless c
    rcases ds with _ | ⟨d, ds⟩
    · rw [List.flatMap_cons, form] at forms
      cases forms
    obtain ⟨y, form', alike'⟩ := exists_caseless d
    rw [List.flatMap_cons, List.flatMap_cons, form, form'] at forms
    obtain ⟨rfl, rest⟩ : x = y ∧ cs.flatMap caseless = ds.flatMap caseless := List.cons.inj forms
    -- The words have letters in the same places, and so a sigma has the same form in both.
    have place : endsWord before' ds = endsWord before cs := by
      rw [endsWord, endsWord, starts, ← startsCased_caseless ds, ← rest, startsCased_caseless]
    have kind : Alike c d := ⟨alike'.cased.symm.trans alike.cased, alike'.ignorable.symm.trans alike.ignorable⟩
    obtain ⟨first, others⟩ := misplacedSigmas_cons length sigmas
    have here : lowerBetween before c cs = lowerBetween before' d ds := by
      rcases first with ⟨inPlace, inPlace'⟩ | ⟨misplaced, rfl⟩
      · have left := lowerBetween_caseless form rfl (eq_of_not_misplaced inPlace)
        have right := lowerBetween_caseless form' place.symm (eq_of_not_misplaced inPlace')
        exact left.symm.trans right
      · rw [lowerBetween_of_misplaced misplaced, lowerBetween_of_misplaced misplaced]
    rw [lowercaseAfter, lowercaseAfter, here, ih rest others (congrArg (· + 1) length) (kind.startsCased starts)]

theorem flatMap_caseless (h : ∀ c ∈ cs, Reversible c) : cs.flatMap caseless = uppercase cs := by
  induction cs with
  | nil => rfl
  | cons c cs ih =>
    obtain ⟨whole, others⟩ := List.forall_mem_cons.mp h
    rw [List.flatMap_cons, ih others, caseless, if_pos whole]
    rfl

/-! ### Words that have the lower case of their capitals -/

theorem uppercase_cons (c : Char) (cs : List Char) : uppercase (c :: cs) = upperMap.apply c ++ uppercase cs := rfl

theorem lowerBetween_dotted (before after : List Char) : lowerBetween before 'İ' after = lowerMap.apply 'İ' :=
  if_neg (by decide)

theorem length_lowerBetween (other : c ≠ 'İ') : (lowerBetween before c after).length = 1 := by
  unfold lowerBetween
  split
  · rfl
  · exact length_lower other

theorem length_lowerBetween_pos (before : List Char) (c : Char) (after : List Char) :
    0 < (lowerBetween before c after).length := by
  unfold lowerBetween
  split
  · exact Nat.one_pos
  · exact length_lower_pos c

theorem length_lowercaseAfter_append (before cs ds : List Char) :
    cs.length + (lowercaseAfter (cs.reverse ++ before) ds).length ≤ (lowercaseAfter before (cs ++ ds)).length := by
  induction cs generalizing before with
  | nil => simp
  | cons c cs ih =>
    have first := length_lowerBetween_pos before c (cs ++ ds)
    have rest := ih (c :: before)
    rw [List.reverse_cons, List.append_assoc, List.singleton_append, List.length_cons, List.cons_append, lowercaseAfter,
      List.length_append]
    omega

/-- The capitals are not shorter in lower case than the word, as `İ` alone is several characters there. -/
theorem length_lowercaseAfter_le (before before' cs : List Char) :
    (lowercaseAfter before cs).length ≤ (lowercaseAfter before' (uppercase cs)).length := by
  induction cs generalizing before before' with
  | nil => exact Nat.le_refl _
  | cons c cs ih =>
    rw [lowercaseAfter, uppercase_cons, List.length_append]
    by_cases dotted : c = 'İ'
    · rw [dotted, upper_dotted, List.singleton_append, lowercaseAfter, List.length_append, lowerBetween_dotted,
        lowerBetween_dotted]
      exact Nat.add_le_add_left (ih _ _) _
    · have capitals := List.length_pos_iff.mpr (upper_ne_nil c)
      have split := length_lowercaseAfter_append before' (upperMap.apply c) (uppercase cs)
      have rest := ih (c :: before) ((upperMap.apply c).reverse ++ before')
      rw [length_lowerBetween dotted]
      omega

theorem lower_of_reversible (h : Reversible c) (upper : upperMap.apply c = [d]) (other : d ≠ 'Σ') :
    lowerMap.apply c = lowerMap.apply d := by
  rcases h with rfl | same
  · exact absurd (List.singleton_inj.mp (upper.symm.trans upper_finalSigma)) other
  · rw [← same, upper, List.flatMap_singleton]

/-- A character that has the capital and the lower case of a reversible one is reversible. -/
theorem reversible_of_lowerBetween {e : Char} (whole : Reversible c) (upper : upperMap.apply c = [d])
    (upper' : upperMap.apply e = [d]) (same : lowerBetween before c after = lowerBetween before' e after') :
    Reversible e := by
  by_cases capital : d = 'Σ'
  · rw [capital] at upper'
    rcases sigma_of_upper upper' with rfl | rfl | rfl <;> decide +kernel
  · have other {x : Char} (h : upperMap.apply x = [d]) : x ≠ 'Σ' := by
      rintro rfl
      exact capital (List.singleton_inj.mp (h.symm.trans upper_capitalSigma))
    rw [lowerBetween, if_neg (other upper), lowerBetween, if_neg (other upper'),
      lower_of_reversible whole upper capital] at same
    exact .inr (by rw [upper', List.flatMap_singleton, same])

/-- A character of several capitals makes the capitals longer in lower case, as it is not `İ`. -/
theorem length_lowercaseAfter_lt (several : 1 < (upperMap.apply c).length) (before before' cs : List Char) :
    (lowercaseAfter before (c :: cs)).length < (lowercaseAfter before' (uppercase (c :: cs))).length := by
  have other : c ≠ 'İ' := by
    rintro rfl
    rw [upper_dotted] at several
    exact absurd several (Nat.lt_irrefl 1)
  have split := length_lowercaseAfter_append before' (upperMap.apply c) (uppercase cs)
  have rest := length_lowercaseAfter_le (c :: before) ((upperMap.apply c).reverse ++ before') cs
  rw [lowercaseAfter, uppercase_cons, List.length_append, length_lowerBetween other]
  omega

theorem length_lowerBetween_upper (upper : upperMap.apply c = [d]) :
    (lowerBetween before c after).length ≤ (lowerBetween before' d after').length := by
  by_cases dotted : c = 'İ'
  · rw [dotted, upper_dotted] at upper
    rw [dotted, ← List.singleton_inj.mp upper, lowerBetween_dotted, lowerBetween_dotted]
  · rw [length_lowerBetween dotted]
    exact length_lowerBetween_pos before' d after'

/-- The lower case of reversible characters is as long as that of their capitals. -/
theorem length_lowerBetween_of_reversible (h : Reversible c) (upper : upperMap.apply c = [d]) :
    (lowerBetween before c after).length = (lowerBetween before' d after').length := by
  by_cases dotted : c = 'İ'
  · rw [dotted, upper_dotted] at upper
    rw [dotted, ← List.singleton_inj.mp upper, lowerBetween_dotted, lowerBetween_dotted]
  · by_cases capital : d = 'Σ'
    · rw [length_lowerBetween dotted, capital, length_lowerBetween (by decide)]
    · have count := congrArg List.length (lower_of_reversible h upper capital)
      have other : d ≠ 'İ' := by
        rintro rfl
        rw [length_lower dotted] at count
        exact absurd count (by decide +kernel)
      rw [length_lowerBetween dotted, length_lowerBetween other]

theorem length_lowercaseAfter_of_reversible (h : ∀ c ∈ cs, Reversible c) (before before' : List Char) :
    (lowercaseAfter before cs).length = (lowercaseAfter before' (uppercase cs)).length := by
  induction cs generalizing before before' with
  | nil => rfl
  | cons c cs ih =>
    obtain ⟨whole, others⟩ := List.forall_mem_cons.mp h
    obtain ⟨d, upper⟩ := upper_of_reversible whole
    rw [lowercaseAfter, uppercase_cons, upper, List.singleton_append, lowercaseAfter, List.length_append,
      List.length_append, length_lowerBetween_of_reversible whole upper, ih others]

/-- A word with the capitals and the lower case of a word of reversible characters is made of such characters. -/
theorem reversible_of_lowercaseAfter (whole : ∀ c ∈ cs, Reversible c) (capitals : uppercase cs = uppercase ds)
    (same : lowercaseAfter before cs = lowercaseAfter before' ds) : ∀ d ∈ ds, Reversible d := by
  induction ds generalizing before before' cs with
  | nil => exact List.forall_mem_nil _
  | cons e ds ih =>
    have count := congrArg List.length same
    rw [length_lowercaseAfter_of_reversible whole before before', capitals] at count
    have nonempty := List.length_pos_iff.mpr (upper_ne_nil e)
    by_cases several : 1 < (upperMap.apply e).length
    · exact absurd count.symm (Nat.ne_of_lt (length_lowercaseAfter_lt several before' before' ds))
    obtain ⟨d, upper'⟩ := List.length_eq_one_iff.mp (by omega : (upperMap.apply e).length = 1)
    rw [uppercase_cons, upper'] at capitals
    rcases cs with _ | ⟨c, cs⟩
    · cases capitals
    obtain ⟨first, others⟩ := List.forall_mem_cons.mp whole
    obtain ⟨d', upper⟩ := upper_of_reversible first
    rw [uppercase_cons, upper] at capitals
    obtain ⟨rfl, capitals'⟩ : d' = d ∧ uppercase cs = uppercase ds := List.cons.inj capitals
    -- Neither part is longer in one word than in the other, and so both are of one length.
    have head_le : (lowerBetween before' e ds).length ≤ (lowerBetween before c cs).length := calc
      _ ≤ (lowerBetween before' d' ds).length := length_lowerBetween_upper upper'
      _ = _ := (length_lowerBetween_of_reversible first upper).symm
    have tail_le := length_lowercaseAfter_le (e :: before') before' ds
    rw [← capitals', ← length_lowercaseAfter_of_reversible others (c :: before)] at tail_le
    rw [lowercaseAfter, lowercaseAfter] at same
    have count := congrArg List.length same
    rw [List.length_append, List.length_append] at count
    obtain ⟨head, tail⟩ := List.append_inj same (by omega)
    exact List.forall_mem_cons.mpr ⟨reversible_of_lowerBetween first upper upper' head, ih others capitals' tail⟩

end Text

/-! ### Spellings -/

theorem Expr.eval_var_set_of_same {x y : Var} (h : x.key = y.key) (s : Store) (v : Value) :
    (var y).eval (s.set x.key v) = .ok v := by
  rw [eval_var, Store.get?_set, if_pos h]

theorem Expr.eval_var_set_of_other {x y : Var} (h : x.key ≠ y.key) (v : Value) :
    (var y).eval (Store.set ∅ x.key v) = .error (.unbound y.name) := by
  rw [eval_var, Store.get?_set, if_neg h, Store.get?_empty]

/-- Variables have one key exactly if what is assigned to one of them is read from the other, on every store. -/
theorem Var.key_eq_iff_read {x y : Var} : x.key = y.key ↔
    ∀ s t value, Stmt.exec (.assign x value) s = .ok () t → (Expr.var y).eval t = value.eval s := by
  constructor
  · intro same s t value assigned
    rcases given : value.eval s with error | v
    · rw [Stmt.exec_assign, given] at assigned
      cases assigned
    · rw [Stmt.exec_assign, given] at assigned
      cases assigned
      exact Expr.eval_var_set_of_same same s v
  · intro read
    have given := read ∅ (Store.set ∅ x.key (.int 0)) (.literal (.int 0)) rfl
    by_contra other
    rw [Expr.eval_var_set_of_other other] at given
    cases given

section
variable {a b : String}

/-- Spellings that count as the same without their case have one key, if the same sigmas are misplaced in them. Of those
that only have the same capitals, one of reversible characters has the key of the other exactly if that one is made of
such characters too. And all spellings with one key, and no others, are one variable on every store. -/
theorem spellings_of_same_capitals (a b : String) :
    (misplacedSigmas [] a.toList = misplacedSigmas [] b.toList →
      (a.toList.flatMap caseless = b.toList.flatMap caseless → keyOf a = keyOf b) ∧
        (uppercase a.toList = uppercase b.toList → (∀ c ∈ a.toList, Reversible c) →
          (keyOf a = keyOf b ↔ ∀ c ∈ b.toList, Reversible c))) ∧
      (keyOf a = keyOf b ↔
        ∀ s t value, Stmt.exec (.assign ⟨a⟩ value) s = .ok () t → (Expr.var ⟨b⟩).eval t = value.eval s) := by
  refine ⟨fun sigmas => ?_, Var.key_eq_iff_read⟩
  have one (same : a.toList.flatMap caseless = b.toList.flatMap caseless) : keyOf a = keyOf b :=
    keyOf_inj.mpr (lowercaseAfter_of_caseless same sigmas rfl rfl)
  refine ⟨one, fun same whole => ⟨fun key => ?_, fun others => one ?_⟩⟩
  · exact reversible_of_lowercaseAfter whole same (keyOf_inj.mp key)
  · rw [flatMap_caseless whole, flatMap_caseless others, same]

/-- A name of many sigmas has one key in small letters and in capitals, and so it has with one of them misplaced in both
spellings. -/
theorem spellings_of_same_capitals_of_sigmas :
    (misplacedSigmas [] "ΣΊΣΥΦΟΣ_1".toList = [] ∧ misplacedSigmas [] "Σίσυφος_1".toList = [] ∧
      uppercase "ΣΊΣΥΦΟΣ_1".toList = uppercase "Σίσυφος_1".toList ∧ (∀ c ∈ "ΣΊΣΥΦΟΣ_1".toList, Reversible c) ∧
      (∀ c ∈ "Σίσυφος_1".toList, Reversible c) ∧ keyOf "ΣΊΣΥΦΟΣ_1" = keyOf "Σίσυφος_1") ∧
      misplacedSigmas [] "ΣΊΣΥΦΟσ".toList = [(6, 'σ')] ∧ misplacedSigmas [] "Σίσυφοσ".toList = [(6, 'σ')] ∧
      "ΣΊΣΥΦΟσ".toList.flatMap caseless = "Σίσυφοσ".toList.flatMap caseless ∧ keyOf "ΣΊΣΥΦΟσ" = keyOf "Σίσυφοσ" := by
  have sigmas : misplacedSigmas [] "ΣΊΣΥΦΟΣ_1".toList = [] := by decide +kernel
  have sigmas' : misplacedSigmas [] "Σίσυφος_1".toList = [] := by decide +kernel
  have same : uppercase "ΣΊΣΥΦΟΣ_1".toList = uppercase "Σίσυφος_1".toList := by decide +kernel
  have whole : ∀ c ∈ "ΣΊΣΥΦΟΣ_1".toList, Reversible c := List.all_iff_forall_prop.mp (by decide +kernel)
  have whole' : ∀ c ∈ "Σίσυφος_1".toList, Reversible c := List.all_iff_forall_prop.mp (by decide +kernel)
  have last : misplacedSigmas [] "ΣΊΣΥΦΟσ".toList = [(6, 'σ')] := by decide +kernel
  have last' : misplacedSigmas [] "Σίσυφοσ".toList = [(6, 'σ')] := by decide +kernel
  have forms : "ΣΊΣΥΦΟσ".toList.flatMap caseless = "Σίσυφοσ".toList.flatMap caseless := by decide +kernel
  have inPlace := (spellings_of_same_capitals "ΣΊΣΥΦΟΣ_1" "Σίσυφος_1").1 (sigmas.trans sigmas'.symm)
  have misplaced := (spellings_of_same_capitals "ΣΊΣΥΦΟσ" "Σίσυφοσ").1 (last.trans last'.symm)
  have one := (inPlace.2 same whole).mpr whole'
  exact ⟨⟨sigmas, sigmas', same, whole, whole', one⟩, last, last', forms, misplaced.1 forms⟩

/-- It is not enough that identifiers have the same upper case. -/
theorem not_one_key_for_same_capitals :
    ¬∀ a b : String, TokenStream.ofText a = ⟨[.identifier a], none⟩ → TokenStream.ofText b = ⟨[.identifier b], none⟩ →
      uppercase a.toList = uppercase b.toList → keyOf a = keyOf b := by
  intro all
  have same := all "straße" "STRASSE" (by decide +kernel) (by decide +kernel) (by decide +kernel)
  exact absurd same (by decide +kernel)

end
end MiniPascal
