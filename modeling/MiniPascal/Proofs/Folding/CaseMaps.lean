import Mathlib.Data.String.Basic
import MiniPascal.Text.Lowercase

/-! # Case maps read backwards

A case map is a table, so the few code points that it sends to a given one can be listed, and so can the places where
it would send a code point on that it has sent another one to. The map of lower case has no such place: what is in
lower case stays as it is, the sigma at the end of a word included. -/

namespace MiniPascal.Text

/-! ### Runs -/

namespace CaseRun
variable {r q : CaseRun} {n t : Nat}

theorem covers_iff : r.covers n = true ↔ r.first ≤ n ∧ n ≤ r.last ∧ (n - r.first) % r.step = 0 := by
  simp [covers, and_assoc]

/-- The code point of the run that is sent to `t`, if there is one. -/
def source? (r : CaseRun) (t : Nat) : Option Nat :=
  let n := (t - r.offset).toNat
  if r.covers n then some n else none

/-- The code points that those of the run are sent to. -/
def image (r : CaseRun) : CaseRun := ⟨(r.first + r.offset).toNat, (r.last + r.offset).toNat, r.step, 0⟩

/-- Whether two runs have no code point in common: one ends before the other begins, or one goes by steps of two and
the other falls between them. -/
def apart (r q : CaseRun) : Bool :=
  Nat.blt r.last q.first || Nat.blt q.last r.first ||
    (q.step == 2 && (r.step == 2 || r.first == r.last) && (r.first + q.first) % 2 == 1)

theorem source?_of_covers (h : r.covers n = true) (sent : t = n + r.offset) : r.source? t = some n := by
  have back : (t - r.offset).toNat = n := by omega
  rw [source?, back]
  exact if_pos h

theorem image_covers (h : r.covers n = true) (sent : 0 ≤ r.first + r.offset) :
    r.image.covers (n + r.offset).toNat = true := by
  obtain ⟨low, high, even⟩ := covers_iff.mp h
  have distance : (n + r.offset).toNat - (r.first + r.offset).toNat = n - r.first := by omega
  refine covers_iff.mpr ⟨?_, ?_, ?_⟩ <;> simp only [image]
  · omega
  · omega
  · rw [distance, even]

theorem covers_of_apart (away : r.apart q = true) (h : r.covers n = true) : q.covers n = false := by
  rw [Bool.eq_false_iff]
  intro inside
  obtain ⟨low, high, even⟩ := covers_iff.mp h
  obtain ⟨low', high', even'⟩ := covers_iff.mp inside
  simp only [apart, Bool.or_eq_true, Bool.and_eq_true, Nat.blt_eq, beq_iff_eq] at away
  rcases away with (before | behind) | ⟨⟨two, steps⟩, odd⟩
  · omega
  · omega
  · rw [two] at even'
    rcases steps with two' | single
    · rw [two'] at even
      omega
    · omega

end CaseRun

/-! ### Maps -/

namespace CaseMap
variable {m : CaseMap} {n t : Nat}

theorem images_cases (m : CaseMap) (n : Nat) :
    (n, m.images n) ∈ m.expansions ∨ (∃ r ∈ m.runs, r.covers n = true ∧ m.images n = [(n + r.offset).toNat]) ∨
      m.images n = [n] := by
  rcases expanded : m.expansions.lookup n with _ | ns
  · rcases covered : m.runs.find? (·.covers n) with _ | r
    · have image : m.images n = [n] := by rw [images, expanded, covered]
      exact .inr (.inr image)
    · have image : m.images n = [(n + r.offset).toNat] := by rw [images, expanded, covered]
      exact .inr (.inl ⟨r, List.mem_of_find?_eq_some covered, by simpa using List.find?_some covered, image⟩)
  · have image : m.images n = ns := by rw [images, expanded]
    obtain ⟨before, after, split, -⟩ := List.lookup_eq_some_iff.mp expanded
    rw [image, split]
    exact .inl (List.mem_append_right _ List.mem_cons_self)

theorem images_of_absent (expansions : ∀ e ∈ m.expansions, e.1 ≠ t) (runs : ∀ r ∈ m.runs, r.covers t = false) :
    m.images t = [t] := by
  have expanded : m.expansions.lookup t = none := List.lookup_eq_none_iff.mpr fun e mem => by
    simpa using (expansions e mem).symm
  have covered : m.runs.find? (·.covers t) = none := List.find?_eq_none.mpr fun r mem => by simp [runs r mem]
  rw [images, expanded, covered]

/-- The code points that the map may send to `t`: itself, those that expand to it among others, and those of runs. -/
def sources (m : CaseMap) (t : Nat) : List Nat :=
  t :: (m.expansions.filter fun (_, ns) => ns.contains t).map Prod.fst ++ m.runs.filterMap (·.source? t)

theorem mem_sources (h : t ∈ m.images n) (pos : 0 < t) : n ∈ m.sources t := by
  rcases m.images_cases n with expanded | ⟨r, mem, covered, image⟩ | itself
  · have listed : (n, m.images n) ∈ m.expansions.filter fun (_, ns) => ns.contains t :=
      List.mem_filter.mpr ⟨expanded, List.contains_iff_mem.mpr h⟩
    exact List.mem_append_left _ (List.mem_cons_of_mem _ (List.mem_map.mpr ⟨_, listed, rfl⟩))
  · rw [image, List.mem_singleton] at h
    exact List.mem_append_right _ (List.mem_filterMap.mpr ⟨r, mem, CaseRun.source?_of_covers covered (by omega)⟩)
  · rw [itself, List.mem_singleton] at h
    rw [h]
    exact List.mem_append_left _ List.mem_cons_self

/-- Whether the map leaves what it sends others to as it is. -/
def settles (m : CaseMap) : Bool :=
  (m.expansions.all fun (_, ns) => ns.all fun t => m.images t == [t]) &&
    m.runs.all fun r =>
      decide (0 ≤ r.first + r.offset) && (m.expansions.all fun (n, _) => !r.image.covers n) && m.runs.all r.image.apart

theorem images_of_settles (settled : m.settles = true) (h : t ∈ m.images n) : m.images t = [t] := by
  simp only [settles, Bool.and_eq_true, List.all_eq_true, decide_eq_true_eq, beq_iff_eq, Bool.not_eq_true'] at settled
  rcases m.images_cases n with expanded | ⟨r, mem, covered, image⟩ | itself
  · exact settled.1 _ expanded t h
  · obtain ⟨⟨sent, other⟩, away⟩ := settled.2 r mem
    rw [image, List.mem_singleton] at h
    have covers := CaseRun.image_covers covered sent
    rw [← h] at covers
    refine images_of_absent (fun e mem' same => ?_) fun q mem' => CaseRun.covers_of_apart (away q mem') covers
    rw [← same, other e mem'] at covers
    exact absurd covers (by decide)
  · rw [itself, List.mem_singleton] at h
    rw [h, itself]

/-! ### Characters -/

variable {c d : Char} {cs ds : List Char}

theorem ofNat_eq_zero_or_toNat (t : Nat) : Char.ofNat t = '\x00' ∨ (Char.ofNat t).toNat = t := by
  by_cases valid : t.isValidChar
  · have code : Char.ofNat t = Char.ofNatAux t valid := dif_pos valid
    exact .inr (congrArg Char.toNat code)
  · exact .inl (dif_neg valid)

theorem mem_sources_of_mem_apply (h : d ∈ m.apply c) (nonzero : d ≠ '\x00') : c.toNat ∈ m.sources d.toNat := by
  obtain ⟨t, mem, rfl⟩ := List.mem_map.mp h
  have code := (ofNat_eq_zero_or_toNat t).resolve_left nonzero
  rw [code]
  refine mem_sources mem (Nat.pos_of_ne_zero ?_)
  rintro rfl
  exact nonzero rfl

/-- A character that no other one is sent to comes from itself. -/
theorem eq_of_mem_apply (own : m.sources d.toNat = [d.toNat]) (nonzero : d ≠ '\x00') (h : d ∈ m.apply c) : c = d := by
  have source := mem_sources_of_mem_apply h nonzero
  rw [own, List.mem_singleton] at source
  exact Char.toNat_inj.mp source

/-- Whether only characters `cs` are sent to nothing but characters `ds`. -/
def draws (m : CaseMap) (cs ds : List Char) : Bool :=
  (m.expansions.all fun (_, ns) => ns != []) && ds.all fun d =>
    d != '\x00' && (m.sources d.toNat).all fun n =>
      cs.contains (Char.ofNat n) || (m.apply (Char.ofNat n)).any fun e => !ds.contains e

theorem apply_ne_nil (expansions : ∀ e ∈ m.expansions, e.2 ≠ []) (c : Char) : m.apply c ≠ [] := by
  have images : m.images c.toNat ≠ [] := by
    rcases m.images_cases c.toNat with expanded | ⟨_, -, -, image⟩ | itself
    · exact expansions _ expanded
    · exact image ▸ List.cons_ne_nil _ _
    · exact itself ▸ List.cons_ne_nil _ _
  simpa [apply] using images

theorem mem_of_draws (drawn : m.draws cs ds = true) (h : ∀ d ∈ m.apply c, d ∈ ds) : c ∈ cs := by
  simp only [draws, Bool.and_eq_true, List.all_eq_true, bne_iff_ne, Bool.or_eq_true, List.any_eq_true,
    Bool.not_eq_true', List.contains_eq_mem, decide_eq_true_eq, decide_eq_false_iff_not] at drawn
  obtain ⟨d, mem⟩ := List.exists_mem_of_ne_nil _ (apply_ne_nil drawn.1 c)
  obtain ⟨nonzero, sources⟩ := drawn.2 d (h d mem)
  have source := sources _ (mem_sources_of_mem_apply mem nonzero)
  rw [Char.ofNat_toNat] at source
  rcases source with among | ⟨e, mem, other⟩
  · exact among
  · exact absurd (h e mem) other

end CaseMap

/-! ### Lower case -/

variable {c d : Char} {before after cs ds : List Char}

theorem lowerMap_settles : lowerMap.settles = true := by decide +kernel

/-- Lower case leaves the character as it is, wherever it stands. -/
def IsLower (c : Char) : Prop := c ≠ 'Σ' ∧ lowerMap.apply c = [c]

instance (c : Char) : Decidable (IsLower c) := inferInstanceAs (Decidable (_ ∧ _))

theorem isLower_of_mem_apply (h : d ∈ lowerMap.apply c) : IsLower d := by
  constructor
  · rintro rfl
    obtain rfl : c = 'Σ' := CaseMap.eq_of_mem_apply (by decide +kernel) (by decide) h
    exact absurd h (by decide +kernel)
  · obtain ⟨t, mem, rfl⟩ := List.mem_map.mp h
    rcases CaseMap.ofNat_eq_zero_or_toNat t with zero | code
    · rw [zero]
      decide +kernel
    · rw [CaseMap.apply, code, CaseMap.images_of_settles lowerMap_settles mem, List.map_singleton]

theorem isLower_of_mem_lowerBetween (h : d ∈ lowerBetween before c after) : IsLower d := by
  unfold lowerBetween at h
  split at h
  · rw [List.mem_singleton] at h
    rw [h]
    split <;> decide +kernel
  · exact isLower_of_mem_apply h

/-- Where the characters of a lower case come from: each from one character and its neighbours. -/
theorem mem_lowercaseAfter :
    d ∈ lowercaseAfter before cs ↔
      ∃ init c after, cs = init ++ c :: after ∧ d ∈ lowerBetween (init.reverse ++ before) c after := by
  induction cs generalizing before with
  | nil =>
    rw [lowercaseAfter]
    simp
  | cons c cs ih =>
    rw [lowercaseAfter, List.mem_append, ih]
    constructor
    · rintro (first | ⟨init, c', after, rfl, mem⟩)
      · exact ⟨[], c, cs, rfl, first⟩
      · exact ⟨c :: init, c', after, rfl, by simpa using mem⟩
    · rintro ⟨_ | ⟨c', init⟩, e, after, split, mem⟩
      · cases split
        exact .inl mem
      · cases split
        exact .inr ⟨init, e, after, rfl, by simpa using mem⟩

theorem isLower_of_mem_lowercase (h : d ∈ lowercase cs) : IsLower d := by
  obtain ⟨_, _, _, -, mem⟩ := mem_lowercaseAfter.mp h
  exact isLower_of_mem_lowerBetween mem

theorem lowercaseAfter_of_isLower (h : ∀ c ∈ cs, IsLower c) : lowercaseAfter before cs = cs := by
  induction cs generalizing before with
  | nil => rfl
  | cons c cs ih =>
    obtain ⟨⟨other, same⟩, others⟩ := List.forall_mem_cons.mp h
    rw [lowercaseAfter, ih others, lowerBetween, if_neg other, same, List.singleton_append]

/-- What is in lower case is its own lower case. -/
theorem lowercase_lowercase (cs : List Char) : lowercase (lowercase cs) = lowercase cs :=
  lowercaseAfter_of_isLower fun _ => isLower_of_mem_lowercase

/-- A character that no other one is sent to stands in the lower case only if it stands in the text. -/
theorem mem_of_mem_lowercase (own : lowerMap.sources d.toNat = [d.toNat]) (nonzero : d ≠ '\x00') (other : d ≠ 'ς')
    (h : d ∈ lowercase cs) : d ∈ cs := by
  obtain ⟨init, c, after, rfl, mem⟩ := mem_lowercaseAfter.mp h
  unfold lowerBetween at mem
  split at mem
  · next sigma =>
    rw [List.mem_singleton] at mem
    split at mem
    · exact absurd mem other
    · rw [mem] at own
      exact absurd own (by decide +kernel)
  · rw [CaseMap.eq_of_mem_apply own nonzero mem]
    simp

end MiniPascal.Text
