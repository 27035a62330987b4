import MiniPascal.Proofs.Bindings
import MiniPascal.Proofs.Folding.CaseMaps
import MiniPascal.Proofs.Stores

/-! # Checkpoints

The listing of a store is enough to go on with a session. Folding the keys of the listing again changes none of them,
since every key that a session binds is the lower case of a name, so the store that is built from the listing is the one
that was listed. -/

namespace MiniPascal

/-- A key is its own key. -/
theorem keyOf_keyOf (name : String) : keyOf (keyOf name) = keyOf name := by
  rw [keyOf, keyOf, String.toList_ofList, Text.lowercase_lowercase]

namespace Store
variable {s : Store}

theorem get?_ofNames (named : List (String × Value)) (key : String) :
    (ofNames named).get? key = last? keyOf named key :=
  (History.mk named []).get?_store key

/-- Where folding changes no key, the last value for a key is the one it is bound to. -/
theorem last?_toList (folded : ∀ b ∈ s.toList, keyOf b.1 = b.1) (key : String) :
    last? keyOf s.toList key = s.get? key := by
  have keys : (s.toList.map fun b => keyOf b.1) = s.toList.map Prod.fst := List.map_congr_left folded
  have distinct : (s.toList.map fun b => keyOf b.1).Nodup := keys ▸ s.ascends_toList.nodup_keys
  refine Option.ext fun v => ?_
  rw [last?_eq_some_iff distinct, ← mem_toList_iff]
  constructor
  · rintro ⟨name, mem, rfl⟩
    exact (folded _ mem).symm ▸ mem
  · exact fun mem => ⟨key, mem, folded _ mem⟩

theorem ofNames_toList (folded : ∀ b ∈ s.toList, keyOf b.1 = b.1) : ofNames s.toList = s :=
  ext fun key => (get?_ofNames _ _).trans (last?_toList folded key)

end Store

namespace Session
variable {mode : Mode} {texts : List String}

theorem store_folded : ∀ b ∈ ((start mode).afterAll texts).store.toList, keyOf b.1 = b.1 := by
  rintro ⟨key, v⟩ mem
  obtain ⟨_, _, _, _, name, -, -, -, same⟩ := store_binds (Store.mem_toList_iff.mp mem)
  rw [same, keyOf_keyOf]

theorem run_program (s : Store) (text : String) :
    (⟨.programs, s⟩ : Session).run text =
      match Program.parse text >>= (·.evaluate s) with
      | .ok t => (.ok t.text, ⟨.programs, t⟩)
      | .error e => (.error e, ⟨.programs, s⟩) := by
  have ran := Mode.runProgram_eq text s
  rcases parsed : Program.parse text with e | p
  · have failed : Mode.run .programs text s = .error e s := ran.trans (by rw [parsed])
    rw [run, failed]
    rfl
  · have executed : Mode.run .programs text s = Mode.commit p.evaluate s := ran.trans (by rw [parsed])
    have evaluated : (Except.ok p >>= (·.evaluate s) : Except Error Store) = p.evaluate s := rfl
    rw [run, executed, Mode.commit_eq, evaluated]
    cases p.evaluate s <;> rfl

/-- The store that a session reaches is the one that is built from its listing. So evaluating a program on the store
that is built does what running the program in a session with the store does. -/
theorem store_rebuilt (mode : Mode) (texts : List String) :
    let s := ((start mode).afterAll texts).store
    let rebuilt := Store.ofNames s.toList
    rebuilt.toList = s.toList ∧ rebuilt = s ∧
      ∀ text, (⟨.programs, s⟩ : Session).run text =
        match Program.parse text >>= (·.evaluate rebuilt) with
        | .ok t => (.ok t.text, ⟨.programs, t⟩)
        | .error e => (.error e, ⟨.programs, s⟩) := by
  intro s rebuilt
  have same : rebuilt = s := Store.ofNames_toList store_folded
  refine ⟨by rw [same], same, fun text => ?_⟩
  rw [same]
  exact run_program s text

end Session
end MiniPascal
