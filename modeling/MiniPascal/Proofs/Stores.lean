import Mathlib.Data.List.Dedup
import Mathlib.Data.String.Basic
import MiniPascal.Store
import Std.Data.HashMap.Lemmas

/-! # How stores come about

A store is built from named values, whose names are folded to keys, and after that it is set key by key, where each
key is taken as it is spelled. Of all the values that were given to a key the last one counts, and nothing else that
happened leaves a trace: the listing of a store is the only list of its bindings in the order of their keys, from
whatever table they are collected. -/

namespace MiniPascal

namespace Store

/-- The code points of a key. -/
def codes (key : String) : List Nat :=
  key.toList.map Char.toNat

/-- Binding after binding, where the key of each is what `fold` makes of a name. -/
def bindAll (fold : String → String) (s : Store) (pairs : List (String × Value)) : Store :=
  pairs.foldl (fun s (name, v) => s.set (fold name) v) s

/-- The value of the last pair whose name folds to the key. -/
def last? (fold : String → String) (pairs : List (String × Value)) (key : String) : Option Value :=
  (pairs.reverse.find? fun (name, _) => fold name == key).map Prod.snd

/-- The named values that a store is built from, and the keys that are set after that. -/
structure History where
  named : List (String × Value)
  sets : List (String × Value)

/-- The store that a history leaves. -/
def History.store (h : History) : Store :=
  h.sets.foldl (fun s (key, v) => s.set key v) (ofNames h.named)

/-- The keys that a history binds, each as often as a value is given to it. -/
def History.keys (h : History) : List String :=
  h.named.map (fun (name, _) => keyOf name) ++ h.sets.map Prod.fst

/-! ### Values -/

section Values
variable {fold : String → String} {pairs : List (String × Value)} {key : String}

theorem last?_cons (p : String × Value) :
    last? fold (p :: pairs) key = (last? fold pairs key).or (if fold p.1 = key then some p.2 else none) := by
  unfold last?
  rw [List.reverse_cons, List.find?_append, Option.map_or]
  by_cases same : fold p.1 = key <;> simp [same]

theorem bindAll_cons (s : Store) (p : String × Value) :
    bindAll fold s (p :: pairs) = bindAll fold (s.set (fold p.1) p.2) pairs := rfl

theorem get?_bindAll (s : Store) : (bindAll fold s pairs).get? key = (last? fold pairs key).or (s.get? key) := by
  induction pairs generalizing s with
  | nil => rfl
  | cons p pairs ih =>
    rw [bindAll_cons, ih, get?_set, last?_cons, Option.or_assoc]
    by_cases same : fold p.1 = key
    · rw [if_pos same, if_pos same, Option.some_or]
    · rw [if_neg same, if_neg same, Option.none_or]

theorem isSome_last? : (last? fold pairs key).isSome = true ↔ key ∈ pairs.map fun (name, _) => fold name := by
  simp [last?]

theorem exists_of_last? {v : Value} (h : last? fold pairs key = some v) :
    ∃ name, (name, v) ∈ pairs ∧ fold name = key := by
  obtain ⟨⟨name, _⟩, found, rfl⟩ := Option.map_eq_some_iff.mp h
  exact ⟨name, List.mem_reverse.mp (List.mem_of_find?_eq_some found), by simpa using List.find?_some found⟩

/-- Where no two names fold to one key, the last value for a key is the only one. -/
theorem last?_eq_some_iff {v : Value} (distinct : (pairs.map fun (name, _) => fold name).Nodup) :
    last? fold pairs key = some v ↔ ∃ name, (name, v) ∈ pairs ∧ fold name = key := by
  refine ⟨exists_of_last?, ?_⟩
  rintro ⟨name, mem, rfl⟩
  obtain ⟨w, last⟩ := Option.isSome_iff_exists.mp (isSome_last?.mpr (List.mem_map_of_mem mem))
  obtain ⟨name', mem', same⟩ := exists_of_last? last
  cases List.inj_on_of_nodup_map distinct mem mem' same.symm
  exact last

theorem History.get?_store (h : History) (key : String) :
    h.store.get? key = (last? id h.sets key).or (last? keyOf h.named key) := by
  have named : (ofNames h.named).get? key = last? keyOf h.named key := by
    have built : (bindAll keyOf ∅ h.named).get? key = _ := get?_bindAll ∅
    rwa [get?_empty, Option.or_none] at built
  have set_ : (bindAll id (ofNames h.named) h.sets).get? key = _ := get?_bindAll _
  rwa [named] at set_

theorem History.mem_keys {h : History} : key ∈ h.keys ↔ (h.store.get? key).isSome = true := by
  rw [h.get?_store, Option.isSome_or, Bool.or_eq_true, isSome_last?, isSome_last?, keys, List.mem_append, or_comm]
  rfl

end Values

/-! ### Listings -/

section Listings
variable {s : Store}

theorem map_toNat_lt_map_toNat {cs ds : List Char} : cs.map Char.toNat < ds.map Char.toNat ↔ cs < ds := by
  induction cs generalizing ds with
  | nil => cases ds <;> simp
  | cons c cs ih =>
    cases ds with
    | nil => simp
    | cons d ds =>
      rw [List.map_cons, List.map_cons, List.cons_lt_cons_iff, List.cons_lt_cons_iff, ih, Char.toNat_inj]
      rfl

/-- Keys are ordered as the lists of their code points are. -/
theorem compare_eq_lt_iff {a b : String} : compare a b = .lt ↔ codes a < codes b := by
  rw [compare_lt_iff_lt, String.lt_iff_toList_lt, codes, codes, map_toNat_lt_map_toNat]

/-- The keys of these bindings ascend. -/
def Ascends (bindings : List (String × Value)) : Prop :=
  bindings.Pairwise fun a b => codes a.1 < codes b.1

instance (bindings : List (String × Value)) : Decidable (Ascends bindings) :=
  inferInstanceAs (Decidable (List.Pairwise _ _))

theorem ascends_toList (s : Store) : Ascends s.toList :=
  s.toList_ascending.imp compare_eq_lt_iff.mp

theorem Ascends.nodup_keys {bindings : List (String × Value)} (h : Ascends bindings) :
    (bindings.map Prod.fst).Nodup := by
  refine List.pairwise_map.mpr (h.imp fun {a b} less same => ?_)
  rw [same] at less
  exact lt_irrefl _ less

/-- Ascending bindings are determined by what they bind. -/
theorem Ascends.eq_toList {bindings : List (String × Value)} (h : Ascends bindings)
    (binds : ∀ key v, (key, v) ∈ bindings ↔ s.get? key = some v) : bindings = s.toList := by
  have perm : bindings.Perm s.toList := by
    refine (List.perm_ext_iff_of_nodup (.of_map _ h.nodup_keys) (.of_map _ s.ascends_toList.nodup_keys)).mpr ?_
    exact fun ⟨key, v⟩ => (binds key v).trans mem_toList_iff.symm
  refine perm.eq_of_pairwise (fun a b _ _ less less' => ?_) h s.ascends_toList
  exact absurd less' (lt_asymm less)

/-- Whatever table holds the bindings of a store, collecting and sorting them gives the listing. -/
theorem sortByKey_toList {table : Std.HashMap String Value} (holds : ∀ key, table[key]? = s.get? key) :
    sortByKey table.toList = s.toList := by
  have ascending := sortByKey_ascending (Std.HashMap.distinct_keys_toList (m := table))
  refine Ascends.eq_toList (ascending.imp compare_eq_lt_iff.mp) fun key v => ?_
  rw [(sortByKey_perm _).mem_iff, Std.HashMap.mem_toList_iff_getElem?_eq_some, holds]

/-- Ascending bindings are the listing of the store that they make. -/
theorem toList_bindAll {bindings : List (String × Value)} (ascends : Ascends bindings) :
    (bindAll id ∅ bindings).toList = bindings := by
  refine (ascends.eq_toList fun key v => ?_).symm
  rw [get?_bindAll, get?_empty, Option.or_none, last?_eq_some_iff ascends.nodup_keys]
  simp

theorem mem_keys_toList {key : String} : key ∈ s.toList.map Prod.fst ↔ (s.get? key).isSome = true := by
  rw [Option.isSome_iff_exists, List.mem_map]
  constructor
  · rintro ⟨⟨_, v⟩, mem, rfl⟩
    exact ⟨v, mem_toList_iff.mp mem⟩
  · rintro ⟨v, found⟩
    exact ⟨(key, v), mem_toList_iff.mpr found, rfl⟩

theorem History.size_store (h : History) : h.store.size = h.keys.dedup.length := by
  have perm : (h.store.toList.map Prod.fst).Perm h.keys.dedup := by
    refine (List.perm_ext_iff_of_nodup h.store.ascends_toList.nodup_keys h.keys.nodup_dedup).mpr fun key => ?_
    rw [List.mem_dedup, mem_keys_toList, mem_keys]
  rw [size_eq_length, ← perm.length_eq, List.length_map]

end Listings

/-- The last value that was set for a key counts, or else the last one of a name that folds to it, and there are as many
bindings as different keys were given values. The listing shows each key once, with its value, in the order of code
points, and it is what collecting the bindings from any table that holds them and sorting them gives. Stores in which
the same is found have the same listing and the same text. -/
theorem last_value_counts (h : History) :
    (∀ key, h.store.get? key = (last? id h.sets key).or (last? keyOf h.named key)) ∧
      h.store.size = h.keys.dedup.length ∧
      (∀ key v, (key, v) ∈ h.store.toList ↔ h.store.get? key = some v) ∧
      (∀ key ∈ h.keys, (h.store.toList.map Prod.fst).count key = 1) ∧
      Ascends h.store.toList ∧
      (∀ table : Std.HashMap String Value, (∀ key, table[key]? = h.store.get? key) →
        sortByKey table.toList = h.store.toList) ∧
      ∀ other : History, (∀ key, h.store.get? key = other.store.get? key) →
        h.store.toList = other.store.toList ∧ h.store.text = other.store.text := by
  refine ⟨h.get?_store, h.size_store, fun _ _ => mem_toList_iff, fun key mem => ?_, ascends_toList _,
    fun _ => sortByKey_toList, fun other same => ?_⟩
  · exact List.count_eq_one_of_mem (ascends_toList _).nodup_keys (mem_keys_toList.mpr (History.mem_keys.mp mem))
  · have listings : h.store.toList = other.store.toList :=
      (ascends_toList _).eq_toList fun key v => by rw [mem_toList_iff, same]
    exact ⟨listings, by rw [text, listings, text]⟩

theorem last_value_counts_of_folded_names :
    let h : History := ⟨[("A", .int 1), ("b", .int 4), ("a", .int 2)], [("A", .int 3)]⟩
    let other : History := ⟨[], [("a", .int 0), ("A", .int 3), ("b", .int 4), ("a", .int 2)]⟩
    h.store.get? "a" = some (.int 2) ∧ h.store.get? "A" = some (.int 3) ∧ h.store.size = 3 ∧
      h.store.toList = other.store.toList ∧ h.store.text = other.store.text ∧ h.store.text = "A = 3\na = 2\nb = 4" := by
  intro h other
  have upper : keyOf "A" = "a" := by decide +kernel
  have lower : keyOf "a" = "a" := by decide +kernel
  have last : keyOf "b" = "b" := by decide +kernel
  let s := bindAll id ∅ [("A", .int 3), ("a", .int 2), ("b", .int 4)]
  have first : h.store = s := by
    refine ext fun key => ?_
    simp only [h, s, History.store, ofNames, bindAll, List.foldl, upper, lower, last, id, get?_set, get?_empty]
    grind
  have second : other.store = s := by
    refine ext fun key => ?_
    simp only [other, s, History.store, ofNames, bindAll, List.foldl, id, get?_set, get?_empty]
    grind
  have text : h.store.text = "A = 3\na = 2\nb = 4" := by
    rw [Store.text, first, toList_bindAll (by decide)]
    decide +kernel
  obtain ⟨found, size, -, -, -, -, listings⟩ := last_value_counts h
  have same := listings other fun key => by rw [first, second]
  exact ⟨found "a", found "A", size, same.1, same.2, text⟩

end Store
end MiniPascal
