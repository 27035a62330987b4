import MiniPascal.Tree.Basic
import Std.Data.DHashMap.Lemmas
import Std.Data.ExtHashMap

/-! # Stores

A store binds keys to values. It keeps one value for each key, the one that was set last, in a table that
has no order. To list the bindings, they are collected from the table and sorted by their keys, by code
points. No two of them have one key, so the listing is the same in whatever order they are collected. Two
stores with the same bindings are equal, in whatever order they were made. -/

namespace MiniPascal

/-- The variables of a run and their values. -/
structure Store where
  bindings : Std.ExtHashMap String Value

namespace Store

/-- The store without bindings. -/
def empty : Store := ⟨∅⟩

instance : EmptyCollection Store := ⟨empty⟩

instance : Inhabited Store := ⟨∅⟩

/-- The value that a key is bound to. -/
def get? (s : Store) (key : String) : Option Value :=
  s.bindings[key]?

/-- Binds a key, as it is spelled, to a value. -/
def set (s : Store) (key : String) (v : Value) : Store :=
  ⟨s.bindings.insert key v⟩

/-- The number of bindings. -/
def size (s : Store) : Nat :=
  s.bindings.size

/-- Whether nothing is bound. -/
def isEmpty (s : Store) : Bool :=
  s.bindings.isEmpty

/-- Sorts bindings by their keys. -/
def sortByKey (bindings : List (String × Value)) : List (String × Value) :=
  bindings.mergeSort fun a b => (compare a.1 b.1).isLE

theorem sortByKey_perm (bindings : List (String × Value)) : (sortByKey bindings).Perm bindings :=
  List.mergeSort_perm _ _

theorem sortByKey_ascending {bindings : List (String × Value)}
    (distinct : bindings.Pairwise fun a b => (a.1 == b.1) = false) :
    (sortByKey bindings).Pairwise fun a b => compare a.1 b.1 = .lt := by
  have sorted : (sortByKey bindings).Pairwise fun a b => (compare a.1 b.1).isLE = true := by
    refine List.pairwise_mergeSort (fun _ _ _ => Std.TransCmp.isLE_trans) (fun a b => ?_) _
    have back : compare b.1 a.1 = (compare a.1 b.1).swap := Std.OrientedCmp.eq_swap
    rw [back]
    cases compare a.1 b.1 <;> rfl
  have apart := distinct.perm (sortByKey_perm bindings).symm BEq.symm_false
  refine (sorted.and apart).imp fun {a b} ⟨le, ne⟩ => ?_
  cases order : compare a.1 b.1
  · rfl
  · exact absurd (Std.LawfulEqCmp.eq_of_compare order) (by simpa using ne)
  · rw [order] at le
    cases le

/-- Bindings of different keys are sorted into one order, whatever the order was that they had. -/
theorem sortByKey_eq_of_perm {bindings others : List (String × Value)} (perm : bindings.Perm others)
    (distinct : bindings.Pairwise fun a b => (a.1 == b.1) = false) : sortByKey bindings = sortByKey others := by
  have sorted := (sortByKey_perm bindings).trans (perm.trans (sortByKey_perm others).symm)
  refine sorted.eq_of_pairwise (fun a b _ _ less less' => ?_) (sortByKey_ascending distinct)
    (sortByKey_ascending (distinct.perm perm BEq.symm_false))
  cases less.symm.trans (Std.OrientedCmp.gt_iff_lt.mpr less')

/-- The bindings in ascending order of their keys. -/
def toList (s : Store) : List (String × Value) :=
  s.bindings.inner.lift (fun table => sortByKey (Std.DHashMap.Const.toList table)) fun _ _ same =>
    sortByKey_eq_of_perm same.constToList_perm Std.DHashMap.Const.distinct_keys_toList

/-- The store that binds the keys of the given names, where later values replace earlier ones. -/
def ofNames (named : List (String × Value)) : Store :=
  named.foldl (fun s (name, v) => s.set (keyOf name) v) ∅

/-- The comparison of the language: the same keys, bound to values that agree. -/
def agrees (s t : Store) : Bool :=
  s.size == t.size &&
    s.toList.all fun (key, v) => (t.get? key).any v.agrees

/-- The text of a store, one line for each binding. -/
def text (s : Store) : String :=
  "\n".intercalate (s.toList.map fun (key, v) => key ++ " = " ++ v.text)

theorem ext {s t : Store} (h : ∀ key, s.get? key = t.get? key) : s = t := by
  cases s
  cases t
  exact congrArg Store.mk (Std.ExtHashMap.ext_getElem? h)

@[simp] theorem get?_empty (key : String) : (∅ : Store).get? key = none :=
  Std.ExtHashMap.getElem?_empty

theorem get?_set (s : Store) (key : String) (v : Value) (other : String) :
    (s.set key v).get? other = if key = other then some v else s.get? other := by
  simp [get?, set, Std.ExtHashMap.getElem?_insert]

/-- The bindings of a store are held by some table, and its listing is collected from there. -/
theorem exists_table (s : Store) : ∃ table : Std.DHashMap String fun _ => Value,
    s.toList = sortByKey (Std.DHashMap.Const.toList table) ∧ s.size = table.size ∧
      ∀ key, s.get? key = Std.DHashMap.Const.get? table key := by
  obtain ⟨⟨bindings⟩⟩ := s
  induction bindings using Std.ExtDHashMap.inductionOn with
  | _ table => exact ⟨table, rfl, rfl, fun _ => rfl⟩

theorem mem_toList_iff {s : Store} {key : String} {v : Value} :
    (key, v) ∈ s.toList ↔ s.get? key = some v := by
  obtain ⟨table, listing, -, found⟩ := s.exists_table
  rw [listing, found, (sortByKey_perm _).mem_iff, Std.DHashMap.Const.mem_toList_iff_get?_eq_some]

theorem toList_ascending (s : Store) : s.toList.Pairwise fun a b => compare a.1 b.1 = .lt := by
  obtain ⟨table, listing, -, -⟩ := s.exists_table
  rw [listing]
  exact sortByKey_ascending Std.DHashMap.Const.distinct_keys_toList

theorem size_eq_length (s : Store) : s.size = s.toList.length := by
  obtain ⟨table, listing, size, -⟩ := s.exists_table
  rw [listing, size, (sortByKey_perm _).length_eq, Std.DHashMap.Const.length_toList]

end Store
end MiniPascal
