import Mathlib.Data.List.AList
import Mathlib.Data.List.Induction

/-!
# Maps to lists

A map whose entries are lists that values are appended to. Filled from a list of pairs, it holds
under every key that occurs the values of that key, in their order and with their repetitions.
-/

namespace RustStd

universe u v

/-- `HashMap<K, Vec<V>>`. -/
abbrev Multimap (κ : Type u) (ν : Type v) := AList fun _ : κ => List ν

namespace Multimap

variable {κ : Type u} {ν : Type v} [DecidableEq κ]

/-- `entry(k).or_default().push(a)`. -/
def push (m : Multimap κ ν) (k : κ) (a : ν) : Multimap κ ν :=
  m.insert k ((m.lookup k).getD [] ++ [a])

/-- One push for each pair. -/
def ofPairs (pairs : List (κ × ν)) : Multimap κ ν :=
  pairs.foldl (fun m p => m.push p.1 p.2) ∅

/-- The values of a key. -/
def valuesOf (pairs : List (κ × ν)) (k : κ) : List ν :=
  pairs.filterMap fun p => if p.1 = k then some p.2 else none

theorem valuesOf_cons (p : κ × ν) (pairs : List (κ × ν)) (k : κ) :
    valuesOf (p :: pairs) k = if p.1 = k then p.2 :: valuesOf pairs k else valuesOf pairs k := by
  by_cases hk : p.1 = k
  · simp only [valuesOf, List.filterMap_cons, hk, if_true]
  · simp only [valuesOf, List.filterMap_cons, hk, if_false]

theorem mem_valuesOf {pairs : List (κ × ν)} {k : κ} {a : ν} :
    a ∈ valuesOf pairs k ↔ (k, a) ∈ pairs := by
  simp [valuesOf, List.mem_filterMap]

theorem valuesOf_append (ps qs : List (κ × ν)) (k : κ) :
    valuesOf (ps ++ qs) k = valuesOf ps k ++ valuesOf qs k :=
  List.filterMap_append

/-- A key is present if it has values, and then with these. -/
theorem lookup_ofPairs (pairs : List (κ × ν)) (k : κ) :
    (ofPairs pairs).lookup k = if valuesOf pairs k = [] then none else some (valuesOf pairs k) := by
  induction pairs using List.reverseRecOn with
  | nil => simp [ofPairs, valuesOf]
  | append_singleton pairs p ih =>
    have hpush : ofPairs (pairs ++ [p]) = (ofPairs pairs).push p.1 p.2 := by
      rw [ofPairs, List.foldl_append]
      rfl
    rw [hpush, push, valuesOf_append]
    by_cases hp : p.1 = k
    · have hlast : valuesOf [p] k = [p.2] := by simp [valuesOf, hp]
      have hold : ((ofPairs pairs).lookup p.1).getD [] = valuesOf pairs k := by
        rw [hp, ih]
        split
        · next hnil => rw [hnil, Option.getD_none]
        · rfl
      rw [hold, hp, AList.lookup_insert, hlast, if_neg (by simp)]
    · have hlast : valuesOf [p] k = [] := by simp [valuesOf, hp]
      rw [AList.lookup_insert_ne (Ne.symm hp), hlast, List.append_nil, ih]

end Multimap

end RustStd
