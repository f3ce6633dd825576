import Mathlib.Algebra.Ring.Nat
import Mathlib.Data.List.Induction
import Mathlib.Data.List.ReduceOption
import Mathlib.Tactic.Common

/-!
# Slots that keep their first value

A row of slots, filled in any order and with repetitions: a value is kept when its slot is still
empty, and dropped otherwise. After any sequence of writes a slot holds the first value written
to it (`fillAll_replicate`), so the row depends on the order of the writes only through which
write came first at each position, and it is full exactly when every position was written
(`filled_fillAll_eq_iff`).
-/

namespace Slots

universe u

variable {α : Type u}

/-- Writes a value into an empty slot. -/
def fill (slots : List (Option α)) (i : ℕ) (a : α) : List (Option α) :=
  match slots[i]? with
  | some none => slots.set i (some a)
  | _ => slots

/-- Writes values one after the other. -/
def fillAll (slots : List (Option α)) (ps : List (ℕ × α)) : List (Option α) :=
  ps.foldl (fun slots p => fill slots p.1 p.2) slots

/-- The number of slots with a value. -/
def filled (slots : List (Option α)) : ℕ := slots.countP Option.isSome

@[simp] theorem fillAll_nil (slots : List (Option α)) : fillAll slots [] = slots := rfl

@[simp] theorem fillAll_concat (slots : List (Option α)) (ps : List (ℕ × α)) (p : ℕ × α) :
    fillAll slots (ps ++ [p]) = fill (fillAll slots ps) p.1 p.2 := by
  rw [fillAll, List.foldl_append]
  rfl

theorem fill_of_empty {slots : List (Option α)} {i : ℕ} (h : slots[i]? = some none) (a : α) :
    fill slots i a = slots.set i (some a) := by
  rw [fill, h]

theorem fill_of_not_empty {slots : List (Option α)} {i : ℕ} (h : slots[i]? ≠ some none) (a : α) :
    fill slots i a = slots := by
  unfold fill
  split
  · exact absurd ‹_› h
  · rfl

theorem getElem?_fill (slots : List (Option α)) (i j : ℕ) (a : α) :
    (fill slots i a)[j]? =
      if i = j then slots[j]?.map fun slot => some (slot.getD a) else slots[j]? := by
  -- only an empty slot changes, and only slot `i`
  by_cases h : slots[i]? = some none
  · have hlt : i < slots.length := (List.getElem?_eq_some_iff.mp h).1
    rw [fill_of_empty h, List.getElem?_set]
    by_cases hij : i = j
    · subst hij
      rw [if_pos rfl, if_pos hlt, if_pos rfl, h]
      rfl
    · rw [if_neg hij, if_neg hij]
  · rw [fill_of_not_empty h]
    by_cases hij : i = j
    · subst hij
      rw [if_pos rfl]
      rcases hslot : slots[i]? with _ | _ | b
      · rfl
      · exact absurd hslot h
      · rfl
    · rw [if_neg hij]

/-- A write into an empty slot fills one more. -/
theorem filled_fill {slots : List (Option α)} {i : ℕ} (h : slots[i]? = some none) (a : α) :
    filled (fill slots i a) = filled slots + 1 := by
  obtain ⟨hlt, hget⟩ := List.getElem?_eq_some_iff.mp h
  rw [fill_of_empty h, filled, filled, List.countP_set hlt, hget]
  simp

/-- **First write wins.** Slot `i` holds the first value written to it. -/
theorem fillAll_replicate (n : ℕ) (ps : List (ℕ × α)) :
    fillAll (List.replicate n none) ps =
      (List.range n).map fun i => (ps.find? (·.1 = i)).map Prod.snd := by
  -- by the last write, which counts only if no earlier one hit its slot
  induction ps using List.reverseRecOn with
  | nil => simp [List.map_const']
  | append_singleton ps p ih =>
    rw [fillAll_concat, ih]
    refine List.ext_getElem? fun j => ?_
    rw [getElem?_fill]
    by_cases hj : j < n
    · simp only [List.getElem?_map, List.getElem?_range hj, Option.map_some, List.find?_append]
      by_cases hp : p.1 = j <;> cases ps.find? (·.1 = j) <;> simp [hp]
    · have hnone : (List.range n)[j]? = none := by simpa using hj
      simp [hnone]

/-- The sum of a measure over the slots with a value. -/
def measure (f : α → ℕ) (slots : List (Option α)) : ℕ := (slots.reduceOption.map f).sum

/-- A write into an empty slot adds the measure of the value. -/
theorem measure_fill {slots : List (Option α)} {i : ℕ} (h : slots[i]? = some none) (f : α → ℕ)
    (a : α) : measure f (fill slots i a) = measure f slots + f a := by
  obtain ⟨hlt, hget⟩ := List.getElem?_eq_some_iff.mp h
  have hslots : slots = slots.take i ++ none :: slots.drop (i + 1) := by
    rw [← hget, List.getElem_cons_drop, List.take_append_drop]
  rw [fill_of_empty h, List.set_eq_take_append_cons_drop, if_pos hlt, measure, measure]
  conv_rhs => rw [hslots]
  simp only [List.reduceOption_append, List.reduceOption_cons_of_some,
    List.reduceOption_cons_of_none, List.map_append, List.map_cons, List.sum_append, List.sum_cons]
  omega

theorem filled_le_length (slots : List (Option α)) : filled slots ≤ slots.length :=
  List.countP_le_length

/-- A row that is not full has an empty slot. -/
theorem none_mem_of_filled_lt {slots : List (Option α)} (h : filled slots < slots.length) :
    none ∈ slots := by
  by_contra hfull
  refine Nat.ne_of_lt h (List.countP_eq_length.mpr fun slot hslot => ?_)
  exact Option.isSome_iff_ne_none.mpr fun hnone => hfull (hnone ▸ hslot)

/-- The row is full exactly when every position was written. -/
theorem filled_fillAll_eq_iff (n : ℕ) (ps : List (ℕ × α)) :
    n ≤ filled (fillAll (List.replicate n none) ps) ↔ ∀ i < n, ∃ p ∈ ps, p.1 = i := by
  have hlength : (fillAll (List.replicate n none) ps).length = n := by simp [fillAll_replicate]
  have hfull : n ≤ filled (fillAll (List.replicate n none) ps) ↔
      ∀ slot ∈ fillAll (List.replicate n none) ps, slot.isSome := by
    rw [← List.countP_eq_length, hlength]
    have hle := filled_le_length (fillAll (List.replicate n none) ps)
    rw [hlength] at hle
    exact ⟨fun h => Nat.le_antisymm hle h, fun h => Nat.le_of_eq h.symm⟩
  rw [hfull, fillAll_replicate]
  simp only [List.mem_map, List.mem_range, forall_exists_index, and_imp, forall_apply_eq_imp_iff₂,
    Option.isSome_map, List.find?_isSome, decide_eq_true_eq]

end Slots
