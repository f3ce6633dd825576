import Mathlib.Data.List.Perm.Basic

/-!
# Lists in another order

`Reordered p l l'` says that `l'` has the elements of `l` in another order, in which those that
satisfy `p` keep theirs: the others may be overtaken. This is what is left of the order of what
begins in one order and ends in another, where some of it comes one after the other
(`Reordered.of_getElem?`).
-/

universe u

variable {α : Type u} {p : α → Bool} {l l' l'' m m' : List α}

/-- The elements of `l` in another order, in which those that satisfy `p` keep theirs. -/
structure Reordered (p : α → Bool) (l l' : List α) : Prop where
  perm : l.Perm l'
  inTurn : l.filter p = l'.filter p

namespace Reordered

theorem refl (p : α → Bool) (l : List α) : Reordered p l l := ⟨.refl l, rfl⟩

theorem trans (h : Reordered p l l') (h' : Reordered p l' l'') : Reordered p l l'' :=
  ⟨h.perm.trans h'.perm, h.inTurn.trans h'.inTurn⟩

theorem append (h : Reordered p l l') (h' : Reordered p m m') :
    Reordered p (l ++ m) (l' ++ m') where
  perm := h.perm.append h'.perm
  inTurn := by rw [List.filter_append, List.filter_append, h.inTurn, h'.inTurn]

/-- What is of interest of the lists is reordered as they are. -/
theorem filter (h : Reordered p l l') (q : α → Bool) : Reordered p (l.filter q) (l'.filter q) where
  perm := h.perm.filter q
  inTurn := by rw [List.filter_comm, h.inTurn, List.filter_comm]

/-- Lists of which all satisfy `p` are equal. -/
theorem eq_of_forall (h : Reordered p l l') (hp : ∀ a ∈ l, p a) : l = l' := by
  have hp' : ∀ a ∈ l', p a := fun a ha => hp a (h.perm.mem_iff.mpr ha)
  rw [← List.filter_eq_self.mpr hp, h.inTurn, List.filter_eq_self.mpr hp']

/-- One element is taken out, and at most one satisfies `p`. -/
theorem of_getElem? {i : ℕ} {a : α} (ha : l[i]? = some a) (hp : (l.filter p).length ≤ 1) :
    Reordered p l (a :: l.eraseIdx i) := by
  obtain ⟨hlt, rfl⟩ := List.getElem?_eq_some_iff.mp ha
  have hperm : l.Perm (l[i] :: l.eraseIdx i) := (List.getElem_cons_eraseIdx_perm hlt).symm
  refine ⟨hperm, ?_⟩
  have hfilter := hperm.filter p
  -- one element or none has no other order
  match hl : l.filter p with
  | [] => rw [hl] at hfilter; exact (List.perm_nil.mp hfilter.symm).symm
  | [b] => rw [hl] at hfilter; exact (List.perm_singleton.mp hfilter.symm).symm
  | _ :: _ :: _ => simp [hl] at hp

end Reordered
