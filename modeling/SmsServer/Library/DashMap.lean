import Mathlib.Data.List.AList

/-!
# Maps that are walked and pruned

`DashMaps` is what is used of the `dashmap` crate: maps with unique keys, and what `get` finds in
them after each operation. Particular to them is `retain`, which walks over the entries, keeps some,
and does something at each: whether an entry is kept, and what is done there, depends on that entry
alone, and the order of the walk is not known.

`DashMaps.ofAList` are association lists.
-/

/-- Maps with the operations of `DashMap`, by what `get` finds. The closure of `retain` tells
whether an entry is kept and what it does there. -/
structure DashMaps where
  DashMap : Type → Type → Type
  new {κ ν : Type} : DashMap κ ν
  get {κ ν : Type} [DecidableEq κ] : DashMap κ ν → κ → Option ν
  insert {κ ν : Type} [DecidableEq κ] : DashMap κ ν → κ → ν → DashMap κ ν
  remove {κ ν : Type} [DecidableEq κ] : DashMap κ ν → κ → DashMap κ ν
  retain {κ ν ε : Type} : (κ → ν → Bool × List ε) → DashMap κ ν → DashMap κ ν × List ε
  get_new {κ ν : Type} [DecidableEq κ] (k : κ) : get (new : DashMap κ ν) k = none
  get_insert {κ ν : Type} [DecidableEq κ] (m : DashMap κ ν) (k : κ) (a : ν) :
    get (insert m k a) = Function.update (get m) k (some a)
  get_remove {κ ν : Type} [DecidableEq κ] (m : DashMap κ ν) (k : κ) :
    get (remove m k) = Function.update (get m) k none
  get_retain {κ ν ε : Type} [DecidableEq κ] (f : κ → ν → Bool × List ε) (m : DashMap κ ν) (k : κ) :
    get (retain f m).1 k = (get m k).filter fun a => (f k a).1
  /-- The entries are walked over once each, in some order. -/
  walked {κ ν ε : Type} [DecidableEq κ] (f : κ → ν → Bool × List ε) (m : DashMap κ ν) :
    ∃ entries : List (κ × ν), (entries.map Prod.fst).Nodup ∧
      (∀ k a, (k, a) ∈ entries ↔ get m k = some a) ∧
      (retain f m).2 = entries.flatMap fun e => (f e.1 e.2).2

namespace DashMaps

attribute [simp] get_new

variable {D : DashMaps} {κ ν ε : Type} [DecidableEq κ] {m : D.DashMap κ ν} {k k' : κ} {a b : ν}

/-- `contains_key`. -/
def containsKey (D : DashMaps) (m : D.DashMap κ ν) (k : κ) : Bool := (D.get m k).isSome

theorem containsKey_eq_false_iff : D.containsKey m k = false ↔ D.get m k = none :=
  Option.isSome_eq_false_iff.trans Option.isNone_iff_eq_none

@[simp] theorem get_insert_self : D.get (D.insert m k a) k = some a := by
  rw [D.get_insert, Function.update_self]

theorem get_insert_of_ne (h : k' ≠ k) : D.get (D.insert m k a) k' = D.get m k' := by
  rw [D.get_insert, Function.update_of_ne h]

@[simp] theorem get_remove_self : D.get (D.remove m k) k = none := by
  rw [D.get_remove, Function.update_self]

theorem get_remove_of_ne (h : k' ≠ k) : D.get (D.remove m k) k' = D.get m k' := by
  rw [D.get_remove, Function.update_of_ne h]

theorem get_remove_eq_some_iff :
    D.get (D.remove m k) k' = some a ↔ k' ≠ k ∧ D.get m k' = some a := by
  by_cases h : k' = k
  · subst h
    simp
  · simp [get_remove_of_ne h, h]

/-! ### Walks -/

variable {f : κ → ν → Bool × List ε}

/-- An entry is kept if the closure says so. -/
theorem get_retain_eq_some_iff :
    D.get (D.retain f m).1 k = some a ↔ D.get m k = some a ∧ (f k a).1 := by
  rw [D.get_retain, Option.filter_eq_some_iff]

variable {β : Type*} {g : ε → Option β}

/-- What is of no interest at any entry is of no interest at all. -/
theorem filterMap_retain_eq_nil (h : ∀ k a, D.get m k = some a → (f k a).2.filterMap g = []) :
    (D.retain f m).2.filterMap g = [] := by
  obtain ⟨entries, -, hentries, hwalk⟩ := D.walked f m
  rw [hwalk, List.filterMap_flatMap, List.flatMap_eq_nil_iff]
  exact fun e he => h e.1 e.2 ((hentries e.1 e.2).mp he)

/-- What is of interest at one entry only is what is done there. -/
theorem filterMap_retain (hk : D.get m k = some a)
    (h : ∀ k' b, k' ≠ k → D.get m k' = some b → (f k' b).2.filterMap g = []) :
    (D.retain f m).2.filterMap g = (f k a).2.filterMap g := by
  obtain ⟨entries, hnodup, hentries, hwalk⟩ := D.walked f m
  obtain ⟨before, after, rfl⟩ := List.append_of_mem ((hentries k a).mpr hk)
  have hother : ∀ e ∈ before ++ (k, a) :: after, e.1 ≠ k → (f e.1 e.2).2.filterMap g = [] :=
    fun e he hne => h e.1 e.2 hne ((hentries e.1 e.2).mp he)
  rw [List.map_append, List.map_cons] at hnodup
  have hbefore : (before.flatMap fun e => (f e.1 e.2).2.filterMap g) = [] := by
    refine List.flatMap_eq_nil_iff.mpr fun e he => hother e (List.mem_append_left _ he) ?_
    rintro rfl
    exact (List.nodup_append.mp hnodup).2.2 _ (List.mem_map_of_mem he) _ List.mem_cons_self rfl
  have hafter : (after.flatMap fun e => (f e.1 e.2).2.filterMap g) = [] := by
    refine List.flatMap_eq_nil_iff.mpr fun e he =>
      hother e (List.mem_append_right _ (List.mem_cons_of_mem _ he)) ?_
    rintro rfl
    exact (List.nodup_cons.mp (List.nodup_append.mp hnodup).2.1).1 (List.mem_map.mpr ⟨e, he, rfl⟩)
  rw [hwalk, List.filterMap_flatMap, List.flatMap_append, List.flatMap_cons, hbefore, hafter,
    List.nil_append, List.append_nil]

/-! ### Association lists -/

/-- `retain` for association lists. -/
def retainEntries (f : κ → ν → Bool × List ε) (m : AList fun _ : κ => ν) :
    AList (fun _ : κ => ν) × List ε :=
  (⟨m.entries.filter fun e => (f e.1 e.2).1, m.nodupKeys.sublist List.filter_sublist⟩,
    m.entries.flatMap fun e => (f e.1 e.2).2)

theorem lookup_retainEntries (f : κ → ν → Bool × List ε) (m : AList fun _ : κ => ν) (k : κ) :
    (retainEntries f m).1.lookup k = (m.lookup k).filter fun a => (f k a).1 := by
  have hmem : ∀ (m : AList fun _ : κ => ν) a, m.lookup k = some a ↔ ⟨k, a⟩ ∈ m.entries :=
    fun m a => AList.mem_lookup_iff
  ext a
  simp only [Option.filter_eq_some_iff, hmem, retainEntries, List.mem_filter]

theorem walked_retainEntries (f : κ → ν → Bool × List ε) (m : AList fun _ : κ => ν) :
    ∃ entries : List (κ × ν), (entries.map Prod.fst).Nodup ∧
      (∀ k a, (k, a) ∈ entries ↔ m.lookup k = some a) ∧
      (retainEntries f m).2 = entries.flatMap fun e => (f e.1 e.2).2 := by
  refine ⟨m.entries.map fun e => (e.1, e.2), ?_, fun k a => ?_, ?_⟩
  · rw [List.map_map]
    exact m.nodupKeys
  · rw [← Option.mem_def, AList.mem_lookup_iff, List.mem_map]
    constructor
    · rintro ⟨e, he, heq⟩
      obtain ⟨rfl, rfl⟩ := Prod.mk.inj heq
      exact he
    · exact fun h => ⟨⟨k, a⟩, h, rfl⟩
  · rw [List.flatMap_map]
    rfl

/-- Association lists with unique keys. -/
def ofAList : DashMaps where
  DashMap κ ν := AList fun _ : κ => ν
  new := ∅
  get m k := m.lookup k
  insert m k a := AList.insert k a m
  remove m k := m.erase k
  retain := retainEntries
  get_new k := AList.lookup_empty k
  get_insert m k a := by
    funext k'
    by_cases h : k' = k
    · rw [h, AList.lookup_insert, Function.update_self]
    · rw [AList.lookup_insert_ne h, Function.update_of_ne h]
  get_remove m k := by
    funext k'
    by_cases h : k' = k
    · rw [h, AList.lookup_erase, Function.update_self]
    · rw [AList.lookup_erase_ne h, Function.update_of_ne h]
  get_retain := lookup_retainEntries
  walked := walked_retainEntries

end DashMaps
