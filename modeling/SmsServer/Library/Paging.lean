import Mathlib.Data.List.Nodup
import Mathlib.Data.List.Sort

/-!
# Reading a sorted list in pages

The elements of a list are sorted by a key and read in pages of a fixed size, until a page is
short. Every page is read from a new arrangement of the same elements: what the key leaves open,
the order of elements with equal keys, may differ from page to page.

If no boundary between two pages falls between equal keys, the pages together hold every element
exactly once (`pages_perm`). If one does, some arrangements make an element appear twice
(`exists_repeated`).
-/

namespace Paging

universe u v

variable {α : Type u} {κ : Type v}

/-! ### Pages -/

/-- Page number `k`, of size `p`. -/
def page (p : ℕ) (l : List α) (k : ℕ) : List α := (l.drop (k * p)).take p

/-- The first `n` pages, where page `k` is read from `ls k`. -/
def pages (p : ℕ) (ls : ℕ → List α) (n : ℕ) : List α :=
  (List.range n).flatMap fun k => page p (ls k) k

/-- Reads pages from number `k` on until one is short, `none` if the fuel does not last. -/
def collect (p : ℕ) (ls : ℕ → List α) : ℕ → ℕ → Option (List α)
  | 0, _ => none
  | fuel + 1, k =>
    if (page p (ls k) k).length < p then some (page p (ls k) k)
    else (collect p ls fuel (k + 1)).map (page p (ls k) k ++ ·)

variable {p : ℕ} {ls : ℕ → List α}

theorem page_short_iff (hp : 0 < p) {l : List α} {k : ℕ} :
    (page p l k).length < p ↔ l.length / p < k + 1 := by
  rw [Nat.div_lt_iff_lt_mul hp, page, List.length_take, List.length_drop, Nat.add_mul]
  omega

theorem mem_page {l : List α} {i k : ℕ} {a : α} (ha : l[i]? = some a) (hle : k * p ≤ i)
    (hlt : i < (k + 1) * p) : a ∈ page p l k := by
  refine List.mem_iff_getElem?.mpr ⟨i - k * p, ?_⟩
  rw [Nat.add_mul] at hlt
  rw [page, List.getElem?_take_of_lt (by omega), List.getElem?_drop, Nat.add_sub_cancel' hle, ha]

theorem pages_succ (p : ℕ) (ls : ℕ → List α) (n : ℕ) :
    pages p ls (n + 1) = pages p ls n ++ page p (ls n) n := by
  simp [pages, List.range_succ]

/-- An element of two pages is read twice. -/
theorem not_nodup_pages {n k : ℕ} (hk : k + 1 < n) {a : α} (hbefore : a ∈ page p (ls k) k)
    (hafter : a ∈ page p (ls (k + 1)) (k + 1)) : ¬ (pages p ls n).Nodup := by
  intro hnodup
  have hdisjoint := List.pairwise_iff_getElem.mp (List.nodup_flatMap.mp hnodup).2 k (k + 1)
    (by simpa using Nat.lt_of_succ_lt hk) (by simpa using hk) (Nat.lt_succ_self k)
  rw [List.getElem_range, List.getElem_range] at hdisjoint
  exact hdisjoint hbefore hafter

/-- From page `k` on, the loop reads up to the page that holds the end of the list. -/
theorem collect_eq (hp : 0 < p) {n : ℕ} (hls : ∀ k, (ls k).length = n) (fuel k : ℕ)
    (hk : k ≤ n / p) :
    collect p ls fuel k =
      if n / p - k < fuel then
        some ((List.range' k (n / p - k + 1)).flatMap fun j => page p (ls j) j)
      else none := by
  induction fuel generalizing k with
  | zero => rfl
  | succ fuel ih =>
    rw [collect]
    by_cases hlast : n / p = k
    · have hshort : (page p (ls k) k).length < p := by
        rw [page_short_iff hp, hls]
        omega
      simp [hshort, hlast]
    · have hfull : ¬ (page p (ls k) k).length < p := by
        rw [page_short_iff hp, hls]
        omega
      have hrange : n / p - k = n / p - (k + 1) + 1 := by omega
      rw [if_neg hfull, ih (k + 1) (by omega), hrange, List.range'_succ, List.flatMap_cons]
      simp only [Nat.add_lt_add_iff_right]
      split <;> rfl

theorem collect_eq_some_iff (hp : 0 < p) {n : ℕ} (hls : ∀ k, (ls k).length = n) {fuel : ℕ}
    {l : List α} :
    collect p ls fuel 0 = some l ↔ n / p < fuel ∧ pages p ls (n / p + 1) = l := by
  rw [collect_eq hp hls fuel 0 (Nat.zero_le _), Option.ite_none_right_eq_some, Option.some_inj,
    pages, List.range_eq_range', Nat.sub_zero]

/-! ### Arrangements -/

/-- A way to sort by the key, which orders equal keys as it likes. -/
structure Arrangement (r : κ → κ → Prop) (key : α → κ) where
  arrange : List α → List α
  perm : ∀ l, (arrange l).Perm l
  sorted : ∀ l, ((arrange l).map key).Pairwise r

/-- The keys in order. -/
def sortedKeys (r : κ → κ → Prop) [DecidableRel r] (key : α → κ) (l : List α) : List κ :=
  (l.map key).insertionSort r

/-- The keys before and after position `m` are equal. -/
def TieAt (ks : List κ) (m : ℕ) : Prop :=
  0 < m ∧ m < ks.length ∧ ks[m - 1]? = ks[m]?

/-- A boundary between two pages falls between equal keys. -/
def SplitsTie (p : ℕ) (ks : List κ) : Prop :=
  ∃ k < ks.length, TieAt ks (k * p)

instance [DecidableEq κ] (ks : List κ) (m : ℕ) : Decidable (TieAt ks m) :=
  inferInstanceAs (Decidable (_ ∧ _ ∧ _))

instance [DecidableEq κ] (p : ℕ) (ks : List κ) : Decidable (SplitsTie p ks) :=
  inferInstanceAs (Decidable (∃ k < ks.length, TieAt ks (k * p)))

theorem not_tieAt (hp : 0 < p) {ks : List κ} (h : ¬ SplitsTie p ks) (k : ℕ) :
    ¬ TieAt ks (k * p) := by
  intro htie
  exact h ⟨k, lt_of_le_of_lt (Nat.le_mul_of_pos_right k hp) htie.2.1, htie⟩

section Sorted

variable {r : κ → κ → Prop} {key : α → κ}

theorem Arrangement.length_arrange (A : Arrangement r key) (l : List α) :
    (A.arrange l).length = l.length :=
  (A.perm l).length_eq

variable [DecidableRel r] [Std.Total r] [IsTrans κ r] [Std.Antisymm r]

/-- Any two arrangements have the same keys. -/
theorem Arrangement.map_key (A : Arrangement r key) (l : List α) :
    (A.arrange l).map key = sortedKeys r key l :=
  (((A.perm l).map key).trans (List.perm_insertionSort r _).symm).eq_of_pairwise' (A.sorted l)
    (List.pairwise_insertionSort r _)

/-- Where the key grows, the elements before are those with keys up to there. -/
theorem take_eq_filter {l : List α} (hsorted : (l.map key).Pairwise r) {m : ℕ} {k₀ k₁ : κ}
    (hbefore : (l.map key)[m]? = some k₀) (hafter : (l.map key)[m + 1]? = some k₁)
    (hne : k₀ ≠ k₁) : l.take (m + 1) = l.filter fun a => r (key a) k₀ := by
  have hrefl : ∀ k, r k k := fun k => (Std.Total.total k k).elim id id
  obtain ⟨hm, rfl⟩ := List.getElem?_eq_some_iff.mp hbefore
  obtain ⟨hm', rfl⟩ := List.getElem?_eq_some_iff.mp hafter
  have hle : ∀ i j (hij : i ≤ j) (hj : j < (l.map key).length),
      r (l.map key)[i] (l.map key)[j] := by
    intro i j hij hj
    rcases hij.eq_or_lt with rfl | hij
    · exact hrefl _
    · exact List.pairwise_iff_getElem.mp hsorted i j _ hj hij
  have htake : (l.take (m + 1)).filter (fun a => r (key a) (l.map key)[m]) = l.take (m + 1) := by
    refine List.filter_eq_self.mpr fun a ha => ?_
    obtain ⟨i, hi, rfl⟩ := List.mem_take_iff_getElem.mp ha
    simpa using hle i m (by omega) hm
  have hdrop : (l.drop (m + 1)).filter (fun a => r (key a) (l.map key)[m]) = [] := by
    refine List.filter_eq_nil_iff.mpr fun a ha hback => ?_
    obtain ⟨j, hj, rfl⟩ := List.mem_drop_iff_getElem.mp ha
    have hj' : m + 1 + j < (l.map key).length := by
      rw [List.length_map]
      omega
    have hbelow : r (l.map key)[m + 1 + j] (l.map key)[m] := by
      rw [List.getElem_map]
      exact of_decide_eq_true hback
    -- a key beyond the boundary that is not larger makes it a tie
    exact hne (antisymm_of r (hle m (m + 1) (by omega) hm')
      (trans_of r (hle (m + 1) (m + 1 + j) (by omega) hj') hbelow))
  calc l.take (m + 1)
    _ = (l.take (m + 1)).filter (fun a => r (key a) (l.map key)[m]) ++
          (l.drop (m + 1)).filter (fun a => r (key a) (l.map key)[m]) := by
        rw [htake, hdrop, List.append_nil]
    _ = (l.take (m + 1) ++ l.drop (m + 1)).filter (fun a => r (key a) (l.map key)[m]) :=
        (List.filter_append _ _).symm
    _ = l.filter fun a => r (key a) (l.map key)[m] :=
        congrArg _ (List.take_append_drop (m + 1) l)

/-- Before a boundary without a tie, any two arrangements have the same elements. -/
theorem Arrangement.take_perm (A B : Arrangement r key) {l : List α} {m : ℕ}
    (h : ¬ TieAt (sortedKeys r key l) m) :
    ((A.arrange l).take m).Perm ((B.arrange l).take m) := by
  have hperm : (A.arrange l).Perm (B.arrange l) := (A.perm l).trans (B.perm l).symm
  rcases m with _ | m
  · simp
  by_cases hlt : m + 1 < l.length
  · have hkeys : (sortedKeys r key l).length = l.length := by
      rw [← A.map_key, List.length_map, A.length_arrange]
    obtain ⟨k₀, hbefore⟩ : ∃ k, (sortedKeys r key l)[m]? = some k :=
      ⟨_, List.getElem?_eq_getElem (by omega)⟩
    obtain ⟨k₁, hafter⟩ : ∃ k, (sortedKeys r key l)[m + 1]? = some k :=
      ⟨_, List.getElem?_eq_getElem (by omega)⟩
    have hne : k₀ ≠ k₁ := by
      rintro rfl
      exact h ⟨m.succ_pos, by omega, by rw [Nat.add_sub_cancel, hbefore, hafter]⟩
    rw [take_eq_filter (A.sorted l) (by rwa [A.map_key]) (by rwa [A.map_key]) hne,
      take_eq_filter (B.sorted l) (by rwa [B.map_key]) (by rwa [B.map_key]) hne]
    exact hperm.filter _
  · rw [List.take_of_length_le (by rw [A.length_arrange]; omega),
      List.take_of_length_le (by rw [B.length_arrange]; omega)]
    exact hperm

/-- The first pages hold what any arrangement has up to there. -/
theorem pages_perm_take (hp : 0 < p) {l : List α} (h : ¬ SplitsTie p (sortedKeys r key l))
    (A : ℕ → Arrangement r key) (B : Arrangement r key) (n : ℕ) :
    (pages p (fun k => (A k).arrange l) n).Perm ((B.arrange l).take (n * p)) := by
  induction n generalizing B with
  | zero => simp [pages]
  | succ n ih =>
    have hpage : ((A n).arrange l).take (n * p) ++ page p ((A n).arrange l) n =
        ((A n).arrange l).take ((n + 1) * p) := by
      rw [Nat.add_mul, Nat.one_mul, List.take_add, page]
    rw [pages_succ]
    exact ((ih (A n)).append_right _).trans
      (.trans (.of_eq hpage) ((A n).take_perm B (not_tieAt hp h (n + 1))))

/-- **Complete paging.** Without a tie at a boundary, the pages hold every element once. -/
theorem pages_perm (hp : 0 < p) {l : List α} (h : ¬ SplitsTie p (sortedKeys r key l))
    (A : ℕ → Arrangement r key) :
    (pages p (fun k => (A k).arrange l) (l.length / p + 1)).Perm l := by
  refine (pages_perm_take hp h A (A 0) _).trans ?_
  have hend : l.length < (l.length / p + 1) * p := by
    rw [Nat.mul_comm]
    exact Nat.lt_mul_div_succ l.length hp
  rw [List.take_of_length_le (by rw [Arrangement.length_arrange]; omega)]
  exact (A 0).perm l

end Sorted

/-! ### Repeated elements -/

section Repeated

variable [DecidableEq κ] {r : κ → κ → Prop} {key : α → κ}

/-- Swaps the first two elements if their keys are equal. -/
def swapTie (key : α → κ) : List α → List α
  | a :: b :: l => if key a = key b then b :: a :: l else a :: b :: l
  | l => l

theorem swapTie_perm (l : List α) : (swapTie key l).Perm l := by
  unfold swapTie
  split
  · split
    · exact .swap _ _ _
    · exact .refl _
  · exact .refl _

theorem map_swapTie (l : List α) : (swapTie key l).map key = l.map key := by
  unfold swapTie
  split
  · split
    · next h => simp [h]
    · rfl
  · rfl

/-- The arrangement that swaps two elements with equal keys, from position `m` on. -/
def Arrangement.swapAt (A : Arrangement r key) (m : ℕ) : Arrangement r key where
  arrange l := (A.arrange l).take m ++ swapTie key ((A.arrange l).drop m)
  perm l := by
    have hswapped : ((A.arrange l).take m ++ swapTie key ((A.arrange l).drop m)).Perm
        ((A.arrange l).take m ++ (A.arrange l).drop m) := (swapTie_perm _).append_left _
    rw [List.take_append_drop] at hswapped
    exact hswapped.trans (A.perm l)
  sorted l := by
    rw [List.map_append, map_swapTie, ← List.map_append, List.take_append_drop]
    exact A.sorted l

/-- The element before a tie is swapped behind it. -/
theorem Arrangement.getElem?_swapAt (A : Arrangement r key) {l : List α} {m : ℕ}
    (hlt : m + 1 < (A.arrange l).length)
    (htie : key (A.arrange l)[m] = key (A.arrange l)[m + 1]) :
    ((A.swapAt m).arrange l)[m + 1]? = some (A.arrange l)[m] := by
  have hdrop : (A.arrange l).drop m = (A.arrange l)[m] :: (A.arrange l)[m + 1] ::
      (A.arrange l).drop (m + 2) := by
    rw [List.drop_eq_getElem_cons (by omega), List.drop_eq_getElem_cons hlt]
  have hlength : ((A.arrange l).take m).length = m := by
    rw [List.length_take]
    omega
  simp only [swapAt, hdrop, swapTie]
  rw [if_pos htie, List.getElem?_append_right (by omega), hlength]
  simp

variable [DecidableRel r] [Std.Total r] [IsTrans κ r]

/-- An arrangement that leaves equal keys as they come. -/
def Arrangement.insertion : Arrangement r key where
  arrange l := l.insertionSort fun a b => r (key a) (key b)
  perm l := List.perm_insertionSort _ l
  sorted l := by
    rw [List.map_insertionSort _ r key l fun _ _ _ _ => Iff.rfl]
    exact List.pairwise_insertionSort r _

variable [Std.Antisymm r]

/-- **Repeated elements.** With a tie at a boundary, the page after it can begin with the element
that the page before it ends with. -/
theorem exists_repeated (hp : 0 < p) {l : List α} (h : SplitsTie p (sortedKeys r key l)) :
    ∃ A : ℕ → Arrangement r key,
      ¬ (pages p (fun k => (A k).arrange l) (l.length / p + 1)).Nodup := by
  obtain ⟨k, -, hpos, hlt, htie⟩ := h
  obtain ⟨k, rfl⟩ := Nat.exists_eq_add_one_of_ne_zero fun hzero : k = 0 => by simp [hzero] at hpos
  obtain ⟨m, hm⟩ := Nat.exists_eq_add_one_of_ne_zero hpos.ne'
  let A : Arrangement r key := .insertion
  rw [hm, ← A.map_key, List.length_map] at hlt
  rw [hm, Nat.add_sub_cancel, ← A.map_key, List.getElem?_map, List.getElem?_map,
    List.getElem?_eq_getElem (by omega), List.getElem?_eq_getElem hlt] at htie
  have hswapped := A.getElem?_swapAt hlt (Option.some_inj.mp htie)
  have hreached : k + 1 < l.length / p + 1 := by
    rw [Nat.lt_add_one_iff, Nat.le_div_iff_mul_le hp, hm, ← A.length_arrange]
    exact hlt.le
  rw [Nat.add_mul] at hm
  refine ⟨fun j => if j ≤ k then A else A.swapAt m, not_nodup_pages hreached
    (a := (A.arrange l)[m]) ?_ ?_⟩
  · simp only [le_refl, if_true]
    exact mem_page (List.getElem?_eq_getElem (by omega)) (by omega) (by rw [Nat.add_mul]; omega)
  · simp only [Nat.not_succ_le_self k, if_false]
    exact mem_page hswapped (by rw [Nat.add_mul]; omega) (by rw [Nat.add_mul, Nat.add_mul]; omega)

end Repeated

end Paging
