import Mathlib.Data.List.Perm.Subperm

/-!
# Streams of futures with bounded concurrency

`Futures` is what is used of the `futures` crate: a stream of futures with `buffer_unordered(limit)`
starts the futures in the order of the stream while fewer than `limit` are in progress, and takes
results in any order. `poll` is one of these two steps, and `poll_cases` says what it may do.

Whatever the order of the results, the futures start in the order of the stream
(`Futures.startedOf_poll`), what has finished and what is in progress are together what has
started (`Futures.perm_poll`), at most `limit` are in progress (`Futures.length_poll`), and it does
not go on for ever (`Futures.work_poll`). `Futures.ofLists` keeps the futures in lists.
-/

/-- What happens to a future. -/
inductive FutureEvent (τ : Type)
  | started (future : τ)
  | finished (future : τ)
  deriving DecidableEq, Repr

/-- A step of `poll_next`. -/
inductive BufferedPoll
  /-- The next future of the stream is started. -/
  | start
  /-- The result of the future at this place is taken. -/
  | finish (i : ℕ)
  deriving DecidableEq, Repr

/-- Streams of futures with `buffer_unordered`: the futures that are still in the stream, those in
progress, and what may be polled. -/
structure Futures where
  Buffered : Type → Type
  ofStream {τ : Type} : List τ → Buffered τ
  pending {τ : Type} : Buffered τ → List τ
  inProgress {τ : Type} : Buffered τ → List τ
  poll {τ : Type} (limit : ℕ) : Buffered τ → BufferedPoll →
    Option (Buffered τ × List (FutureEvent τ))
  pending_ofStream {τ : Type} (stream : List τ) : pending (ofStream stream) = stream
  inProgress_ofStream {τ : Type} (stream : List τ) : inProgress (ofStream stream) = []
  /-- The next future of the stream is started, or one in progress finishes. -/
  poll_cases {τ : Type} {limit : ℕ} {s s' : Buffered τ} {input : BufferedPoll}
    {out : List (FutureEvent τ)} : poll limit s input = some (s', out) →
    (∃ future, pending s = future :: pending s' ∧ (inProgress s).length < limit ∧
      (inProgress s').Perm (inProgress s ++ [future]) ∧ out = [.started future]) ∨
    ∃ future, pending s' = pending s ∧ (future :: inProgress s').Perm (inProgress s) ∧
      out = [.finished future]
  /-- Until nothing is left, a future is started if there is room, or those in progress may
  finish. -/
  exists_poll {τ : Type} {limit : ℕ} {s : Buffered τ} : 0 < limit →
    ¬ (pending s = [] ∧ inProgress s = []) →
    (poll limit s .start).isSome ∨ (poll limit s (.finish 0)).isSome

namespace FutureEvent

variable {τ : Type}

/-- The futures that are started. -/
def startedOf : List (FutureEvent τ) → List τ :=
  List.filterMap fun | started future => some future | finished _ => none

/-- The futures that finish. -/
def finishedOf : List (FutureEvent τ) → List τ :=
  List.filterMap fun | started _ => none | finished future => some future

@[simp] theorem startedOf_append (t u : List (FutureEvent τ)) :
    startedOf (t ++ u) = startedOf t ++ startedOf u := List.filterMap_append

@[simp] theorem finishedOf_append (t u : List (FutureEvent τ)) :
    finishedOf (t ++ u) = finishedOf t ++ finishedOf u := List.filterMap_append

end FutureEvent

open FutureEvent

namespace Futures

attribute [simp] pending_ofStream inProgress_ofStream

variable {F : Futures} {τ : Type}

/-- Nothing is left of the stream. -/
def Exhausted (F : Futures) (s : F.Buffered τ) : Prop := F.pending s = [] ∧ F.inProgress s = []

instance (s : F.Buffered τ) : Decidable (F.Exhausted s) :=
  decidable_of_iff ((F.pending s).isEmpty ∧ (F.inProgress s).isEmpty) (by simp [Exhausted])

/-- How much is left to do. -/
def work (F : Futures) (s : F.Buffered τ) : ℕ :=
  2 * (F.pending s).length + (F.inProgress s).length

variable {limit : ℕ} {s s' : F.Buffered τ} {input : BufferedPoll} {out : List (FutureEvent τ)}

@[simp] theorem work_ofStream (stream : List τ) :
    F.work (F.ofStream stream) = 2 * stream.length := by
  simp [work]

/-- Futures start in the order of the stream. -/
theorem startedOf_poll (h : F.poll limit s input = some (s', out)) :
    startedOf out ++ F.pending s' = F.pending s := by
  rcases F.poll_cases h with ⟨future, hpending, -, -, rfl⟩ | ⟨future, hpending, -, rfl⟩
  · exact hpending.symm
  · exact hpending

/-- What has finished and what is in progress are together what was in progress or has
started. -/
theorem perm_poll (h : F.poll limit s input = some (s', out)) :
    (finishedOf out ++ F.inProgress s').Perm (F.inProgress s ++ startedOf out) := by
  rcases F.poll_cases h with ⟨future, -, -, hperm, rfl⟩ | ⟨future, -, hperm, rfl⟩
  · exact hperm
  · have hstarted : startedOf [FutureEvent.finished future] = [] := rfl
    rw [hstarted, List.append_nil]
    exact hperm

/-- No more futures are in progress than the limit allows. -/
theorem length_poll (h : F.poll limit s input = some (s', out))
    (hle : (F.inProgress s).length ≤ limit) : (F.inProgress s').length ≤ limit := by
  rcases F.poll_cases h with ⟨future, -, hlt, hperm, -⟩ | ⟨future, -, hperm, -⟩
  · rw [hperm.length_eq, List.length_append, List.length_singleton]
    exact hlt
  · have hlength := hperm.length_eq
    rw [List.length_cons] at hlength
    omega

/-- Every step is progress. -/
theorem work_poll (h : F.poll limit s input = some (s', out)) : F.work s' < F.work s := by
  rcases F.poll_cases h with ⟨future, hpending, -, hperm, -⟩ | ⟨future, hpending, hperm, -⟩
  · have hlength := hperm.length_eq
    simp only [work, hpending, List.length_append, List.length_cons, List.length_nil] at hlength ⊢
    omega
  · have hlength := hperm.length_eq
    rw [List.length_cons] at hlength
    simp only [work, hpending]
    omega

/-! ### Lists of futures -/

/-- The futures that are still in the stream, and those in progress. -/
structure FutureLists (τ : Type) where
  pending : List τ
  inProgress : List τ

namespace FutureLists

/-- The buffer is filled up before a result is looked at. -/
def Filled (limit : ℕ) (self : FutureLists τ) : Prop :=
  self.pending = [] ∨ limit ≤ self.inProgress.length

instance (limit : ℕ) (self : FutureLists τ) : Decidable (self.Filled limit) :=
  decidable_of_iff (self.pending.isEmpty ∨ limit ≤ self.inProgress.length) (by simp [Filled])

def poll (limit : ℕ) (self : FutureLists τ) :
    BufferedPoll → Option (FutureLists τ × List (FutureEvent τ))
  | .start =>
    match self.pending with
    | [] => none
    | future :: pending =>
      if self.inProgress.length < limit then
        some ({ pending, inProgress := self.inProgress ++ [future] }, [.started future])
      else none
  | .finish i =>
    if self.Filled limit then
      self.inProgress[i]?.map fun future =>
        ({ self with inProgress := self.inProgress.eraseIdx i }, [.finished future])
    else none

variable {s s' : FutureLists τ}

theorem poll_cases (h : s.poll limit input = some (s', out)) :
    (∃ future, s.pending = future :: s'.pending ∧ s.inProgress.length < limit ∧
      s'.inProgress.Perm (s.inProgress ++ [future]) ∧ out = [.started future]) ∨
    ∃ future, s'.pending = s.pending ∧ (future :: s'.inProgress).Perm s.inProgress ∧
      out = [.finished future] := by
  cases input with
  | start =>
    rw [poll] at h
    split at h
    · cases h
    · next future pending hpending =>
      obtain ⟨hlt, heq⟩ := Option.ite_none_right_eq_some.mp h
      obtain ⟨rfl, rfl⟩ := Prod.mk.inj (Option.some_inj.mp heq)
      exact .inl ⟨future, hpending, hlt, .refl _, rfl⟩
  | finish i =>
    obtain ⟨-, heq⟩ := Option.ite_none_right_eq_some.mp h
    obtain ⟨future, hfuture, heq⟩ := Option.map_eq_some_iff.mp heq
    obtain ⟨rfl, rfl⟩ := Prod.mk.inj heq
    obtain ⟨hlt, rfl⟩ := List.getElem?_eq_some_iff.mp hfuture
    exact .inr ⟨_, rfl, List.getElem_cons_eraseIdx_perm hlt, rfl⟩

theorem exists_poll (hlimit : 0 < limit) (h : ¬ (s.pending = [] ∧ s.inProgress = [])) :
    (s.poll limit .start).isSome ∨ (s.poll limit (.finish 0)).isSome := by
  by_cases hfilled : s.Filled limit
  · -- if nothing is in progress then, the stream is not empty, and the buffer is
    have hne : s.inProgress ≠ [] := fun hnil => by
      rcases hfilled with hpending | hle
      · exact h ⟨hpending, hnil⟩
      · rw [hnil, List.length_nil] at hle
        omega
    obtain ⟨future, rest, hcons⟩ := List.exists_cons_of_ne_nil hne
    exact .inr (by simp [poll, hfilled, hcons])
  · obtain ⟨hpending, hlt⟩ := not_or.mp hfilled
    obtain ⟨future, pending, hcons⟩ := List.exists_cons_of_ne_nil hpending
    exact .inl (by simp [poll, hcons, Nat.not_le.mp hlt])

end FutureLists

/-- The futures are kept in lists, and the buffer is filled up before a result is looked at. -/
def ofLists : Futures where
  Buffered := FutureLists
  ofStream stream := { pending := stream, inProgress := [] }
  pending := FutureLists.pending
  inProgress := FutureLists.inProgress
  poll := FutureLists.poll
  pending_ofStream _ := rfl
  inProgress_ofStream _ := rfl
  poll_cases := FutureLists.poll_cases
  exists_poll := FutureLists.exists_poll

end Futures
