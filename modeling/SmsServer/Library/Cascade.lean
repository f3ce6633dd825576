import SmsServer.Library.Machine

/-!
# One system feeding another

Two guarded systems in a row: some outputs of the first are inputs of the second, which takes them
in the same step, and each has inputs of its own. `Wire` says which outputs and inputs these are,
and `cascade` is the composite.

A run of the composite is a run of either system (`Run.upstream` and `Run.downstream`), with the
steps that the systems take in the composite; the second is also fed what the first emits, in the
same order. So what holds of the runs of the systems can be put together.
-/

namespace Machine

universe u v w

variable {σ₁ ι₁ ε₁ : Type u} {σ₂ ι₂ ε₂ : Type v} {φ : Type w}

/-- What is fed from a system with outputs `ε` to one with inputs `ι`. -/
structure Wire (ε : Type u) (φ : Type w) (ι : Type v) where
  /-- What an output feeds. -/
  emitted : ε → Option φ
  input : φ → ι
  /-- What an input is fed with, if it is not one of the system's own. -/
  fed : ι → Option φ
  fed_input : ∀ x, fed (input x) = some x

namespace Wire

variable (wire : Wire ε₁ φ ι₂)

/-- What outputs feed. -/
def emittedOf : List ε₁ → List φ := List.filterMap wire.emitted

/-- What a history was fed. -/
def fedOf (h : List (σ₂ × ι₂)) : List φ := h.filterMap fun p => wire.fed p.2

/-- The steps of a history on inputs that were not fed. -/
def ownOf (h : List (σ₂ × ι₂)) : List (σ₂ × ι₂) := h.filter fun p => (wire.fed p.2).isNone

@[simp] theorem emittedOf_append (t u : List ε₁) :
    wire.emittedOf (t ++ u) = wire.emittedOf t ++ wire.emittedOf u := List.filterMap_append

@[simp] theorem fedOf_append (h h' : List (σ₂ × ι₂)) :
    wire.fedOf (h ++ h') = wire.fedOf h ++ wire.fedOf h' := List.filterMap_append

@[simp] theorem ownOf_append (h h' : List (σ₂ × ι₂)) :
    wire.ownOf (h ++ h') = wire.ownOf h ++ wire.ownOf h' := List.filter_append ..

/-- A history of inputs that are all fed. -/
theorem fedOf_eq_of_map_snd {h : List (σ₂ × ι₂)} {xs : List φ}
    (hinputs : h.map Prod.snd = xs.map wire.input) : wire.fedOf h = xs := by
  have hfed : wire.fedOf h = (h.map Prod.snd).filterMap wire.fed := by
    rw [fedOf, List.filterMap_map]
    rfl
  have hinverse : wire.fed ∘ wire.input = some := funext wire.fed_input
  rw [hfed, hinputs, List.filterMap_map, hinverse, List.filterMap_some]

theorem ownOf_eq_nil_of_map_snd {h : List (σ₂ × ι₂)} {xs : List φ}
    (hinputs : h.map Prod.snd = xs.map wire.input) : wire.ownOf h = [] := by
  refine List.filter_eq_nil_iff.mpr fun p hp => ?_
  obtain ⟨x, -, hx⟩ := List.mem_map.mp (hinputs ▸ List.mem_map_of_mem (f := Prod.snd) hp)
  simp [← hx, wire.fed_input]

end Wire

/-- The outputs of the first system. -/
def firstOf : List (ε₁ ⊕ ε₂) → List ε₁ := List.filterMap Sum.getLeft?

/-- The outputs of the second system. -/
def secondOf : List (ε₁ ⊕ ε₂) → List ε₂ := List.filterMap Sum.getRight?

/-- The steps of the first system in a history. -/
def firstHistory (h : List ((σ₁ × σ₂) × (ι₁ ⊕ ι₂))) : List (σ₁ × ι₁) :=
  h.filterMap fun p => p.2.getLeft?.map fun i => (p.1.1, i)

/-- The steps of the second system on inputs of its own. -/
def secondHistory (h : List ((σ₁ × σ₂) × (ι₁ ⊕ ι₂))) : List (σ₂ × ι₂) :=
  h.filterMap fun p => p.2.getRight?.map fun i => (p.1.2, i)

section

variable (h h' : List ((σ₁ × σ₂) × (ι₁ ⊕ ι₂)))

@[simp] theorem firstHistory_append :
    firstHistory (h ++ h') = firstHistory h ++ firstHistory h' := List.filterMap_append

@[simp] theorem secondHistory_append :
    secondHistory (h ++ h') = secondHistory h ++ secondHistory h' := List.filterMap_append

end

section

variable (t u : List (ε₁ ⊕ ε₂))

@[simp] theorem firstOf_append : firstOf (t ++ u) = firstOf t ++ firstOf u := List.filterMap_append

@[simp] theorem secondOf_append : secondOf (t ++ u) = secondOf t ++ secondOf u :=
  List.filterMap_append

end

@[simp] theorem firstOf_inl (t : List ε₁) : firstOf (t.map (Sum.inl : ε₁ → ε₁ ⊕ ε₂)) = t := by
  rw [firstOf, List.filterMap_map]
  exact List.filterMap_some

@[simp] theorem firstOf_inr (t : List ε₂) : firstOf (t.map (Sum.inr : ε₂ → ε₁ ⊕ ε₂)) = [] := by
  rw [firstOf, List.filterMap_map]
  exact List.filterMap_eq_nil_iff.mpr fun _ _ => rfl

@[simp] theorem secondOf_inl (t : List ε₁) : secondOf (t.map (Sum.inl : ε₁ → ε₁ ⊕ ε₂)) = [] := by
  rw [secondOf, List.filterMap_map]
  exact List.filterMap_eq_nil_iff.mpr fun _ _ => rfl

@[simp] theorem secondOf_inr (t : List ε₂) : secondOf (t.map (Sum.inr : ε₂ → ε₁ ⊕ ε₂)) = t := by
  rw [secondOf, List.filterMap_map]
  exact List.filterMap_some

/-- A step of the first system with what it feeds, or a step of the second on an input of its
own. -/
def cascade (wire : Wire ε₁ φ ι₂) (step₁ : σ₁ → ι₁ → Option (σ₁ × List ε₁))
    (step₂ : σ₂ → ι₂ → Option (σ₂ × List ε₂)) (s : σ₁ × σ₂) :
    ι₁ ⊕ ι₂ → Option ((σ₁ × σ₂) × List (ε₁ ⊕ ε₂))
  | .inl i =>
    (step₁ s.1 i).bind fun next =>
      (execute step₂ s.2 ((wire.emittedOf next.2).map wire.input)).map fun fed =>
        ((next.1, fed.1), next.2.map .inl ++ fed.2.map .inr)
  | .inr i =>
    if (wire.fed i).isSome then none
    else (step₂ s.2 i).map fun next => ((s.1, next.1), next.2.map .inr)

section

variable {wire : Wire ε₁ φ ι₂} {step₁ : σ₁ → ι₁ → Option (σ₁ × List ε₁)}
  {step₂ : σ₂ → ι₂ → Option (σ₂ × List ε₂)} {s₀ s : σ₁ × σ₂}
  {h : List ((σ₁ × σ₂) × (ι₁ ⊕ ι₂))} {t : List (ε₁ ⊕ ε₂)}

theorem cascade_inl {s' : σ₁ × σ₂} {i : ι₁} {out : List (ε₁ ⊕ ε₂)}
    (hstep : cascade wire step₁ step₂ s (.inl i) = some (s', out)) :
    step₁ s.1 i = some (s'.1, firstOf out) ∧
      execute step₂ s.2 ((wire.emittedOf (firstOf out)).map wire.input) =
        some (s'.2, secondOf out) := by
  obtain ⟨⟨s₁, out₁⟩, hfirst, hstep⟩ := Option.bind_eq_some_iff.mp hstep
  obtain ⟨⟨s₂, out₂⟩, hsecond, heq⟩ := Option.map_eq_some_iff.mp hstep
  obtain ⟨rfl, rfl⟩ := Prod.mk.inj heq
  simpa using ⟨hfirst, hsecond⟩

theorem cascade_inr {s' : σ₁ × σ₂} {i : ι₂} {out : List (ε₁ ⊕ ε₂)}
    (hstep : cascade wire step₁ step₂ s (.inr i) = some (s', out)) :
    wire.fed i = none ∧ s'.1 = s.1 ∧ firstOf out = [] ∧
      step₂ s.2 i = some (s'.2, secondOf out) := by
  obtain ⟨hown, hstep⟩ := Option.ite_none_left_eq_some.mp hstep
  obtain ⟨⟨s₂, out₂⟩, hsecond, heq⟩ := Option.map_eq_some_iff.mp hstep
  obtain ⟨rfl, rfl⟩ := Prod.mk.inj heq
  simpa using ⟨by simpa using hown, hsecond⟩

/-- What a run is for the first system. -/
theorem Run.upstream (hrun : Run (cascade wire step₁ step₂) s₀ h s t) :
    Run step₁ s₀.1 (firstHistory h) s.1 (firstOf t) := by
  induction hrun with
  | start => exact .start
  | @next h s s' t out i _ hstep ih =>
    rw [firstOf_append, firstHistory_append]
    cases i with
    | inl i => exact ih.next (cascade_inl hstep).1
    | inr i =>
      obtain ⟨-, hstate, hout, -⟩ := cascade_inr hstep
      have hother : firstHistory [(s, (.inr i : ι₁ ⊕ ι₂))] = [] := rfl
      rwa [hstate, hout, hother, List.append_nil, List.append_nil]

/-- What a run is for the second system, which is fed what the first emits. -/
theorem Run.downstream (hrun : Run (cascade wire step₁ step₂) s₀ h s t) :
    ∃ h₂, Run step₂ s₀.2 h₂ s.2 (secondOf t) ∧ wire.fedOf h₂ = wire.emittedOf (firstOf t) ∧
      wire.ownOf h₂ = secondHistory h := by
  induction hrun with
  | start => exact ⟨[], .start, rfl, rfl⟩
  | @next h s s' t out i _ hstep ih =>
    obtain ⟨h₂, hrun₂, hfed, hown⟩ := ih
    rw [secondOf_append, firstOf_append, wire.emittedOf_append, ← hfed, secondHistory_append,
      ← hown]
    cases i with
    | inl i =>
      obtain ⟨-, hsecond⟩ := cascade_inl hstep
      have hinputs := map_snd_history hsecond
      refine ⟨_, hrun₂.extend hsecond, ?_, ?_⟩
      · rw [wire.fedOf_append, wire.fedOf_eq_of_map_snd hinputs]
      · rw [wire.ownOf_append, wire.ownOf_eq_nil_of_map_snd hinputs]
        rfl
    | inr i =>
      obtain ⟨hnone, -, hout, hsecond⟩ := cascade_inr hstep
      refine ⟨h₂ ++ [(s.2, i)], hrun₂.next hsecond, ?_, ?_⟩
      · rw [wire.fedOf_append, hout]
        congr 1
        simp [Wire.fedOf, Wire.emittedOf, hnone]
      · rw [wire.ownOf_append]
        congr 1
        simp [Wire.ownOf, secondHistory, hnone]

end

end Machine
