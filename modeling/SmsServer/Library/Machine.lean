import Mathlib.Algebra.Ring.Nat
import Mathlib.Tactic.Common

/-!
# Transducers and runs of guarded transition systems

Two ways a program reacts to inputs, with the induction rules its verification uses.

* A **transducer** is a total step `σ → ι → σ × List ε`; `Transducer.run` feeds it a list of
  inputs and concatenates what it emits.
* A **guarded system** is a partial step `σ → ι → Option (σ × List ε)`, `none` where the input
  is not enabled. `Run step s₀ h s t` says that from `s₀` the steps recorded in `h` lead to `s`
  and emit `t`. The history `h` holds the state *before* each step, so a condition on the steps
  of a run is a condition on the members of `h`.
-/

namespace Machine

universe u v w

variable {σ : Type u} {ι : Type v} {ε : Type w}

namespace Transducer

/-- The state and the whole output after a list of inputs. -/
def run (step : σ → ι → σ × List ε) : σ → List ι → σ × List ε
  | s, [] => (s, [])
  | s, i :: is =>
    let next := step s i
    let rest := run step next.1 is
    (rest.1, next.2 ++ rest.2)

variable {step : σ → ι → σ × List ε}

@[simp] theorem run_nil (s : σ) : run step s [] = (s, []) := rfl

theorem run_cons (s : σ) (i : ι) (is : List ι) :
    run step s (i :: is) =
      ((run step (step s i).1 is).1, (step s i).2 ++ (run step (step s i).1 is).2) := rfl

/-- Feeding a concatenation is feeding its parts one after the other. -/
theorem run_append (s : σ) (is js : List ι) :
    run step s (is ++ js) =
      ((run step (run step s is).1 js).1,
        (run step s is).2 ++ (run step (run step s is).1 js).2) := by
  induction is generalizing s with
  | nil => simp
  | cons i is ih => simp only [List.cons_append, run_cons, ih, List.append_assoc]

/-- **Guarded invariant rule.** What every admissible input preserves, admissible inputs
preserve. -/
theorem run_invariant_of_guard {ok : ι → Prop} {P : σ → Prop}
    (hstep : ∀ s i, ok i → P s → P (step s i).1) {s : σ} (hs : P s) {is : List ι}
    (his : ∀ i ∈ is, ok i) : P (run step s is).1 := by
  induction is generalizing s with
  | nil => exact hs
  | cons i is ih =>
    exact ih (hstep s i (his i List.mem_cons_self) hs) fun j hj => his j (List.mem_cons_of_mem i hj)

/-- An invariant of the step is an invariant of every run. -/
theorem run_invariant {P : σ → Prop} (hstep : ∀ s i, P s → P (step s i).1) {s : σ}
    (hs : P s) (is : List ι) : P (run step s is).1 :=
  run_invariant_of_guard (fun s i _ => hstep s i) hs fun _ _ => trivial

end Transducer

/-! ### Guarded systems -/

/-- `Run step s₀ h s t`: from `s₀` the steps in `h` (state before, input) lead to `s` and
emit `t`. -/
inductive Run (step : σ → ι → Option (σ × List ε)) (s₀ : σ) :
    List (σ × ι) → σ → List ε → Prop
  | start : Run step s₀ [] s₀ []
  | next {h : List (σ × ι)} {s s' : σ} {t out : List ε} {i : ι} :
      Run step s₀ h s t → step s i = some (s', out) → Run step s₀ (h ++ [(s, i)]) s' (t ++ out)

namespace Run

variable {step : σ → ι → Option (σ × List ε)} {s₀ s : σ} {h : List (σ × ι)} {t : List ε}

/-- **Invariant rule**, with the history in sight: what holds at the start and is preserved by
every step holds after every run. -/
theorem induct {P : List (σ × ι) → σ → List ε → Prop} (hstart : P [] s₀ [])
    (hstep : ∀ h s t i s' out, Run step s₀ h s t → P h s t → step s i = some (s', out) →
      P (h ++ [(s, i)]) s' (t ++ out))
    (hrun : Run step s₀ h s t) : P h s t := by
  induction hrun with
  | start => exact hstart
  | next hrun hs ih => exact hstep _ _ _ _ _ _ hrun ih hs

/-- **Invariant rule** for a property of the state alone. -/
theorem invariant {Inv : σ → Prop} (hstart : Inv s₀)
    (hstep : ∀ s i s' out, Inv s → step s i = some (s', out) → Inv s')
    (hrun : Run step s₀ h s t) : Inv s :=
  induct (P := fun _ s _ => Inv s) hstart (fun _ s _ i s' out _ hi hs => hstep s i s' out hi hs)
    hrun

/-- **Guarded invariant rule**: the steps may be assumed to satisfy what every step of the
run is known to satisfy. -/
theorem induct_of_guard {G : σ → ι → Prop} {P : σ → List ε → Prop} (hstart : P s₀ [])
    (hstep : ∀ h s t i s' out, Run step s₀ h s t → P s t → G s i → step s i = some (s', out) →
      P s' (t ++ out))
    (hrun : Run step s₀ h s t) (hguard : ∀ p ∈ h, G p.1 p.2) : P s t := by
  induction hrun with
  | start => exact hstart
  | @next h s s' t out i hrun hs ih =>
    -- the guard of the whole history is that of the run before and that of the last step
    obtain ⟨hbefore, hlast⟩ := List.forall_mem_append.mp hguard
    exact hstep _ _ _ _ _ _ hrun (ih hbefore) (hlast (s, i) (List.mem_singleton_self _)) hs

/-- Runs are put together. -/
theorem append {s' : σ} {h' : List (σ × ι)} {t' : List ε} (hrun : Run step s₀ h s t)
    (hrun' : Run step s h' s' t') : Run step s₀ (h ++ h') s' (t ++ t') := by
  induction hrun' with
  | start => simpa using hrun
  | next _ hs ih => simpa using ih.next hs

/-- A run in which every step makes a measure smaller is no longer than the measure. -/
theorem length_le_of_measure {μ : σ → ℕ} {G : σ → ι → Prop}
    (hstep : ∀ s i s' out, G s i → step s i = some (s', out) → μ s' < μ s)
    (hrun : Run step s₀ h s t) (hguard : ∀ p ∈ h, G p.1 p.2) : h.length + μ s ≤ μ s₀ := by
  induction hrun with
  | start => simp
  | @next h s s' t out i hrun hs ih =>
    obtain ⟨hbefore, hlast⟩ := List.forall_mem_append.mp hguard
    have hsmaller := hstep s i s' out (hlast (s, i) (List.mem_singleton_self _)) hs
    have hlength := ih hbefore
    rw [List.length_append, List.length_singleton]
    omega

/-- **Component rule.** If every step of a system is a step of a component or leaves it alone, every
run of the system is a run of the component. -/
theorem component {σ' ι' ε' : Type*} {step' : σ' → ι' → Option (σ' × List ε')} {π : σ → σ'}
    {f : σ → ι → Option ι'} {g : ε → Option ε'}
    (hstep : ∀ s i s' out, step s i = some (s', out) →
      (∀ i', f s i = some i' → step' (π s) i' = some (π s', out.filterMap g)) ∧
        (f s i = none → π s' = π s ∧ out.filterMap g = []))
    (hrun : Run step s₀ h s t) :
    Run step' (π s₀) (h.filterMap fun p => (f p.1 p.2).map fun i' => (π p.1, i')) (π s)
      (t.filterMap g) := by
  induction hrun with
  | start => exact .start
  | @next h s s' t out i _ hs ih =>
    obtain ⟨hsome, hnone⟩ := hstep s i s' out hs
    rw [List.filterMap_append, List.filterMap_append]
    cases hi : f s i with
    | none =>
      obtain ⟨hstate, hout⟩ := hnone hi
      simpa [hi, hstate, hout] using ih
    | some i' => simpa [hi] using ih.next (hsome i' hi)

/-- The component rule where it does not matter which inputs the component gets. -/
theorem exists_component {σ' ι' ε' : Type*} {step' : σ' → ι' → Option (σ' × List ε')} {π : σ → σ'}
    {g : ε → Option ε'}
    (hstep : ∀ s i s' out, step s i = some (s', out) →
      (∃ i', step' (π s) i' = some (π s', out.filterMap g)) ∨
        π s' = π s ∧ out.filterMap g = [])
    (hrun : Run step s₀ h s t) : ∃ h', Run step' (π s₀) h' (π s) (t.filterMap g) := by
  induction hrun with
  | start => exact ⟨[], .start⟩
  | next _ hs ih =>
    obtain ⟨h', ih⟩ := ih
    rw [List.filterMap_append]
    rcases hstep _ _ _ _ hs with ⟨i', hs'⟩ | ⟨hstate, hout⟩
    · exact ⟨_, ih.next hs'⟩
    · rw [hstate, hout, List.append_nil]
      exact ⟨h', ih⟩

/-- **Splitting** a run at one of its steps. -/
theorem split (hrun : Run step s₀ h s t) {h₁ h₂ : List (σ × ι)} {p : σ × ι}
    (heq : h = h₁ ++ p :: h₂) :
    ∃ t₁ s' out t₂, Run step s₀ h₁ p.1 t₁ ∧ step p.1 p.2 = some (s', out) ∧
      Run step s' h₂ s t₂ ∧ t = t₁ ++ out ++ t₂ := by
  induction hrun generalizing h₂ with
  | start => simp at heq
  | @next h s s' t out i hrun hs ih =>
    -- the last step is `p` itself, or comes after it
    rcases List.eq_nil_or_concat h₂ with rfl | ⟨h₃, q, rfl⟩
    · obtain ⟨rfl, hlast⟩ := List.append_inj' heq rfl
      obtain rfl := List.singleton_inj.mp hlast
      exact ⟨t, s', out, [], hrun, hs, .start, (List.append_nil _).symm⟩
    · rw [List.concat_eq_append, ← List.cons_append, ← List.append_assoc] at heq
      obtain ⟨hbefore, hlast⟩ := List.append_inj' heq rfl
      obtain rfl := List.singleton_inj.mp hlast
      obtain ⟨t₁, s₁, out₁, t₂, hrun₁, hs₁, hrun₂, rfl⟩ := ih hbefore
      rw [List.concat_eq_append]
      exact ⟨t₁, s₁, out₁, t₂ ++ out, hrun₁, hs₁, hrun₂.next hs, by simp⟩

/-- Every recorded step starts in a state the run had reached, and its output is part of the
trace. -/
theorem of_mem_history (hrun : Run step s₀ h s t) {p : σ × ι} (hp : p ∈ h) :
    ∃ h₁ h₂ t₁ t₂ s' out, h = h₁ ++ p :: h₂ ∧ t = t₁ ++ out ++ t₂ ∧ Run step s₀ h₁ p.1 t₁ ∧
      step p.1 p.2 = some (s', out) := by
  obtain ⟨h₁, h₂, heq⟩ := List.append_of_mem hp
  obtain ⟨t₁, s', out, t₂, hrun₁, hs, -, ht⟩ := hrun.split heq
  exact ⟨h₁, h₂, t₁, t₂, s', out, heq, ht, hrun₁, hs⟩

end Run

/-- The state in which steps begin that lead to `s`. -/
def firstState (h : List (σ × ι)) (s : σ) : σ := (h.head?.map Prod.fst).getD s

namespace Run

variable {step : σ → ι → Option (σ × List ε)} {s₀ s : σ} {h : List (σ × ι)} {t : List ε}

theorem firstState_eq (hrun : Run step s₀ h s t) : firstState h s = s₀ := by
  induction hrun with
  | start => rfl
  | @next h s s' t out i hrun hs ih =>
    cases h with
    | nil => exact ih
    | cons p h => exact ih

/-- The first steps of a run. -/
theorem front {h₁ h₂ : List (σ × ι)} (hrun : Run step s₀ (h₁ ++ h₂) s t) :
    ∃ t₁, Run step s₀ h₁ (firstState h₂ s) t₁ := by
  cases h₂ with
  | nil => exact ⟨t, by rwa [List.append_nil] at hrun⟩
  | cons p h₂ =>
    obtain ⟨t₁, -, -, -, hrun₁, -⟩ := hrun.split rfl
    exact ⟨t₁, hrun₁⟩

end Run

/-- A measure that is the sum over many components, after a step of one of them. -/
theorem sum_map_set {α : Type*} (μ : α → ℕ) {l : List α} {i : ℕ} {a b : α} (h : l[i]? = some a) :
    ((l.set i b).map μ).sum + μ a = (l.map μ).sum + μ b := by
  induction l generalizing i with
  | nil => cases h
  | cons x l ih =>
    cases i with
    | zero =>
      obtain rfl := Option.some.inj h
      simp only [List.set_cons_zero, List.map_cons, List.sum_cons]
      omega
    | succ i =>
      have htail := ih (i := i) h
      simp only [List.set_cons_succ, List.map_cons, List.sum_cons]
      omega

/-- Executes a list of inputs, `none` where one is not enabled. -/
def execute (step : σ → ι → Option (σ × List ε)) : σ → List ι → Option (σ × List ε)
  | s, [] => some (s, [])
  | s, i :: is =>
    (step s i).bind fun next => (execute step next.1 is).map fun rest => (rest.1, next.2 ++ rest.2)

/-- The history an execution leaves. -/
def history (step : σ → ι → Option (σ × List ε)) : σ → List ι → List (σ × ι)
  | _, [] => []
  | s, i :: is => (s, i) :: (step s i).elim [] fun next => history step next.1 is

/-- An execution extends a run. -/
theorem Run.extend {step : σ → ι → Option (σ × List ε)} {s₀ s s' : σ} {h : List (σ × ι)}
    {t out : List ε} {is : List ι} (hrun : Run step s₀ h s t)
    (hexec : execute step s is = some (s', out)) :
    Run step s₀ (h ++ history step s is) s' (t ++ out) := by
  induction is generalizing s h t out with
  | nil =>
    obtain ⟨rfl, rfl⟩ : s = s' ∧ [] = out := by simpa [execute] using hexec
    simpa [history] using hrun
  | cons i is ih =>
    obtain ⟨⟨s₁, out₁⟩, hs, hexec⟩ := Option.bind_eq_some_iff.mp hexec
    obtain ⟨⟨s₂, out₂⟩, hrest, hexec⟩ := Option.map_eq_some_iff.mp hexec
    obtain ⟨rfl, rfl⟩ : s₂ = s' ∧ out₁ ++ out₂ = out := by simpa using hexec
    simpa [history, hs] using ih (hrun.next hs) hrest

theorem map_snd_history {step : σ → ι → Option (σ × List ε)} {s s' : σ} {out : List ε}
    {is : List ι} (hexec : execute step s is = some (s', out)) :
    (history step s is).map Prod.snd = is := by
  induction is generalizing s out with
  | nil => rfl
  | cons i is ih =>
    obtain ⟨⟨s₁, out₁⟩, hs, hexec⟩ := Option.bind_eq_some_iff.mp hexec
    obtain ⟨⟨s₂, out₂⟩, hrest, hexec⟩ := Option.map_eq_some_iff.mp hexec
    obtain ⟨rfl, -⟩ : s₂ = s' ∧ out₁ ++ out₂ = out := by simpa using hexec
    simp [history, hs, ih hrest]

/-- An execution is a run with the same inputs; what it computes is what the run reaches. -/
theorem Run.of_execute {β : Type*} (step : σ → ι → Option (σ × List ε)) (s₀ : σ) (is : List ι)
    (f : σ × List ε → β) {b : β} (hexec : (execute step s₀ is).map f = some b) :
    ∃ s t, (history step s₀ is).map Prod.snd = is ∧ Run step s₀ (history step s₀ is) s t ∧
      f (s, t) = b := by
  obtain ⟨⟨s, t⟩, hexec, hf⟩ := Option.map_eq_some_iff.mp hexec
  have hstart : Run step s₀ [] s₀ [] := .start
  exact ⟨s, t, map_snd_history hexec, by simpa using hstart.extend hexec, hf⟩

end Machine
