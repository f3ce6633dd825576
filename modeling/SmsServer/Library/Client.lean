import Mathlib.Control.Monad.Basic

/-!
# Clients of a service

A `Client` either is done or makes a call and goes on with what the call returns. What a client can
do is told by its dialogues: the calls it made, each with what it returned, and its result. A
dialogue of two clients in sequence is a dialogue of the first and then one of the second
(`dialogue_bind`), and for clients that may fail the second one is left out if the first fails
(`dialogue_exceptBind`). A client that is under way is followed by `Leads`.
-/

universe u

/-- A computation that calls a service: requests in `Q`, what a call returns in `R`. -/
inductive Client (Q R A : Type u) : Type u
  | done (result : A)
  | call (request : Q) (next : R → Client Q R A)

namespace Client

variable {Q R A B E : Type u}

def bind : Client Q R A → (A → Client Q R B) → Client Q R B
  | done result, f => f result
  | call request next, f => call request fun response => (next response).bind f

instance : Monad (Client Q R) where
  pure := done
  bind := bind

/-- A single call, with what it returns as the result. -/
def ask (request : Q) : Client Q R R := call request done

/-- The client makes the calls of the log one after the other, and with what they return it comes to
the result. -/
def Dialogue : Client Q R A → List (Q × R) → A → Prop
  | done result, log, a => log = [] ∧ a = result
  | call request next, log, a =>
    ∃ response rest, log = (request, response) :: rest ∧ (next response).Dialogue rest a

section

variable {log : List (Q × R)} {a : A} {b : B}

@[simp] theorem dialogue_done {result : A} : (done result).Dialogue log a ↔ log = [] ∧ a = result :=
  Iff.rfl

@[simp] theorem dialogue_pure {result : A} :
    (pure result : Client Q R A).Dialogue log a ↔ log = [] ∧ a = result :=
  Iff.rfl

@[simp] theorem dialogue_ask {request : Q} {response : R} :
    (ask request : Client Q R R).Dialogue log response ↔ log = [(request, response)] := by
  constructor
  · rintro ⟨_, _, rfl, rfl, rfl⟩
    rfl
  · rintro rfl
    exact ⟨response, [], rfl, rfl, rfl⟩

/-- **Sequence rule.** -/
theorem dialogue_bind {x : Client Q R A} {f : A → Client Q R B} :
    (x >>= f).Dialogue log b ↔
      ∃ log₁ log₂ a, log = log₁ ++ log₂ ∧ x.Dialogue log₁ a ∧ (f a).Dialogue log₂ b := by
  show (x.bind f).Dialogue log b ↔ _
  induction x generalizing log with
  | done result =>
    constructor
    · intro h
      exact ⟨[], log, result, rfl, ⟨rfl, rfl⟩, h⟩
    · rintro ⟨_, log₂, _, rfl, ⟨rfl, rfl⟩, h⟩
      exact h
  | call request next ih =>
    constructor
    · rintro ⟨response, rest, rfl, h⟩
      obtain ⟨log₁, log₂, a, rfl, hx, hf⟩ := (ih response).mp h
      exact ⟨(request, response) :: log₁, log₂, a, rfl, ⟨response, log₁, rfl, hx⟩, hf⟩
    · rintro ⟨_, log₂, a, rfl, ⟨response, log₁, rfl, hx⟩, hf⟩
      exact ⟨response, log₁ ++ log₂, rfl, (ih response).mpr ⟨log₁, log₂, a, rfl, hx, hf⟩⟩

theorem dialogue_map {x : Client Q R A} {f : A → B} :
    (f <$> x).Dialogue log b ↔ ∃ a, x.Dialogue log a ∧ b = f a := by
  refine dialogue_bind.trans ⟨?_, ?_⟩
  · rintro ⟨log₁, _, a, rfl, hx, rfl, rfl⟩
    exact ⟨a, by rwa [List.append_nil], rfl⟩
  · rintro ⟨a, hx, rfl⟩
    exact ⟨log, [], a, (List.append_nil log).symm, hx, rfl, rfl⟩

/-- After the calls of the log, the first client goes on as the second one. -/
def Leads (x : Client Q R A) (log : List (Q × R)) (y : Client Q R A) : Prop :=
  ∀ rest a, y.Dialogue rest a → x.Dialogue (log ++ rest) a

theorem Leads.refl (x : Client Q R A) : x.Leads [] x := fun _ _ h => h

theorem Leads.next {x : Client Q R A} {request : Q} {next : R → Client Q R A}
    (h : x.Leads log (call request next)) (response : R) :
    x.Leads (log ++ [(request, response)]) (next response) := by
  intro rest a hrest
  rw [List.append_assoc]
  exact h _ a ⟨response, rest, rfl, hrest⟩

theorem Leads.dialogue {x : Client Q R A} (h : x.Leads log (done a)) : x.Dialogue log a := by
  simpa using h [] a ⟨rfl, rfl⟩

/-! ### Clients that may fail -/

@[simp] theorem dialogue_run_pure {result : A} {outcome : Except E A} :
    (pure result : ExceptT E (Client Q R) A).run.Dialogue log outcome ↔
      log = [] ∧ outcome = .ok result :=
  Iff.rfl

@[simp] theorem dialogue_run_throw {error : E} {outcome : Except E A} :
    (throw error : ExceptT E (Client Q R) A).run.Dialogue log outcome ↔
      log = [] ∧ outcome = .error error :=
  Iff.rfl

/-- **Sequence rule** for clients that may fail. -/
theorem dialogue_exceptBind {x : ExceptT E (Client Q R) A} {f : A → ExceptT E (Client Q R) B}
    {outcome : Except E B} :
    (x >>= f).run.Dialogue log outcome ↔
      (∃ error, x.run.Dialogue log (.error error) ∧ outcome = .error error) ∨
        ∃ log₁ log₂ a, log = log₁ ++ log₂ ∧ x.run.Dialogue log₁ (.ok a) ∧
          (f a).run.Dialogue log₂ outcome := by
  refine dialogue_bind.trans ⟨?_, ?_⟩
  · rintro ⟨log₁, log₂, outcome₁, rfl, hx, hf⟩
    cases outcome₁ with
    | error error =>
      obtain ⟨rfl, rfl⟩ := hf
      exact .inl ⟨error, (List.append_nil log₁).symm ▸ hx, rfl⟩
    | ok a => exact .inr ⟨log₁, log₂, a, rfl, hx, hf⟩
  · rintro (⟨error, hx, rfl⟩ | ⟨log₁, log₂, a, rfl, hx, hf⟩)
    · exact ⟨log, [], .error error, by simp, hx, rfl, rfl⟩
    · exact ⟨log₁, log₂, .ok a, rfl, hx, hf⟩

end

end Client
