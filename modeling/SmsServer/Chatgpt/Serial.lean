import SmsServer.Chatgpt.Order

/-!
# Webhooks one after the other

If the webhook of the ChatGPT example is called only when the call before has returned, no two calls
look for a queue at the same time, so no call replaces one, and each number is replied to in the
order in which the webhook was called (`answered_serial`). This is how `WebhookWorker` calls it,
which takes up an event when the requests for the last one are answered.
-/

namespace SmsServer.Chatgpt

open RustStd Machine

/-- The message of a call until it is in a queue. -/
def CallStage.task? : CallStage → Option MessageTask
  | lookingUp task | creating task | sending task _ => some task
  | returned => none

/-- The message for which the webhook is called, if it is one of the number. -/
def Input.taskFor (phoneNumber : Str) : Input → List MessageTask
  | webhook payload => payload.task?.toList.filter (·.phoneNumber = phoneNumber)
  | _ => []

namespace Server

variable {D : DashMaps} {s s' : Server D} {input : Input} {out t : List Effect}
  {h : List (Server D × Input)}
  {phoneNumber : Str}

/-- The webhook is called when all calls have returned. -/
def Waits (self : Server D) : Input → Prop
  | .webhook _ => ∀ call ∈ self.calls, call = .returned
  | _ => True

instance (self : Server D) : ∀ input, Decidable (self.Waits input)
  | .webhook _ => inferInstanceAs (Decidable (∀ call ∈ self.calls, call = .returned))
  | .call _ | .worker _ _ => inferInstanceAs (Decidable True)

/-- The messages of a number whose calls have not returned. -/
def callsFor (self : Server D) (phoneNumber : Str) : List MessageTask :=
  (self.calls.filterMap CallStage.task?).filter (·.phoneNumber = phoneNumber)

/-- The messages of a number in the order in which the webhook was called. -/
def calledFor (phoneNumber : Str) (h : List (Server D × Input)) : List MessageTask :=
  h.flatMap fun p => p.2.taskFor phoneNumber

/-- Only the last call has not returned, and if it found no queue, there is none. -/
structure Serial (s : Server D) : Prop where
  calls : ∃ n active, s.calls = List.replicate n .returned ++ Option.toList active
  creating : ∀ task, CallStage.creating task ∈ s.calls →
    D.get s.phoneQueues task.phoneNumber = none

@[simp] theorem filterMap_task_replicate (n : ℕ) :
    (List.replicate n CallStage.returned).filterMap CallStage.task? = [] := by
  refine List.filterMap_eq_nil_iff.mpr fun call hmem => ?_
  rw [List.eq_of_mem_replicate hmem]
  rfl

/-- A step of the call that has not returned. -/
theorem Serial.set (hserial : s.Serial) {i : ℕ} {call : CallStage}
    (hcall : s.calls[i]? = some call) (hactive : call ≠ .returned) :
    ∃ n, s.calls = List.replicate n .returned ++ [call] ∧
      ∀ call', s.calls.set i call' = List.replicate n .returned ++ [call'] := by
  obtain ⟨n, active, hcalls⟩ := hserial.calls
  have hi : i = n ∧ active = some call := by
    rw [hcalls] at hcall
    rcases Nat.lt_or_ge i n with hlt | hge
    · rw [List.getElem?_append_left (by simpa using hlt), List.getElem?_replicate, if_pos hlt]
        at hcall
      exact absurd (Option.some.inj hcall).symm hactive
    · rw [List.getElem?_append_right (by simpa using hge), List.length_replicate] at hcall
      cases active with
      | none => cases hcall
      | some call' =>
        obtain ⟨hlt, heq⟩ := List.getElem?_eq_some_iff.mp hcall
        have hi : i - n = 0 := by simpa using hlt
        exact ⟨by omega, by simpa [hi] using hcall⟩
  obtain ⟨rfl, rfl⟩ := hi
  refine ⟨i, hcalls, fun call' => ?_⟩
  rw [hcalls, List.set_append_right _ _ (by simp)]
  simp

theorem callsFor_eq {n : ℕ} {call : CallStage}
    (hcalls : s.calls = List.replicate n .returned ++ [call]) :
    s.callsFor phoneNumber = call.task?.toList.filter (·.phoneNumber = phoneNumber) := by
  rw [callsFor, hcalls, List.filterMap_append, filterMap_task_replicate, List.nil_append]
  cases h : call.task? with
  | none => simp [h]
  | some task => simp [h]

theorem Serial.new : Serial (Server.new : Server D) where
  calls := ⟨0, none, rfl⟩
  creating := by
    intro task hmem
    cases hmem

/-- A call that takes the place of the one that has not returned. -/
theorem Serial.of_set (hserial : s.Serial) {i : ℕ} {call call' : CallStage}
    (hcall : s.calls[i]? = some call) (hactive : call ≠ .returned)
    (hcalls : s'.calls = s.calls.set i call')
    (hcreating : ∀ task, call' = .creating task →
      D.get s'.phoneQueues task.phoneNumber = none) : s'.Serial := by
  obtain ⟨n, -, hset⟩ := hserial.set hcall hactive
  refine ⟨⟨n, some call', hcalls.trans (hset call')⟩, fun task hmem => ?_⟩
  rw [hcalls, hset, List.mem_append, List.mem_singleton] at hmem
  rcases hmem with hmem | heq
  · cases List.eq_of_mem_replicate hmem
  · exact hcreating task heq.symm

/-- A step leaves at most one call, if the webhook is called when all have returned. -/
theorem Move.serial (hmove : Move s input s' out) (hserial : s.Serial) (hwaits : s.Waits input) :
    s'.Serial := by
  cases hmove with
  | called payload task htask =>
    refine ⟨⟨s.calls.length, some (.lookingUp task), ?_⟩, fun task' hmem => ?_⟩
    · exact congrArg (· ++ [_]) (List.eq_replicate_of_mem hwaits)
    · rcases List.mem_append.mp hmem with hmem | hmem
      · cases hwaits _ hmem
      · cases List.mem_singleton.mp hmem
  | found i task queue hcall hqueue =>
    exact hserial.of_set hcall (by simp) rfl (by simp)
  | missed i task hcall hqueue =>
    refine hserial.of_set hcall (by simp) rfl fun task' heq => ?_
    obtain rfl := CallStage.creating.inj heq
    exact hqueue
  | created i task hcall => exact hserial.of_set hcall (by simp) rfl (by simp)
  | dropped i task queue q hcall hq hended => exact hserial.of_set hcall (by simp) rfl (by simp)
  | accepted i task queue q hcall hq => exact hserial.of_set hcall (by simp) rfl (by simp)
  | ended i outcome number waiting hq =>
    refine ⟨hserial.calls, fun task hmem => ?_⟩
    have hnone := hserial.creating task hmem
    by_cases heq : task.phoneNumber = number
    · subst heq
      exact DashMaps.get_remove_self
    · exact (DashMaps.get_remove_of_ne heq).trans hnone
  | refused payload status error => exact hserial
  | _ => exact ⟨hserial.calls, hserial.creating⟩

theorem Serial.replaces (hserial : s.Serial) (input : Input) : s.replaces input = false := by
  cases input with
  | call i =>
    rw [Server.replaces]
    split
    · next task hcall =>
      rw [hserial.creating task (List.mem_of_getElem? hcall)]
      rfl
    · rfl
  | _ => rfl

/-- What a call for a number brings is accepted when the call returns. -/
theorem Move.calledFor (hmove : Move s input s' out) (hwf : s.WellFormed) (hserial : s.Serial)
    (hwaits : s.Waits input) (phoneNumber : Str) :
    s.callsFor phoneNumber ++ input.taskFor phoneNumber =
      acceptedFor phoneNumber out ++ s'.callsFor phoneNumber := by
  cases hmove with
  | refused payload status error hstatus htask =>
    rw [Input.taskFor, htask]
    exact List.append_nil _
  | called payload task htask =>
    have hcalls : s.calls = List.replicate s.calls.length .returned ++ Option.toList none :=
      (List.eq_replicate_of_mem hwaits).trans (List.append_nil _).symm
    rw [Input.taskFor, htask, callsFor, callsFor, List.filterMap_append, hcalls]
    simp [acceptedFor, CallStage.task?]
  | found i task queue hcall hqueue =>
    obtain ⟨n, hbefore, hset⟩ := hserial.set hcall (by simp)
    rw [callsFor_eq hbefore, callsFor_eq (hset _)]
    exact List.append_nil _
  | missed i task hcall hqueue =>
    obtain ⟨n, hbefore, hset⟩ := hserial.set hcall (by simp)
    rw [callsFor_eq hbefore, callsFor_eq (hset _)]
    exact List.append_nil _
  | created i task hcall =>
    obtain ⟨n, hbefore, hset⟩ := hserial.set hcall (by simp)
    rw [callsFor_eq hbefore, callsFor_eq (hset _)]
    exact List.append_nil _
  | dropped i task queue q hcall hq hended =>
    obtain ⟨q₀, hq₀, -, hopen⟩ := hwf.held task queue (List.mem_of_getElem? hcall)
    obtain rfl := Option.some.inj (hq.symm.trans hq₀)
    exact absurd (.inr hended) hopen
  | accepted i task queue q hcall hq =>
    obtain ⟨n, hbefore, hset⟩ := hserial.set hcall (by simp)
    rw [callsFor_eq hbefore, callsFor_eq (hset _)]
    by_cases h : task.phoneNumber = phoneNumber
    · simp [CallStage.task?, acceptedFor, Input.taskFor, h]
    · simp [CallStage.task?, acceptedFor, Input.taskFor, h]
  | worked i outcome q q' histories out hq hwork =>
    have hout : acceptedFor phoneNumber out = [] := by
      cases hwork <;> rfl
    rw [hout]
    exact List.append_nil _
  | closed i outcome number hq | ended i outcome number waiting hq => exact List.append_nil _

theorem acceptedFor_append (phoneNumber : Str) (before after : List Effect) :
    acceptedFor phoneNumber (before ++ after) =
      acceptedFor phoneNumber before ++ acceptedFor phoneNumber after :=
  List.filterMap_append

/-- Where the webhook is called when all calls have returned, no call replaces a queue, and the
messages are accepted in the order of the calls. -/
theorem run_serial (hrun : Run step Server.new h s t) (hwaits : ∀ p ∈ h, p.1.Waits p.2) :
    s.Serial ∧ (∀ p ∈ h, p.1.replaces p.2 = false) ∧
      ∀ phoneNumber, acceptedFor phoneNumber t ++ s.callsFor phoneNumber =
        calledFor phoneNumber h := by
  refine hrun.induct (P := fun h s t => (∀ p ∈ h, p.1.Waits p.2) → s.Serial ∧
    (∀ p ∈ h, p.1.replaces p.2 = false) ∧ ∀ phoneNumber, acceptedFor phoneNumber t ++
      s.callsFor phoneNumber = calledFor phoneNumber h)
    (fun _ => ⟨.new, fun p hp => (by cases hp), fun _ => rfl⟩) ?_ hwaits
  intro h s t input s' out hrun ih hstep hwaits
  obtain ⟨hbefore, hlast⟩ := List.forall_mem_append.mp hwaits
  obtain ⟨hserial, hreplaces, hcalled⟩ := ih hbefore
  have hmove := step_move hstep
  have hwaits' : s.Waits input := hlast _ (List.mem_singleton_self _)
  refine ⟨hmove.serial hserial hwaits', ?_, fun phoneNumber => ?_⟩
  · exact List.forall_mem_append.mpr
      ⟨hreplaces, List.forall_mem_singleton.mpr (hserial.replaces input)⟩
  · have hthis := hmove.calledFor (run_wellFormed hrun) hserial hwaits' phoneNumber
    rw [acceptedFor_append, List.append_assoc, ← hthis, ← List.append_assoc, hcalled, calledFor,
      calledFor, List.flatMap_append, List.flatMap_singleton]

/-- **One after the other.** If the webhook is called only when all calls have returned, the
messages of each number are replied to in the order in which it was called: those replied to, those
pending and the one whose call has not returned are those it was called for. When no step is left,
all are replied to. -/
theorem answered_serial (hrun : Run step Server.new h s t) (hwaits : ∀ p ∈ h, p.1.Waits p.2)
    (phoneNumber : Str) :
    repliedFor phoneNumber t ++ s.pendingFor phoneNumber ++ s.callsFor phoneNumber =
        calledFor phoneNumber h ∧
      ((∀ input, input.IsInternal → s.step input = none) →
        repliedFor phoneNumber t = calledFor phoneNumber h) := by
  obtain ⟨-, hreplaces, hcalled⟩ := run_serial hrun hwaits
  have horder := run_inOrder hrun hreplaces phoneNumber
  have hall : repliedFor phoneNumber t ++ s.pendingFor phoneNumber ++ s.callsFor phoneNumber =
      calledFor phoneNumber h := by
    rw [horder, hcalled]
  refine ⟨hall, fun hstuck => ?_⟩
  obtain ⟨hcalls, hqueues⟩ := settled_of_stuck (run_wellFormed hrun) hstuck
  have hpending : s.pendingFor phoneNumber = [] := by
    rw [pendingFor]
    cases hlookup : D.get s.phoneQueues phoneNumber with
    | none => rfl
    | some queue =>
      obtain ⟨q, hq, -⟩ := (run_wellFormed hrun).stored phoneNumber queue hlookup
      exact (pending_eq hq).trans (hqueues queue q hq).1
  have hnone : s.callsFor phoneNumber = [] := by
    rw [callsFor, List.eq_replicate_of_mem hcalls, filterMap_task_replicate]
    rfl
  rw [← hall, hpending, hnone, List.append_nil, List.append_nil]

/-- The second message comes while the first is processed. -/
theorem answered_serial_twoMessages :
    ∃ (h : List (Server .ofAList × Input)) (s : Server .ofAList) (t : List Effect),
      Run step Server.new h s t ∧
      calledFor "+1".toList h = [⟨"+1".toList, "Hi".toList⟩, ⟨"+1".toList, "#".toList⟩] ∧
      repliedFor "+1".toList t = [⟨"+1".toList, "Hi".toList⟩] ∧
      repliedFor "+1".toList t ++ s.pendingFor "+1".toList ++ s.callsFor "+1".toList =
        calledFor "+1".toList h := by
  let inputs : List Input :=
    [.webhook ⟨"incoming".toList, "+1".toList, "Hi".toList⟩, .call 0, .call 0, .call 0,
      .worker 0 (.error []), .webhook ⟨"incoming".toList, "+1".toList, "#".toList⟩, .call 1,
      .worker 0 (.error []), .worker 0 (.error "timed out".toList), .worker 0 (.error []),
      .worker 0 (.error [])]
  obtain ⟨s, t, -, hrun, hreplied⟩ := Run.of_execute step (Server.new (D := .ofAList)) inputs
    (fun r => repliedFor "+1".toList r.2) (b := [⟨"+1".toList, "Hi".toList⟩]) (by decide +kernel)
  have hall : (history step (Server.new (D := .ofAList)) inputs).all
      (fun p => decide (p.1.Waits p.2)) = true := by
    decide +kernel
  have hwaits : ∀ p ∈ history step (Server.new (D := .ofAList)) inputs, p.1.Waits p.2 := by
    simpa using hall
  exact ⟨_, s, t, hrun, by decide +kernel, hreplied, (answered_serial hrun hwaits _).1⟩

end Server

end SmsServer.Chatgpt
