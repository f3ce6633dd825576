import SmsServer.Modem.Requests
import SmsServer.Modem.Status

/-!
# Responses and the requests they are for

Each request has a variant of `ModemResponse` of its own, and the code that reads a response takes
every other variant for an unexpected one. `commandResponder` makes the variant of the request or
fails, and all else that is responded is an error; so a call of `send_request` returns a response
that the worker gave to its own command, and one of the right variant (`returned_isFor`).
-/

namespace SmsServer

open RustStd Machine Effect
open RunState (reply)

variable {X : Crates}

namespace ModemResponse

/-- The response is an error, or the variant that the request asks for. -/
def IsFor : ModemResponse X → ModemRequest → Prop
  | error _, _ => True
  | sendResult _, .sendSms .. => True
  | networkStatus .., .getNetworkStatus => True
  | signalStrength .., .getSignalStrength => True
  | networkOperator .., .getNetworkOperator => True
  | serviceProvider _, .getServiceProvider => True
  | batteryLevel .., .getBatteryLevel => True
  | gnssStatus _, .getGnssStatus => True
  | gnssLocation _, .getGnssLocation => True
  | _, _ => False

theorem IsError.isFor {response : ModemResponse X} (h : response.IsError) (request : ModemRequest) :
    response.IsFor request := by
  cases response with
  | error => trivial
  | _ => exact h.elim

end ModemResponse

/-- A parser's data is put into the variant of the request. -/
theorem ModemEventHandlers.commandResponder_isFor {request : ModemRequest} {text : Str}
    {response : ModemResponse X} (h : commandResponder request text = .ok response) :
    response.IsFor request := by
  have hbind : ∀ {A : Type} {parsed : Except Str A} {f : A → ModemResponse X},
      (do let data ← parsed; return f data : Except Str (ModemResponse X)) = .ok response →
      ∃ data, response = f data := by
    intro A parsed f h
    cases parsed with
    | error => cases h
    | ok data => exact ⟨data, (Except.ok.inj h).symm⟩
  unfold commandResponder at h
  split at h
  · cases h
  · cases request <;> obtain ⟨data, rfl⟩ := hbind h <;> trivial

namespace RunState

variable {display : TransitionError X → Str} {config : ModemConfig} {port : Port}
  {h : List (RunState × Input)} {s : RunState} {t : List (Effect X)}

/-- Whatever a command is responded with is for its request. -/
theorem run_isFor (hrun : Run (step display) (start X config port) h s t) {c : OutgoingCommand}
    {response : ModemResponse X} {delivered : Bool} (h : .respond c response delivered ∈ t) :
    response.IsFor c.request := by
  revert h
  refine hrun.induct (P := fun _ _ t => .respond c response delivered ∈ t →
    response.IsFor c.request) (by simp) ?_
  intro h s t input s' out hrun ih hstep hresponse
  rcases List.mem_append.mp hresponse with hresponse | hresponse
  · exact ih hresponse
  · by_cases herror : response.IsError
    · exact herror.isFor c.request
    · obtain ⟨text, -, hparsed⟩ :=
        (step_move hstep).of_success (run_provenance hrun) hresponse herror
      exact ModemEventHandlers.commandResponder_isFor hparsed

end RunState

namespace RequestState

open RequestEffect

variable {display : TransitionError X → Str} {config : ModemConfig} {port : Port}
  {h : List (RequestState X × RequestInput)} {s : RequestState X} {t : List (RequestEffect X)}

/-- A delivered response was given to a command with that channel. -/
theorem exists_respond {t : List (Effect X)} {tx : ReplyId} {response : ModemResponse X}
    (h : (tx, response) ∈ deliveredOf t) : ∃ c, .respond c response true ∈ t ∧ reply c = tx := by
  obtain ⟨e, he, heq⟩ := List.mem_filterMap.mp h
  cases e with
  | respond c response' delivered =>
    cases delivered with
    | true =>
      obtain ⟨rfl, rfl⟩ := Prod.mk.inj (Option.some_inj.mp heq)
      exact ⟨c, he, rfl⟩
    | false => cases heq
  | _ => cases heq

/-- What is in the response channels was given to a command with that channel. -/
theorem run_responses (hrun : Run (step display) (start X config port) h s t) :
    ∀ r ∈ s.responses, r ∈ deliveredOf (workerOf t) := by
  refine hrun.induct (P := fun _ s t => ∀ r ∈ s.responses, r ∈ deliveredOf (workerOf t))
    (by simp [start]) ?_
  intro h s t input s' out _ ih hstep r hr
  have hbefore : r ∈ s.responses → r ∈ deliveredOf (workerOf (t ++ out)) := fun hr => by
    rw [workerOf_append, deliveredOf, List.filterMap_append]
    exact List.mem_append_left _ (ih r hr)
  cases step_turn hstep with
  | worked input loop out hinput hwork =>
    rcases List.mem_append.mp hr with hr | hr
    · exact hbefore hr
    · rw [workerOf_append, workerOf_map, deliveredOf, List.filterMap_append]
      exact List.mem_append_right _ hr
  | _ => exact hbefore hr

/-- The signal strengths that calls returned. -/
def signalStrengthsOf : List (RequestEffect X) → List (OutgoingCommand × Int32 × Int32) :=
  List.filterMap fun
    | .returned c (.ok (.signalStrength rssi ber)) => some (c, rssi, ber)
    | _ => none

theorem mem_signalStrengthsOf {c : OutgoingCommand} {rssi ber : Int32}
    (h : (c, rssi, ber) ∈ signalStrengthsOf t) :
    .returned c (.ok (.signalStrength rssi ber)) ∈ t := by
  obtain ⟨e, he, heq⟩ := List.mem_filterMap.mp h
  split at heq
  · obtain ⟨rfl, rfl, rfl⟩ : _ = c ∧ _ = rssi ∧ _ = ber := by simpa using heq
    exact he
  · cases heq

/-- The response that a call returns was given to the command of this call. -/
theorem returned_given (hrun : Run (step display) (start X config port) h s t)
    {c : OutgoingCommand} {response : ModemResponse X}
    (hreturned : .returned c (.ok response) ∈ t) : .worker (.respond c response true) ∈ t := by
  revert hreturned
  refine hrun.induct (P := fun _ _ t => .returned c (.ok response) ∈ t →
    .worker (.respond c response true) ∈ t) (by simp) ?_
  intro h s t input s' out hrun ih hstep hreturned
  rcases List.mem_append.mp hreturned with hreturned | hreturned
  · exact List.mem_append_left _ (ih hreturned)
  · refine List.mem_append_left _ ?_
    cases step_turn hstep with
    | elapsed => cases hreturned
    | queued => cases hreturned
    | refused => simp at hreturned
    | worked => simp at hreturned
    | returned call result hcall hresult =>
      obtain ⟨rfl, rfl⟩ : c = call.command ∧ .ok response = result := by simpa using hreturned
      obtain ⟨c', hc', hreply⟩ :=
        exists_respond (run_responses hrun _ (mem_of_result?_ok hresult))
      -- the command with this channel was taken, and it is the only one
      have htaken : c' ∈ takenOf (workerOf t) := by
        obtain ⟨_, hloop⟩ := run_loop hrun
        refine (RunState.run_accounts hloop).mem_iff.mpr (List.mem_append_left _ ?_)
        exact List.mem_append_left _ (List.mem_filterMap.mpr ⟨_, hc', rfl⟩)
      obtain rfl := run_reply_inj hrun (List.mem_append_left _ htaken)
        ((run_tracked hrun).waiting call hcall) hreply
      exact mem_workerOf.mp hc'

theorem run_isFor (hrun : Run (step display) (start X config port) h s t) {c : OutgoingCommand}
    {response : ModemResponse X} (hreturned : .returned c (.ok response) ∈ t) :
    response.IsFor c.request := by
  obtain ⟨_, hloop⟩ := run_loop hrun
  exact RunState.run_isFor hloop (mem_workerOf.mpr (returned_given hrun hreturned))

/-- **The right response.** In every run of the worker and its requesters, a call of `send_request`
that returns a response returns one that the worker gave to the command of this call, and it is an
error or the variant that the request asks for. -/
theorem returned_isFor (hrun : Run (step display) (start X config port) h s t)
    {c : OutgoingCommand} {response : ModemResponse X}
    (hreturned : .returned c (.ok response) ∈ t) :
    .worker (.respond c response true) ∈ t ∧ response.IsFor c.request :=
  ⟨returned_given hrun hreturned, run_isFor hrun hreturned⟩

/-- The signal strength is asked for and returned. -/
theorem returned_isFor_signalStrength :
    ∃ (h : List (RequestState .rejecting × RequestInput)) (s : RequestState .rejecting)
      (t : List (RequestEffect .rejecting)) (c : OutgoingCommand),
      Run (step fun _ => []) (start .rejecting .default .ready) h s t ∧
      c.request = .getSignalStrength ∧ .returned c (.ok (.signalStrength 20 99)) ∈ t ∧
      .worker (.respond c (.signalStrength 20 99) true) ∈ t := by
  obtain ⟨s, t, -, hrun, hreturned⟩ := Run.of_execute (step (X := .rejecting) fun _ => [])
    (start .rejecting .default .ready)
    [.sendRequest .getSignalStrength none, .work (.command 0), .work (.workerEvent (.ok ())),
      .work (.read (.ok (encodeUtf8 "+CSQ: 20,99\r\n\r\nOK\r\n".toList))), .work .lineEvent,
      .work .lineEvent, .poll ⟨.new 1 0 .getSignalStrength none, 90000⟩]
    (fun r => signalStrengthsOf r.2)
    (b := [(.new 1 0 .getSignalStrength none, 20, 99)]) (by decide +kernel)
  have hmem : .returned (.new 1 0 .getSignalStrength none) (.ok (.signalStrength 20 99)) ∈ t :=
    mem_signalStrengthsOf (hreturned ▸ List.mem_singleton_self _)
  exact ⟨_, s, t, _, hrun, rfl, hmem, (returned_isFor hrun hmem).1⟩

end RequestState

end SmsServer
