import SmsServer.Modem.Submission

/-!
# Requests that time out

The calls of `ModemSender::send_request` beside the status loop, under one clock. A call waits
from the moment its command is queued, the worker's timeout runs from the moment the command is
started. A call that gives up leaves its command in the queue, and the closed response channel is
the only trace of it.

`failed_undone_iff` shows that a request reported as failed is carried out later exactly if the
online worker takes a command whose response channel is closed.
-/

namespace SmsServer

open RustStd Machine Effect RunState ModemEventHandlers

variable {X : Crates}

/-! ### Who the worker writes for -/

namespace RunState

variable {s s' : RunState} {input : Input} {out : List (Effect X)}

/-- A command is held since it was started, and what is queued is queued for a held one. -/
theorem Move.owners (hmove : Move s input s' out) :
    (∀ c ∈ s'.machine.held, c ∈ s.machine.held ∨ .started c ∈ out) ∧
      ∀ e ∈ s'.events, e ∈ s.events ∨ ∀ c ∈ e.2, c ∈ s.machine.held ∨ .started c ∈ out := by
  cases hmove with
  | statusEvent _ _ _ _ _ hevents =>
    exact ⟨fun _ => .inl, fun e he => .inl (by rw [hevents]; exact List.mem_cons_of_mem _ he)⟩
  | written _ _ _ hevents =>
    exact ⟨fun _ => .inl, fun e he => .inl (by rw [hevents]; exact List.mem_cons_of_mem _ he)⟩
  | writeFailed _ _ _ _ _ _ _ hevents =>
    exact ⟨by simp, fun e he => .inl (by rw [hevents]; exact List.mem_cons_of_mem _ he)⟩
  | started now cmd =>
    refine ⟨fun c hc => .inr ?_, fun e he => .inr fun c hc => .inr ?_⟩
    · obtain rfl := List.mem_singleton.mp hc
      simp
    · obtain rfl := List.mem_singleton.mp he
      obtain rfl := Option.some_inj.mp hc
      simp
  | readFailed => exact ⟨by simp, fun _ => .inl⟩
  | transition event =>
    have haccounts := s.machine.transitionState_accounts (X := X) s.peers event
    refine ⟨fun c hc => .inl ?_, fun e he => ?_⟩
    · rw [haccounts]
      exact List.mem_append_left _ (List.mem_append_right _ hc)
    · rcases List.mem_append.mp he with he | he
      · exact .inl he
      · obtain ⟨_, -, rfl⟩ := List.mem_map.mp he
        exact .inr fun c hc => .inl (List.mem_of_mem_head? hc)
  | drained => exact ⟨by simp, fun _ => .inl⟩
  | timedOut => exact ⟨by simp, fun _ => .inl⟩
  | slept => exact ⟨by simp, fun _ => .inl⟩
  | reconnected => exact ⟨by simp, fun _ => .inl⟩
  | _ => exact ⟨fun _ => .inl, fun _ => .inl⟩

theorem Move.closed_eq (hmove : Move s input s' out) (h : ∀ reply, input ≠ .hangUp reply) :
    s'.closed = s.closed := by
  cases hmove with
  | hungUp reply => exact absurd rfl (h reply)
  | _ => rfl

section

variable {display : TransitionError X → Str} {config : ModemConfig} {port : Port}
  {h : List (RunState × Input)} {s : RunState} {t : List (Effect X)}

/-- What is held, and what something is queued for, was started. -/
theorem run_owners (hrun : Run (step display) (start X config port) h s t) :
    (∀ c ∈ s.machine.held, .started c ∈ t) ∧ ∀ e ∈ s.events, ∀ c ∈ e.2, .started c ∈ t := by
  refine hrun.induct (P := fun _ s t => (∀ c ∈ s.machine.held, .started c ∈ t) ∧
    ∀ e ∈ s.events, ∀ c ∈ e.2, .started c ∈ t) ?_ ?_
  · obtain ⟨-, hmachine, hevents⟩ := start_worker (X := X) config port
    rw [hmachine, hevents]
    simp
  rintro h s t input s' out - ⟨hheld, hevents⟩ hstep
  obtain ⟨hheld', hevents'⟩ := (step_move hstep).owners
  have hstarted : ∀ c, c ∈ s.machine.held ∨ .started c ∈ out → .started c ∈ t ++ out :=
    fun c hc => List.mem_append.mpr (hc.imp_left (hheld c))
  refine ⟨fun c hc => hstarted c (hheld' c hc), fun e he c hc => ?_⟩
  rcases hevents' e he with he | howner
  · exact List.mem_append_left _ (hevents e he c hc)
  · exact hstarted c (howner c hc)

/-- Nothing is written for a command that was not started. -/
theorem run_wrote (hrun : Run (step display) (start X config port) h s t) {input : Input}
    {s' : RunState} {out : List (Effect X)} (hstep : s.step display input = some (s', out))
    {data : List UInt8} {c : OutgoingCommand} (hwrote : .wrote data (some c) ∈ out) :
    .started c ∈ t := by
  have hqueued : (data, some c) ∈ s.writes :=
    (step_move hstep).wrote (List.mem_filterMap.mpr ⟨_, hwrote, rfl⟩)
  obtain ⟨e, he, heq⟩ := List.mem_filterMap.mp hqueued
  have howner : e.2 = some c := by
    split at heq
    · exact (Prod.mk.inj (Option.some_inj.mp heq)).2
    · cases heq
  exact (run_owners hrun).2 e he c howner

/-- A command that was started is no longer in the queue. -/
theorem run_started (hrun : Run (step display) (start X config port) h s t)
    {c : OutgoingCommand} (hc : c ∈ s.commandRx) : .started c ∉ t := by
  have htaken : .started c ∈ t → c ∈ takenOf t := by
    refine hrun.induct (P := fun _ _ t => .started c ∈ t → c ∈ takenOf t) (by simp) ?_
    intro h s t input s' out _ ih hstep hstarted
    rw [takenOf_append, List.mem_append]
    refine (List.mem_append.mp hstarted).imp ih fun hstarted => ?_
    exact List.mem_filterMap.mpr ⟨_, ((step_move hstep).of_started hstarted).2.2.2.2, rfl⟩
  intro hstarted
  have hincreasing := (List.pairwise_append.mp (run_increasing hrun).1).2.2
  exact lt_irrefl _ (hincreasing c (htaken hstarted) c hc)

end

end RunState

/-! ### The limits and errors of `send_request` -/

/-- `SEND_TIMEOUT`. -/
def sendTimeout : Millis := fromSecs 90

/-- How long `send_request` waits for the response. -/
def waitLimit : Option UInt32 → Millis
  | none => sendTimeout
  | some s => fromSecs (s.toNat + 1)

def queueFull : Str := "Command queue is full! The modem may be overwhelmed".toList

def responseChannelClosed (sequence : UInt32) : Str :=
  "Command sequence ".toList ++ showNat sequence.toNat ++ " response channel closed".toList

def timedOutWaiting (sequence : UInt32) : Str :=
  "Command sequence ".toList ++ showNat sequence.toNat ++ " timed out waiting for response".toList

/-! ### Calls and the worker -/

/-- A call of `send_request` that waits for the response to the command it queued. -/
structure WaitingCall where
  command : OutgoingCommand
  deadline : Millis
  deriving DecidableEq, Repr

/-- The status loop, the calls that wait, and what is in their response channels. -/
structure RequestState (X : Crates) where
  loop : RunState
  clock : Millis
  waiting : List WaitingCall
  responses : List (ReplyId × ModemResponse X)

inductive RequestInput
  | elapse (duration : Millis)
  | sendRequest (request : ModemRequest) (timeout : Option UInt32)
  /-- A waiting call is polled, and returns. -/
  | poll (call : WaitingCall)
  | work (input : Input)

inductive RequestEffect (X : Crates)
  | worker (effect : Effect X)
  /-- `send_request` returned. -/
  | returned (command : OutgoingCommand) (result : Except Str (ModemResponse X))

/-- The responses that reach a requester. -/
def Effect.deliveredOf : List (Effect X) → List (ReplyId × ModemResponse X) :=
  List.filterMap fun
    | respond c r true => some (reply c, r)
    | _ => none

theorem mem_deliveredOf {t : List (Effect X)} {r : ReplyId × ModemResponse X}
    (hr : r ∈ deliveredOf t) : ∃ c ∈ answeredOf t, reply c = r.1 := by
  obtain ⟨e, he, heq⟩ := List.mem_filterMap.mp hr
  cases e with
  | respond c response delivered =>
    refine ⟨c, List.mem_filterMap.mpr ⟨_, he, rfl⟩, ?_⟩
    cases delivered with
    | true => rw [← Option.some_inj.mp heq]
    | false => cases heq
  | _ => cases heq

/-- The effects of the worker. -/
def RequestEffect.workerOf : List (RequestEffect X) → List (Effect X) :=
  List.filterMap fun
    | worker e => some e
    | returned .. => none

/-- The calls of `send_request` that returned an error. -/
def RequestEffect.failuresOf : List (RequestEffect X) → List (OutgoingCommand × Str) :=
  List.filterMap fun
    | returned c (.error message) => some (c, message)
    | _ => none

namespace RequestState

open RequestEffect

/-- A step the worker takes at `now`. -/
def IsWork (now : Millis) : Input → Prop
  | .sendRequest .. | .hangUp _ => False
  | .command t | .timeoutTick t => t = now
  | _ => True

instance (now : Millis) : DecidablePred (IsWork now)
  | .sendRequest .. | .hangUp _ => inferInstanceAs (Decidable False)
  | .command t | .timeoutTick t => inferInstanceAs (Decidable (t = now))
  | .workerEvent _ | .read _ | .lineEvent | .endOfRead | .shutdown | .drained | .rejectCommand
  | .rejected | .slept | .reconnectTick _ => inferInstanceAs (Decidable True)

/-- What `tokio::time::timeout(timeout, rx)` makes a polled call return, `none` while it waits:
the channel is looked at before the clock. -/
def result? (self : RequestState X) (call : WaitingCall) :
    Option (Except Str (ModemResponse X)) :=
  match self.responses.lookup (reply call.command) with
  | some response => some (.ok response)
  | none =>
    -- the sending half is part of the command
    if call.command ∉ self.loop.commandRx ++ self.loop.machine.held then
      some (.error (responseChannelClosed call.command.sequence))
    else if call.deadline ≤ self.clock then
      some (.error (timedOutWaiting call.command.sequence))
    else none

/-- `send_request` up to the wait. -/
def sendRequest (self : RequestState X) (request : ModemRequest) (timeout : Option UInt32) :
    RequestState X × List (RequestEffect X) :=
  let cmd := OutgoingCommand.new self.loop.commandSequence self.loop.nextReply request timeout
  let loop := self.loop.sendRequest request timeout
  if self.loop.commandRx.length < self.loop.worker.config.cmdChannelBufferSize then
    ({ self with loop, waiting := self.waiting ++ [⟨cmd, self.clock + waitLimit timeout⟩] }, [])
  else ({ self with loop }, [.returned cmd (.error queueFull)])

/-- A call that returns drops its half of the response channel. -/
def finish (self : RequestState X) (call : WaitingCall) : RequestState X :=
  { self with
    loop := { self.loop with closed := reply call.command :: self.loop.closed }
    waiting := self.waiting.erase call }

def step (display : TransitionError X → Str) (self : RequestState X) :
    RequestInput → Option (RequestState X × List (RequestEffect X))
  | .elapse duration => some ({ self with clock := self.clock + duration }, [])
  | .sendRequest request timeout => some (self.sendRequest request timeout)
  | .poll call =>
    if call ∈ self.waiting then
      (self.result? call).map fun result => (self.finish call, [.returned call.command result])
    else none
  | .work input =>
    if IsWork self.clock input then
      (self.loop.step display input).map fun next =>
        ({ self with loop := next.1, responses := self.responses ++ deliveredOf next.2 },
          next.2.map .worker)
    else none

/-- Nothing was requested yet. -/
def start (X : Crates) (config : ModemConfig) (port : Port) : RequestState X :=
  { loop := .start X config port, clock := 0, waiting := [], responses := [] }

/-- What a step does. -/
inductive Turn (display : TransitionError X → Str) (s : RequestState X) :
    RequestInput → RequestState X → List (RequestEffect X) → Prop
  | elapsed (duration : Millis) :
    Turn display s (.elapse duration) { s with clock := s.clock + duration } []
  | queued (request : ModemRequest) (timeout : Option UInt32) (cmd : OutgoingCommand)
      (hcommandRx : (s.loop.sendRequest request timeout).commandRx = s.loop.commandRx ++ [cmd]) :
    Turn display s (.sendRequest request timeout)
      { s with
        loop := s.loop.sendRequest request timeout
        waiting := s.waiting ++ [⟨cmd, s.clock + waitLimit timeout⟩] } []
  /-- The queue is full. -/
  | refused (request : ModemRequest) (timeout : Option UInt32) (cmd : OutgoingCommand)
      (hcmd : reply cmd = s.loop.nextReply) :
    Turn display s (.sendRequest request timeout)
      { s with loop := s.loop.sendRequest request timeout } [.returned cmd (.error queueFull)]
  | returned (call : WaitingCall) (result : Except Str (ModemResponse X))
      (hcall : call ∈ s.waiting) (hresult : s.result? call = some result) :
    Turn display s (.poll call) (s.finish call) [.returned call.command result]
  | worked (input : Input) (loop : RunState) (out : List (Effect X))
      (hinput : IsWork s.clock input) (hstep : s.loop.step display input = some (loop, out)) :
    Turn display s (.work input)
      { s with loop, responses := s.responses ++ deliveredOf out } (out.map .worker)

variable {display : TransitionError X → Str}

/-- **Case analysis.** Every step is a turn. -/
theorem step_turn {s s' : RequestState X} {input : RequestInput} {out : List (RequestEffect X)}
    (h : s.step display input = some (s', out)) : Turn display s input s' out := by
  cases input with
  | elapse duration =>
    obtain ⟨rfl, rfl⟩ := Prod.mk.inj (Option.some_inj.mp h)
    exact .elapsed duration
  | sendRequest request timeout =>
    simp only [step, sendRequest, Option.some_inj] at h
    split at h
    · next hroom =>
      obtain ⟨rfl, rfl⟩ := Prod.mk.inj h
      exact .queued request timeout _ (by simp [RunState.sendRequest, hroom])
    · obtain ⟨rfl, rfl⟩ := Prod.mk.inj h
      exact .refused request timeout _ rfl
  | poll call =>
    obtain ⟨hcall, h⟩ := Option.ite_none_right_eq_some.mp h
    obtain ⟨result, hresult, h⟩ := Option.map_eq_some_iff.mp h
    obtain ⟨rfl, rfl⟩ := Prod.mk.inj h
    exact .returned call result hcall hresult
  | work input =>
    obtain ⟨hinput, h⟩ := Option.ite_none_right_eq_some.mp h
    obtain ⟨⟨loop, out⟩, hstep, h⟩ := Option.map_eq_some_iff.mp h
    obtain ⟨rfl, rfl⟩ := Prod.mk.inj h
    exact .worked input loop out hinput hstep

/-! ### The status loop in a run -/

section

variable {config : ModemConfig} {port : Port} {h : List (RequestState X × RequestInput)}
  {s : RequestState X} {t : List (RequestEffect X)}

@[simp] theorem workerOf_append (t u : List (RequestEffect X)) :
    workerOf (t ++ u) = workerOf t ++ workerOf u :=
  List.filterMap_append

@[simp] theorem workerOf_nil : workerOf ([] : List (RequestEffect X)) = [] := rfl

@[simp] theorem workerOf_returned (cmd : OutgoingCommand) (result : Except Str (ModemResponse X)) :
    workerOf [.returned cmd result] = [] := rfl

@[simp] theorem workerOf_map (t : List (Effect X)) : workerOf (t.map .worker) = t := by
  rw [workerOf, List.filterMap_map]
  exact List.filterMap_some

/-- The worker makes no call return. -/
@[simp] theorem failuresOf_map (t : List (Effect X)) : failuresOf (t.map .worker) = [] := by
  rw [failuresOf, List.filterMap_map]
  exact List.filterMap_none t

theorem mem_workerOf {t : List (RequestEffect X)} {e : Effect X} :
    e ∈ workerOf t ↔ .worker e ∈ t := by
  refine ⟨fun he => ?_, fun he => List.mem_filterMap.mpr ⟨_, he, rfl⟩⟩
  obtain ⟨e', he', heq⟩ := List.mem_filterMap.mp he
  cases e' with
  | worker e' =>
    obtain rfl : e' = e := Option.some_inj.mp heq
    exact he'
  | returned => cases heq

/-- **Projection.** What the loop does in a run is a run of the loop. -/
theorem run_loop (hrun : Run (step display) (start X config port) h s t) :
    ∃ h', Run (RunState.step display) (RunState.start X config port) h' s.loop (workerOf t) := by
  refine hrun.induct (P := fun _ s t =>
    ∃ h', Run (RunState.step display) (RunState.start X config port) h' s.loop (workerOf t))
    ⟨[], .start⟩ ?_
  rintro h s t input s' out - ⟨h', hloop⟩ hstep
  have hquiet : ∀ {loop : RunState} (input : Input),
      s.loop.step display input = some (loop, []) →
      ∃ h', Run (RunState.step display) (RunState.start X config port) h' loop (workerOf t) :=
    fun _ hstep => ⟨_, by simpa using hloop.next hstep⟩
  cases step_turn hstep with
  | elapsed => exact ⟨h', by simpa using hloop⟩
  | queued request timeout =>
    rw [workerOf_append, workerOf_nil, List.append_nil]
    exact hquiet (.sendRequest request timeout) (step_eq_some_iff.mpr ⟨trivial, rfl⟩)
  | refused request timeout =>
    rw [workerOf_append, workerOf_returned, List.append_nil]
    exact hquiet (.sendRequest request timeout) (step_eq_some_iff.mpr ⟨trivial, rfl⟩)
  | returned call =>
    rw [workerOf_append, workerOf_returned, List.append_nil]
    exact hquiet (.hangUp (reply call.command)) (step_eq_some_iff.mpr ⟨trivial, rfl⟩)
  | worked input loop out hinput hwork =>
    rw [workerOf_append, workerOf_map]
    exact ⟨_, hloop.next hwork⟩

/-- A response channel belongs to one command. -/
theorem run_reply_inj (hrun : Run (step display) (start X config port) h s t)
    {c d : OutgoingCommand} (hc : c ∈ takenOf (workerOf t) ++ s.loop.commandRx)
    (hd : d ∈ takenOf (workerOf t) ++ s.loop.commandRx) (heq : reply c = reply d) : c = d := by
  obtain ⟨_, hloop⟩ := run_loop hrun
  have hnodup : ((takenOf (workerOf t) ++ s.loop.commandRx).map reply).Nodup :=
    List.pairwise_map.mpr ((run_increasing hloop).1.imp ne_of_lt)
  exact List.inj_on_of_nodup_map hnodup hc hd heq

/-- A command in the queue was not taken. -/
theorem run_queued (hrun : Run (step display) (start X config port) h s t)
    {c d : OutgoingCommand} (hc : c ∈ s.loop.commandRx) (hd : d ∈ takenOf (workerOf t)) :
    reply d ≠ reply c := by
  obtain ⟨_, hloop⟩ := run_loop hrun
  exact ne_of_lt ((List.pairwise_append.mp (run_increasing hloop).1).2.2 d hd c hc)

/-- Commands that were queued stay queued or are taken. -/
theorem step_queue {s' : RequestState X} {input : RequestInput} {out : List (RequestEffect X)}
    (hstep : s.step display input = some (s', out)) {c : OutgoingCommand}
    (hc : c ∈ takenOf (workerOf t) ++ s.loop.commandRx) :
    c ∈ takenOf (workerOf (t ++ out)) ++ s'.loop.commandRx := by
  have hmove : ∀ {input : Input} {out : List (Effect X)},
      Move s.loop input s'.loop out → ∀ {t' : List (Effect X)}, t' = workerOf t ++ out →
      c ∈ takenOf t' ++ s'.loop.commandRx := by
    rintro input out hmove _ rfl
    rw [takenOf_append, List.append_assoc]
    rcases hmove.queue with ⟨hqueue, -⟩ | ⟨cmd, htaken, hqueue, -⟩
    · rwa [hqueue]
    · rw [htaken, hqueue, List.nil_append, ← List.append_assoc]
      exact List.mem_append_left _ hc
  cases step_turn hstep with
  | elapsed => simpa using hc
  | queued request timeout => exact hmove (.requested request timeout) (workerOf_append _ _)
  | refused request timeout => exact hmove (.requested request timeout) (workerOf_append _ _)
  | returned call => exact hmove (.hungUp (reply call.command)) (workerOf_append _ _)
  | worked input loop out hinput hwork =>
    exact hmove (step_move hwork) (by rw [workerOf_append, workerOf_map])

end

/-! ### Failed requests -/

/-- The step makes `send_request` return an error for a command that is still in the queue. -/
def FailsQueued (display : TransitionError X → Str) (s : RequestState X) (input : RequestInput)
    (c : OutgoingCommand) : Prop :=
  c ∈ s.loop.commandRx ∧ ∃ s' out message, s.step display input = some (s', out) ∧
    (c, message) ∈ failuresOf out

/-- The step starts the command, or writes its AT command or its PDU to the port. -/
def CarriesOut (display : TransitionError X → Str) (s : RequestState X) (input : RequestInput)
    (c : OutgoingCommand) : Prop :=
  ∃ s' out, s.step display input = some (s', out) ∧
    (.worker (.started c) ∈ out ∨ ∃ data, .worker (.wrote data (some c)) ∈ out)

/-- No command is carried out after its request was reported as failed in the queue. -/
def FailedUndone (display : TransitionError X → Str)
    (h : List (RequestState X × RequestInput)) : Prop :=
  ∀ h₁ q h₂, h = h₁ ++ q :: h₂ → ∀ p ∈ h₁, ∀ c,
    FailsQueued display p.1 p.2 c → ¬ CarriesOut display q.1 q.2 c

/-- The online worker takes a command whose response channel is closed. -/
def TakesClosed (s : RequestState X) : RequestInput → Prop
  | .work (.command _) => ∃ c ∈ s.loop.commandRx.head?, reply c ∈ s.loop.closed
  | _ => False

instance (s : RequestState X) : DecidablePred s.TakesClosed
  | .work (.command _) =>
    inferInstanceAs (Decidable (∃ c ∈ s.loop.commandRx.head?, reply c ∈ s.loop.closed))
  | .elapse _ | .sendRequest .. | .poll _ => inferInstanceAs (Decidable False)
  | .work (.sendRequest ..) | .work (.hangUp _) | .work (.workerEvent _) | .work (.read _)
  | .work .lineEvent | .work .endOfRead | .work (.timeoutTick _) | .work .shutdown
  | .work .drained | .work .rejectCommand | .work .rejected | .work .slept
  | .work (.reconnectTick _) => inferInstanceAs (Decidable False)

theorem takesClosed_iff {s : RequestState X} {input : RequestInput} :
    s.TakesClosed input ↔ (∃ now, input = .work (.command now)) ∧
      ∃ c ∈ s.loop.commandRx.head?, reply c ∈ s.loop.closed := by
  unfold TakesClosed
  split <;> simp_all

/-- What ties the calls to the queue: each waits for a command that was queued, responses are for
commands that were taken, and a channel is closed for a command in the queue exactly if its
request was reported as failed there. -/
structure Tracked (display : TransitionError X → Str) (h : List (RequestState X × RequestInput))
    (s : RequestState X) (t : List (RequestEffect X)) : Prop where
  waiting : ∀ call ∈ s.waiting, call.command ∈ takenOf (workerOf t) ++ s.loop.commandRx
  responded : ∀ r ∈ s.responses, ∃ c ∈ takenOf (workerOf t), reply c = r.1
  closed : ∀ tx ∈ s.loop.closed, ∃ c ∈ takenOf (workerOf t) ++ s.loop.commandRx, reply c = tx ∧
    (c ∈ s.loop.commandRx → ∃ p ∈ h, FailsQueued display p.1 p.2 c)
  failed : ∀ p ∈ h, ∀ c, FailsQueued display p.1 p.2 c → reply c ∈ s.loop.closed

section

variable {config : ModemConfig} {port : Port} {h : List (RequestState X × RequestInput)}
  {s s' : RequestState X} {t out : List (RequestEffect X)} {input : RequestInput}
  {c : OutgoingCommand}

/-- A response that is returned was in the channel. -/
theorem mem_of_result?_ok {call : WaitingCall} {response : ModemResponse X}
    (h : s.result? call = some (.ok response)) : (reply call.command, response) ∈ s.responses := by
  unfold result? at h
  split at h
  · next hlookup =>
    obtain rfl := Except.ok.inj (Option.some_inj.mp h)
    obtain ⟨l₁, l₂, heq, -⟩ := List.lookup_eq_some_iff.mp hlookup
    rw [heq]
    simp
  · split at h
    · cases h
    · cases (Option.ite_none_right_eq_some.mp h).2

/-- Only a call that returns closes a channel. -/
theorem Turn.closed (hturn : Turn display s input s' out) :
    s'.loop.closed = s.loop.closed ∨ ∃ call ∈ s.waiting, ∃ result,
      s'.loop.closed = reply call.command :: s.loop.closed ∧
      s'.loop.commandRx = s.loop.commandRx ∧ s.result? call = some result ∧
      out = [.returned call.command result] := by
  cases hturn with
  | elapsed => exact .inl rfl
  | queued => exact .inl rfl
  | refused => exact .inl rfl
  | returned call result hcall hresult =>
    exact .inr ⟨call, hcall, result, rfl, rfl, hresult, rfl⟩
  | worked input loop out hinput hwork =>
    have hhangUp : ∀ reply, input ≠ .hangUp reply := by
      rintro reply rfl
      exact hinput
    exact .inl ((step_move hwork).closed_eq hhangUp)

/-- The worker starts the first command of the queue. -/
theorem step_started (hstep : s.step display input = some (s', out))
    (hc : .worker (.started c) ∈ out) :
    (∃ now, input = .work (.command now)) ∧ c ∈ s.loop.commandRx.head? := by
  cases step_turn hstep with
  | elapsed => cases hc
  | queued => cases hc
  | refused => simp at hc
  | returned => simp at hc
  | worked input loop out hinput hwork =>
    obtain ⟨e, he, heq⟩ := List.mem_map.mp hc
    obtain rfl := RequestEffect.worker.inj heq
    obtain ⟨⟨now, rfl⟩, -, -, hhead, -⟩ := (step_move hwork).of_started he
    exact ⟨⟨now, rfl⟩, hhead⟩

/-- A failure in the queue closes the channel. -/
theorem FailsQueued.closed (hrun : Run (step display) (start X config port) h s t)
    (hfails : FailsQueued display s input c) (hstep : s.step display input = some (s', out)) :
    reply c ∈ s'.loop.closed := by
  obtain ⟨hqueued, s'', out', message, hstep', hfailure⟩ := hfails
  obtain ⟨rfl, rfl⟩ := Prod.mk.inj (Option.some_inj.mp (hstep'.symm.trans hstep))
  cases step_turn hstep with
  | elapsed => cases hfailure
  | queued => cases hfailure
  | refused request timeout cmd hcmd =>
    -- a command that was refused has a new channel
    obtain ⟨rfl, -⟩ := Prod.mk.inj (List.mem_singleton.mp hfailure)
    obtain ⟨_, hloop⟩ := run_loop hrun
    exact absurd hcmd (ne_of_lt ((run_increasing hloop).2 c (List.mem_append_right _ hqueued)))
  | returned call result =>
    cases result with
    | ok => cases hfailure
    | error =>
      obtain ⟨rfl, -⟩ := Prod.mk.inj (List.mem_singleton.mp hfailure)
      exact List.mem_cons_self
  | worked => simp at hfailure

/-- What was taken stays taken. -/
theorem mem_takenOf_append (hc : c ∈ takenOf (workerOf t)) : c ∈ takenOf (workerOf (t ++ out)) := by
  rw [workerOf_append, takenOf_append]
  exact List.mem_append_left _ hc

theorem Tracked.waiting_step (htracked : Tracked display h s t)
    (hstep : s.step display input = some (s', out)) :
    ∀ call ∈ s'.waiting, call.command ∈ takenOf (workerOf (t ++ out)) ++ s'.loop.commandRx := by
  have hold : ∀ call ∈ s.waiting,
      call.command ∈ takenOf (workerOf (t ++ out)) ++ s'.loop.commandRx :=
    fun call hcall => step_queue hstep (htracked.waiting call hcall)
  intro call hcall
  cases step_turn hstep with
  | queued request timeout cmd hcommandRx =>
    rcases List.mem_append.mp hcall with hcall | hcall
    · exact hold call hcall
    · obtain rfl := List.mem_singleton.mp hcall
      exact List.mem_append_right _ (by simp [hcommandRx])
  | returned => exact hold call (List.mem_of_mem_erase hcall)
  | elapsed => exact hold call hcall
  | refused => exact hold call hcall
  | worked => exact hold call hcall

theorem Tracked.responded_step (hrun : Run (step display) (start X config port) h s t)
    (htracked : Tracked display h s t) (hstep : s.step display input = some (s', out)) :
    ∀ r ∈ s'.responses, ∃ c ∈ takenOf (workerOf (t ++ out)), reply c = r.1 := by
  have hold : ∀ r ∈ s.responses, ∃ c ∈ takenOf (workerOf (t ++ out)), reply c = r.1 := by
    intro r hr
    obtain ⟨c, hc, heq⟩ := htracked.responded r hr
    exact ⟨c, mem_takenOf_append hc, heq⟩
  intro r hr
  cases step_turn hstep with
  | worked input loop out hinput hwork =>
    rcases List.mem_append.mp hr with hr | hr
    · exact hold r hr
    · -- what is answered was taken
      obtain ⟨c, hanswered, heq⟩ := mem_deliveredOf hr
      obtain ⟨_, hloop⟩ := run_loop (hrun.next hstep)
      refine ⟨c, (run_accounts hloop).mem_iff.mpr ?_, heq⟩
      simp only [workerOf_append, workerOf_map, answeredOf_append, List.mem_append]
      exact .inl (.inl (.inr hanswered))
  | elapsed => exact hold r hr
  | queued => exact hold r hr
  | refused => exact hold r hr
  | returned => exact hold r hr

/-- A call that returns while its command is in the queue fails. -/
theorem Tracked.result?_error (hrun : Run (step display) (start X config port) h s t)
    (htracked : Tracked display h s t) {call : WaitingCall}
    {result : Except Str (ModemResponse X)} (hresult : s.result? call = some result)
    (hqueued : call.command ∈ s.loop.commandRx) : ∃ message, result = .error message := by
  cases result with
  | error message => exact ⟨message, rfl⟩
  | ok response =>
    -- a response means that the command was taken
    obtain ⟨c, hc, heq⟩ := htracked.responded _ (mem_of_result?_ok hresult)
    exact absurd heq (run_queued hrun hqueued hc)

theorem Tracked.closed_step (hrun : Run (step display) (start X config port) h s t)
    (htracked : Tracked display h s t) (hstep : s.step display input = some (s', out)) :
    ∀ tx ∈ s'.loop.closed, ∃ c ∈ takenOf (workerOf (t ++ out)) ++ s'.loop.commandRx,
      reply c = tx ∧
        (c ∈ s'.loop.commandRx → ∃ p ∈ h ++ [(s, input)], FailsQueued display p.1 p.2 c) := by
  have hold : ∀ tx ∈ s.loop.closed, ∃ c ∈ takenOf (workerOf (t ++ out)) ++ s'.loop.commandRx,
      reply c = tx ∧
        (c ∈ s'.loop.commandRx → ∃ p ∈ h ++ [(s, input)], FailsQueued display p.1 p.2 c) := by
    intro tx htx
    obtain ⟨c, hc, heq, hfailed⟩ := htracked.closed tx htx
    refine ⟨c, step_queue hstep hc, heq, fun hqueued => ?_⟩
    rcases List.mem_append.mp hc with hc | hc
    · exact absurd rfl (run_queued (hrun.next hstep) hqueued (mem_takenOf_append hc))
    · obtain ⟨p, hp, hfails⟩ := hfailed hc
      exact ⟨p, List.mem_append_left _ hp, hfails⟩
  intro tx htx
  rcases (step_turn hstep).closed with
    hsame | ⟨call, hcall, result, hclosed, hcommandRx, hresult, rfl⟩
  · exact hold tx (hsame ▸ htx)
  rw [hclosed] at htx
  rcases List.mem_cons.mp htx with rfl | htx
  · refine ⟨_, step_queue hstep (htracked.waiting call hcall), rfl, fun hqueued => ?_⟩
    rw [hcommandRx] at hqueued
    obtain ⟨message, rfl⟩ := htracked.result?_error hrun hresult hqueued
    exact ⟨_, List.mem_append_right _ (List.mem_singleton_self _), hqueued, s', _, message,
      hstep, List.mem_singleton_self _⟩
  · exact hold tx htx

theorem Tracked.failed_step (hrun : Run (step display) (start X config port) h s t)
    (htracked : Tracked display h s t) (hstep : s.step display input = some (s', out)) :
    ∀ p ∈ h ++ [(s, input)], ∀ c, FailsQueued display p.1 p.2 c → reply c ∈ s'.loop.closed := by
  intro p hp c hfails
  rcases List.mem_append.mp hp with hp | hp
  · have hclosed := htracked.failed p hp c hfails
    rcases (step_turn hstep).closed with hsame | ⟨_, _, _, hcons, -⟩
    · rwa [hsame]
    · rw [hcons]
      exact List.mem_cons_of_mem _ hclosed
  · obtain rfl := List.mem_singleton.mp hp
    exact hfails.closed hrun hstep

/-- Every step keeps track. -/
theorem Tracked.step (hrun : Run (step display) (start X config port) h s t)
    (htracked : Tracked display h s t) (hstep : s.step display input = some (s', out)) :
    Tracked display (h ++ [(s, input)]) s' (t ++ out) where
  waiting := htracked.waiting_step hstep
  responded := htracked.responded_step hrun hstep
  closed := htracked.closed_step hrun hstep
  failed := htracked.failed_step hrun hstep

theorem run_tracked (hrun : Run (step display) (start X config port) h s t) :
    Tracked display h s t := by
  refine hrun.induct (P := Tracked display) ?_ fun _ _ _ _ _ _ hrun ih hstep => ih.step hrun hstep
  exact ⟨by simp [start], by simp [start], by simp [start, RunState.start], by simp⟩

/-! ### When failed requests are carried out -/

/-- A command that failed in the queue is not started while no closed channel is taken. -/
theorem run_failed (hrun : Run (step display) (start X config port) h s t)
    (hok : ∀ p ∈ h, ¬ p.1.TakesClosed p.2) :
    ∀ p ∈ h, ∀ c, FailsQueued display p.1 p.2 c → .started c ∉ workerOf t := by
  refine hrun.induct (P := fun h _ t => (∀ p ∈ h, ¬ p.1.TakesClosed p.2) →
    ∀ p ∈ h, ∀ c, FailsQueued display p.1 p.2 c → .started c ∉ workerOf t) (by simp) ?_ hok
  intro h s t input s' out hrun ih hstep hok p hp c hfails hstarted
  obtain ⟨hbefore, hlast⟩ := List.forall_mem_append.mp hok
  rw [workerOf_append, List.mem_append, mem_workerOf (t := out)] at hstarted
  rcases List.mem_append.mp hp with hp | hp
  · rcases hstarted with hstarted | hstarted
    · exact ih hbefore p hp c hfails hstarted
    · obtain ⟨hinput, hhead⟩ := step_started hstep hstarted
      exact hlast _ (List.mem_singleton_self _)
        (takesClosed_iff.mpr ⟨hinput, c, hhead, (run_tracked hrun).failed p hp c hfails⟩)
  · obtain rfl := List.mem_singleton.mp hp
    rcases hstarted with hstarted | hstarted
    · obtain ⟨_, hloop⟩ := run_loop hrun
      exact run_started hloop hfails.1 hstarted
    · -- a step of the worker makes no call return
      obtain ⟨⟨now, rfl⟩, -⟩ := step_started hstep hstarted
      obtain ⟨-, s'', out', message, hstep', hfailure⟩ := hfails
      cases step_turn hstep' with
      | worked => simp at hfailure

/-- A step that takes a closed channel carries out a request that failed in the queue. -/
theorem FailedUndone.not_takesClosed (hundone : FailedUndone display h)
    (hrun : Run (step display) (start X config port) h s t) :
    ∀ p ∈ h, ¬ p.1.TakesClosed p.2 := by
  intro q hq htakes
  obtain ⟨h₁, h₂, t₁, -, s', out, rfl, -, hrun₁, hstep⟩ := hrun.of_mem_history hq
  obtain ⟨⟨now, hinput⟩, c, hhead, hclosed⟩ := takesClosed_iff.mp htakes
  have hqueued : c ∈ q.1.loop.commandRx := List.mem_of_mem_head? hhead
  obtain ⟨d, hd, hreply, hfailed⟩ := (run_tracked hrun₁).closed _ hclosed
  obtain rfl := run_reply_inj hrun₁ hd (List.mem_append_right _ hqueued) hreply
  obtain ⟨p, hp, hfails⟩ := hfailed hqueued
  refine hundone h₁ q h₂ rfl p hp d hfails ⟨s', out, hstep, .inl ?_⟩
  rw [hinput] at hstep
  cases step_turn hstep with
  | worked _ loop out hinput hwork =>
    cases step_move hwork with
    | started now cmd commandRx hcommandRx =>
      rw [hcommandRx] at hhead
      obtain rfl := Option.some_inj.mp hhead
      simp

/-- **Failed requests.** In every run, no command is started or written to the port after its
request was reported as failed while it waited in the queue, if and only if the online worker
takes no command whose response channel is closed. -/
theorem failed_undone_iff (hrun : Run (step display) (start X config port) h s t) :
    FailedUndone display h ↔ ∀ p ∈ h, ¬ p.1.TakesClosed p.2 := by
  refine ⟨fun hundone => hundone.not_takesClosed hrun, fun hok => ?_⟩
  rintro h₁ ⟨s₁, input⟩ h₂ heq p hp c hfails ⟨s', out, hstep, hcarried⟩
  obtain ⟨t₁, _, _, _, hrun₁, -⟩ := hrun.split heq
  rw [heq] at hok
  have hfresh : .started c ∉ workerOf t₁ :=
    run_failed hrun₁ (fun p hp => hok p (List.mem_append_left _ hp)) p hp c hfails
  rcases hcarried with hstarted | ⟨data, hwrote⟩
  · obtain ⟨hinput, hhead⟩ := step_started hstep hstarted
    exact hok (s₁, input) (by simp)
      (takesClosed_iff.mpr ⟨hinput, c, hhead, (run_tracked hrun₁).failed p hp c hfails⟩)
  · cases step_turn hstep with
    | elapsed => cases hwrote
    | queued => cases hwrote
    | refused => simp at hwrote
    | returned => simp at hwrote
    | worked input loop out hinput hwork =>
      obtain ⟨_, hloop⟩ := run_loop hrun₁
      exact hfresh (run_wrote hloop hwork (by simpa using hwrote))

end

/-- A query is running when an SMS with a timeout of two seconds is queued, and its call gives up
after three. -/
def givenUp : List RequestInput :=
  [.sendRequest .getSignalStrength none, .work (.command 0), .work (.workerEvent (.ok ())),
    .sendRequest (.sendSms 1 "AB".toList) (some 2), .elapse 3000,
    .poll ⟨.new 2 1 (.sendSms 1 "AB".toList) (some 2), 3000⟩]

/-- The command whose call gave up. -/
def abandoned : OutgoingCommand := .new 2 1 (.sendSms 1 "AB".toList) (some 2)

/-- The port is closed before the query is answered: the SMS is rejected, and never sent. -/
theorem failed_undone_offline :
    ∃ (h : List (RequestState .rejecting × RequestInput)) (s : RequestState .rejecting)
      (t : List (RequestEffect .rejecting)),
      Run (step fun _ => []) (start .rejecting .default .ready) h s t ∧
      failuresOf t = [(abandoned, timedOutWaiting 2)] ∧ s.loop.commandRx = [] ∧
      FailedUndone (fun _ => []) h := by
  have hok : ∀ p ∈ history (step (X := .rejecting) fun _ => []) (start .rejecting .default .ready)
      (givenUp ++ [.work (.read (.ok [])), .work .rejectCommand]), ¬ p.1.TakesClosed p.2 := by
    decide +kernel
  obtain ⟨s, t, -, hrun, hfacts⟩ := Run.of_execute (step (X := .rejecting) fun _ => [])
    (start .rejecting .default .ready)
    (givenUp ++ [.work (.read (.ok [])), .work .rejectCommand])
    (fun r => (failuresOf r.2, r.1.loop.commandRx))
    (b := ([(abandoned, timedOutWaiting 2)], [])) (by decide +kernel)
  obtain ⟨hfailures, hcommandRx⟩ := Prod.mk.inj hfacts
  exact ⟨_, s, t, hrun, hfailures, hcommandRx, (failed_undone_iff hrun).mpr hok⟩

/-- The query is answered, and the SMS whose call gave up is started and submitted. -/
theorem abandoned_submitted :
    ∃ (h : List (RequestState .rejecting × RequestInput)) (s : RequestState .rejecting)
      (t : List (RequestEffect .rejecting)),
      h.map Prod.snd = givenUp ++
        [.work (.read (.ok (encodeUtf8 "+CSQ: 20,99\r\n\r\nOK\r\n".toList))), .work .lineEvent,
          .work .lineEvent, .work .endOfRead, .work (.command 3000),
          .work (.workerEvent (.ok ())), .work (.read (.ok (encodeUtf8 "> ".toList))),
          .work .lineEvent, .work .endOfRead, .work (.workerEvent (.ok ()))] ∧
      Run (step fun _ => []) (start .rejecting .default .ready) h s t ∧
      failuresOf t = [(abandoned, timedOutWaiting 2)] ∧
      (pduBytes "AB".toList, some abandoned) ∈ wroteOf (workerOf t) ∧
      ¬ FailedUndone (fun _ => []) h := by
  obtain ⟨s, t, hinputs, hrun, hfacts⟩ := Run.of_execute (step (X := .rejecting) fun _ => [])
    (start .rejecting .default .ready)
    (givenUp ++
      [.work (.read (.ok (encodeUtf8 "+CSQ: 20,99\r\n\r\nOK\r\n".toList))), .work .lineEvent,
        .work .lineEvent, .work .endOfRead, .work (.command 3000),
        .work (.workerEvent (.ok ())), .work (.read (.ok (encodeUtf8 "> ".toList))),
        .work .lineEvent, .work .endOfRead, .work (.workerEvent (.ok ()))])
    (fun r => (failuresOf r.2,
      decide ((pduBytes "AB".toList, some abandoned) ∈ wroteOf (workerOf r.2))))
    (b := ([(abandoned, timedOutWaiting 2)], true)) (by decide +kernel)
  obtain ⟨hfailures, hwrote⟩ := Prod.mk.inj hfacts
  refine ⟨_, s, t, hinputs, hrun, hfailures, of_decide_eq_true hwrote, fun hundone => ?_⟩
  exact absurd (hundone.not_takesClosed hrun) (by decide +kernel)

end RequestState

end SmsServer
