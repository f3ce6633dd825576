import SmsServer.Modem.Accounting

/-!
# Submitting an SMS

A prompt makes the machine queue the PDU of the running command; the bytes reach the port in a
later turn of the loop, after the remaining line events of the same read. The prompt handler
does not look at the state of the command, and nothing cancels a queued write. So a PDU is
written twice after a second prompt, and is written for a command that is already answered if a
final line follows the prompt in the same read.

`submitted_once` shows that there is no other way for this to go wrong.
-/

namespace SmsServer

open RustStd Machine Effect ModemEventHandlers

variable {X : Crates}

/-- An AT command ends with a newline and a PDU with CTRL+Z. -/
theorem atCommand_ne_pduBytes (request : ModemRequest) (pdu : Str) :
    encodeUtf8 (atCommand request) ≠ pduBytes pdu := by
  have hlf : ∀ s : Str, (encodeUtf8 (s ++ "\r\n".toList)).getLast? = some 0x0A := by
    intro s
    rw [encodeUtf8_append, List.getLast?_append]
    rfl
  have hat : (encodeUtf8 (atCommand request)).getLast? = some 0x0A := by
    cases request with
    | sendSms len pdu => exact hlf _
    | _ => rfl
  intro h
  rw [h, pduBytes, List.getLast?_append] at hat
  cases hat

/-- An SMS is only answered by a line that completes it: at a prompt its PDU is queued. -/
theorem StateMachineState.finalResponse?_sendSms {peers : Peers} (heventRx : peers.eventRx)
    {execution : CommandExecution} {len : ℕ} {pdu : Str}
    (hrequest : execution.command.request = .sendSms len pdu) {event : LineEvent}
    {response : ModemResponse X}
    (h : finalResponse? peers execution ((command execution).classify event) = some response) :
    ∃ content, event = .line content ∧ isPayload event ∧
      execution.context.state.isComplete (trim content) := by
  cases event with
  | prompt content =>
    simp [classify, finalResponse?, promptHandler, hrequest, ModemEventHandlers.write, send,
      heventRx, Except.map] at h
  | line content =>
    refine ⟨content, rfl, ?_⟩
    cases hkind : UnsolicitedMessageKind.fromHeader (trim content) with
    | some messageKind =>
      rw [classify, classifyLine_header hkind] at h
      cases h
    | none =>
      have hpayload : isPayload (.line content) := by simp [isPayload, hkind]
      rw [finalResponse?_content _ hpayload] at h
      exact ⟨hpayload, (Option.ite_none_right_eq_some.mp h).1⟩

/-- The execution of the command that is running, not parked. -/
def StateMachineState.active? : StateMachineState → Option CommandExecution
  | command execution => some execution
  | _ => none

def ModemRequest.isSms : ModemRequest → Bool
  | sendSms .. => true
  | _ => false

namespace Effect

theorem wroteOf_background {t : List (Effect X)} (h : ∀ e ∈ t, e.IsBackground) (data : List UInt8)
    (c : OutgoingCommand) : (data, some c) ∉ wroteOf t := by
  intro hmem
  obtain ⟨e, he, heq⟩ := List.mem_filterMap.mp hmem
  cases e with
  | wrote data' owner =>
    obtain rfl : owner = some c := (Prod.mk.inj (Option.some_inj.mp heq)).2
    exact h _ he
  | _ => cases heq

end Effect

namespace StateMachineState

@[simp] theorem wroteOf_failActiveCommand (peers : Peers) (reason : Str)
    (self : StateMachineState) :
    wroteOf (failActiveCommand (X := X) peers reason self).2 = [] :=
  filterMap_failActiveCommand (fun _ _ _ => rfl) peers reason self

@[simp] theorem wroteOf_transitionState (peers : Peers) (self : StateMachineState)
    (event : LineEvent) :
    wroteOf (transitionState (X := X) peers self event).2.effects = [] := by
  refine List.filterMap_eq_nil_iff.mpr fun e he => ?_
  rcases mem_transitionState he with
    ⟨_, _, rfl⟩ | ⟨_, rfl⟩ | ⟨_, rfl⟩ | ⟨_, _, _, rfl⟩ <;> rfl

end StateMachineState

namespace RunState

/-- The queued writes. -/
def writes (s : RunState) : List (List UInt8 × Option OutgoingCommand) :=
  s.events.filterMap fun e => match e.1 with
    | .writeCommand data => some (data, e.2)
    | .setStatus _ => none

/-- A prompt arrives although the running SMS is not waiting for one. -/
def Resubmits (s : RunState) : LineEvent → Prop
  | .prompt _ => ∃ execution ∈ s.machine.active?,
      execution.command.request.isSms ∧ execution.context.state ≠ .waitingForPrompt
  | .line _ => False

/-- A line completes the running command. -/
def Completes (s : RunState) : LineEvent → Prop
  | .line content => StateMachineState.isPayload (.line content) ∧
      ∃ execution ∈ s.machine.active?, execution.context.state.isComplete (trim content)
  | .prompt _ => False

/-- A command is completed or dropped while a write is still queued. -/
def Orphans (s : RunState) (event : LineEvent) : Prop :=
  s.writes ≠ [] ∧ (s.Drops event ∨ s.Completes event)

/-- A step that resubmits or orphans a PDU. -/
def Misfires (s : RunState) : Input → Prop
  | .lineEvent => ∃ event ∈ s.phase.nextEvent?, s.Resubmits event ∨ s.Orphans event
  | _ => False

instance (s : RunState) (event : LineEvent) : Decidable (s.Drops event) :=
  decidable_of_iff _ dropped_ne_nil_iff

instance (s : RunState) : DecidablePred s.Resubmits
  | .prompt _ => inferInstanceAs (Decidable (∃ execution ∈ s.machine.active?,
      execution.command.request.isSms ∧ execution.context.state ≠ .waitingForPrompt))
  | .line _ => inferInstanceAs (Decidable False)

instance (s : RunState) : DecidablePred s.Completes
  | .line content => inferInstanceAs (Decidable (StateMachineState.isPayload (.line content) ∧
      ∃ execution ∈ s.machine.active?, execution.context.state.isComplete (trim content)))
  | .prompt _ => inferInstanceAs (Decidable False)

instance (s : RunState) (event : LineEvent) : Decidable (s.Orphans event) :=
  inferInstanceAs (Decidable (_ ∧ _))

instance (s : RunState) : DecidablePred s.Misfires
  | .lineEvent => inferInstanceAs (Decidable
      (∃ event ∈ s.phase.nextEvent?, s.Resubmits event ∨ s.Orphans event))
  | .sendRequest .. | .hangUp _ | .workerEvent _ | .command _ | .read _ | .endOfRead
  | .timeoutTick _ | .shutdown | .drained | .rejectCommand | .rejected | .slept
  | .reconnectTick _ => inferInstanceAs (Decidable False)

/-- The held command and the state it is in. -/
def running (s : RunState) : Option (OutgoingCommand × CommandState) :=
  s.machine.execution.map fun execution => (execution.command, execution.context.state)

/-- A queued write belongs to the held command: its AT command, or its PDU for the first time. -/
structure Submission (s : RunState) (t : List (Effect X)) : Prop where
  single : s.writes.length ≤ 1
  pending : ∀ data owner, (data, owner) ∈ s.writes → ∃ c state,
    s.running = some (c, state) ∧ owner = some c ∧
      ((∀ events, s.phase ≠ .reading events) ∧ data = encodeUtf8 (atCommand c.request) ∨
        state ≠ .waitingForPrompt ∧ (∃ len pdu, c.request = .sendSms len pdu) ∧
          (data, owner) ∉ wroteOf t)
  waiting : ∀ c pdu, s.running = some (c, .waitingForPrompt) →
    (pduBytes pdu, some c) ∉ wroteOf t
  once : ∀ c pdu, (wroteOf t).count (pduBytes pdu, some c) ≤ 1
  owned : ∀ data c, (data, some c) ∈ wroteOf t → c ∈ takenOf t

/-! ### Every step keeps the queued write in order -/

theorem held_eq_nil_iff {s : RunState} : s.machine.held = [] ↔ s.running = none := by
  rw [running, Option.map_eq_none_iff, StateMachineState.held_eq_nil_iff]

theorem held_eq_singleton {s : RunState} {c : OutgoingCommand} {state : CommandState}
    (h : s.running = some (c, state)) : s.machine.held = [c] := by
  obtain ⟨execution, hexecution, heq⟩ := Option.map_eq_some_iff.mp h
  obtain ⟨rfl, -⟩ := Prod.mk.inj heq
  simp [StateMachineState.held, hexecution]

/-- The writes a handler's effects add to the queue. -/
theorem writes_append {s s' : RunState} {effects : List (Effect X)}
    {owner : Option OutgoingCommand}
    (h : s'.events = s.events ++ (workerEventsOf effects).map fun e => (e, owner)) :
    s'.writes = s.writes ++ (writeCommandsOf effects).map fun data => (data, owner) := by
  rw [writes, h, List.filterMap_append]
  congr 1
  rw [workerEventsOf, writeCommandsOf, List.filterMap_map, List.filterMap_filterMap,
    List.map_filterMap]
  refine List.filterMap_congr fun e _ => ?_
  rcases e with _ | _ | _ | _ | ⟨_ | _⟩ | _ | _ | _ | _ <;> rfl

namespace Submission

variable {s s' : RunState} {t out : List (Effect X)}

/-- Without a command there is nothing left to write. -/
theorem writes_eq_nil (h : Submission s t) (hrunning : s.running = none) : s.writes = [] := by
  refine List.eq_nil_iff_forall_not_mem.mpr ?_
  rintro ⟨data, owner⟩ hmem
  obtain ⟨c, state, hsome, -⟩ := h.pending data owner hmem
  rw [hrunning] at hsome
  cases hsome

/-- While the lines of a read are processed, only a PDU can be queued. -/
theorem sendSms_of_reading (h : Submission s t) {events : List LineEvent}
    (hphase : s.phase = .reading events) (hwrites : s.writes ≠ []) :
    ∃ c state len pdu, s.running = some (c, state) ∧ state ≠ .waitingForPrompt ∧
      c.request = .sendSms len pdu := by
  obtain ⟨⟨data, owner⟩, hmem⟩ := List.exists_mem_of_ne_nil _ hwrites
  obtain ⟨c, state, hrunning, -, ⟨hnot, -⟩ | ⟨hstate, ⟨len, pdu, hrequest⟩, -⟩⟩ :=
    h.pending data owner hmem
  · exact absurd hphase (hnot events)
  · exact ⟨c, state, len, pdu, hrunning, hstate, hrequest⟩

/-- A step that writes nothing for a command, and leaves command and queue alone or drops what it
changes. -/
theorem mono (h : Submission s t) (hout : ∀ data c, (data, some c) ∉ wroteOf out)
    (hwrites : s'.writes = [] ∨ s'.writes = s.writes ∧ s'.running = s.running ∧
      ∀ events, s'.phase = .reading events → ∃ events, s.phase = .reading events)
    (hrunning : s'.running = none ∨ s'.running = s.running) : Submission s' (t ++ out) := by
  have hmem : ∀ data c, (data, some c) ∈ wroteOf (t ++ out) ↔ (data, some c) ∈ wroteOf t := by
    intro data c
    rw [wroteOf_append, List.mem_append]
    exact or_iff_left (hout data c)
  refine ⟨?_, ?_, ?_, ?_, ?_⟩
  · rcases hwrites with hnil | ⟨hsame, -⟩
    · simp [hnil]
    · rw [hsame]
      exact h.single
  · intro data owner hqueued
    rcases hwrites with hnil | ⟨hsame, hsameRunning, hphase⟩
    · rw [hnil] at hqueued
      cases hqueued
    · obtain ⟨c, state, hsome, rfl, hwhat⟩ := h.pending data owner (hsame ▸ hqueued)
      refine ⟨c, state, hsameRunning.trans hsome, rfl, hwhat.imp ?_ ?_⟩
      · rintro ⟨hnot, hdata⟩
        refine ⟨fun events hreading => ?_, hdata⟩
        obtain ⟨events', hreading'⟩ := hphase events hreading
        exact hnot events' hreading'
      · rintro ⟨hstate, hrequest, hnew⟩
        exact ⟨hstate, hrequest, fun hold => hnew ((hmem _ _).mp hold)⟩
  · intro c pdu hwaiting
    rcases hrunning with hnone | hsame
    · rw [hnone] at hwaiting
      cases hwaiting
    · rw [hmem]
      exact h.waiting c pdu (hsame ▸ hwaiting)
  · intro c pdu
    rw [wroteOf_append, List.count_append, List.count_eq_zero_of_not_mem (hout _ _)]
    exact h.once c pdu
  · intro data c hwrote
    rw [takenOf_append]
    exact List.mem_append_left _ (h.owned data c ((hmem data c).mp hwrote))

/-- The queued write reaches the port. -/
theorem write (h : Submission s t) {data : List UInt8} {owner : Option OutgoingCommand}
    {events : List (WorkerEvent × Option OutgoingCommand)}
    (hevents : s.events = (.writeCommand data, owner) :: events)
    (htaken : ∀ c ∈ s.machine.held, c ∈ takenOf t) (hwrites : s'.writes = [])
    (hrunning : s'.running = s.running) :
    Submission s' (t ++ [.wrote data owner]) := by
  have hqueued : (data, owner) ∈ s.writes := by simp [writes, hevents]
  obtain ⟨c, state, hsome, rfl, hwhat⟩ := h.pending data owner hqueued
  have hwrote : wroteOf (t ++ [.wrote data (some c)]) = wroteOf t ++ [(data, some c)] :=
    wroteOf_append _ _
  -- the PDU of a command is written now only if it was not written before
  have hnew : ∀ pdu, data = pduBytes pdu → (pduBytes pdu, some c) ∉ wroteOf t := by
    rintro pdu rfl
    rcases hwhat with ⟨-, hat⟩ | ⟨-, -, hnot⟩
    · exact absurd hat.symm (atCommand_ne_pduBytes _ _)
    · exact hnot
  refine ⟨by simp [hwrites], by simp [hwrites], ?_, ?_, ?_⟩
  · intro d pdu hwaiting
    rw [hrunning, hsome] at hwaiting
    obtain ⟨rfl, rfl⟩ := Prod.mk.inj (Option.some_inj.mp hwaiting)
    rw [hwrote, List.mem_append, List.mem_singleton]
    rintro (hold | heq)
    · exact h.waiting c pdu hsome hold
    · obtain ⟨hdata, -⟩ := Prod.mk.inj heq
      rcases hwhat with ⟨-, hat⟩ | ⟨hstate, -⟩
      · exact atCommand_ne_pduBytes _ _ (hdata.trans hat).symm
      · exact hstate rfl
  · intro d pdu
    rw [hwrote, List.count_append, List.count_singleton]
    split
    · next heq =>
      obtain ⟨hdata, howner⟩ := Prod.mk.inj (eq_of_beq heq)
      obtain rfl := Option.some_inj.mp howner
      rw [List.count_eq_zero_of_not_mem (hnew pdu hdata)]
    · exact h.once d pdu
  · intro data' d hmem
    rw [takenOf_append]
    refine List.mem_append_left _ ?_
    rw [hwrote, List.mem_append, List.mem_singleton] at hmem
    rcases hmem with hold | heq
    · exact h.owned data' d hold
    · obtain ⟨-, howner⟩ := Prod.mk.inj heq
      obtain rfl := Option.some_inj.mp howner
      exact htaken d (by rw [held_eq_singleton hsome]; exact List.mem_singleton_self d)

/-- A new command is started with its AT command queued. -/
theorem started (h : Submission s t) {c : OutgoingCommand} {state : CommandState}
    (hnew : c ∉ takenOf t) (hout : ∀ data d, (data, some d) ∉ wroteOf out)
    (hqueued : s'.writes = [(encodeUtf8 (atCommand c.request), some c)])
    (hrunning : s'.running = some (c, state)) (hphase : ∀ events, s'.phase ≠ .reading events) :
    Submission s' (t ++ out) := by
  have hmono : Submission
      { s' with worker := { s'.worker with workerEventRx := [], stateMachine := .idle } }
      (t ++ out) := h.mono hout (.inl rfl) (.inl rfl)
  refine ⟨by simp [hqueued], ?_, ?_, hmono.once, hmono.owned⟩
  · intro data owner hmem
    rw [hqueued, List.mem_singleton] at hmem
    obtain ⟨rfl, rfl⟩ := Prod.mk.inj hmem
    exact ⟨c, state, hrunning, rfl, .inl ⟨hphase, rfl⟩⟩
  · intro d pdu hwaiting hmem
    rw [hrunning] at hwaiting
    obtain rfl : c = d := (Prod.mk.inj (Option.some_inj.mp hwaiting)).1
    rw [wroteOf_append, List.mem_append] at hmem
    exact hnew (h.owned (pduBytes pdu) c (hmem.resolve_right (hout _ _)))

/-- The PDU of a command that waits for the prompt is queued. -/
theorem prompted (h : Submission s t) {c : OutgoingCommand} {len : ℕ} {pdu : Str}
    (hrequest : c.request = .sendSms len pdu) (hwaiting : s.running = some (c, .waitingForPrompt))
    (hout : ∀ data d, (data, some d) ∉ wroteOf out)
    (hqueued : s'.writes = [(pduBytes pdu, some c)])
    (hrunning : s'.running = some (c, .waitingForOk)) : Submission s' (t ++ out) := by
  have hnew : (pduBytes pdu, some c) ∉ wroteOf (t ++ out) := by
    rw [wroteOf_append, List.mem_append, not_or]
    exact ⟨h.waiting c pdu hwaiting, hout _ _⟩
  have hmono : Submission
      { s' with worker := { s'.worker with workerEventRx := [], stateMachine := .idle } }
      (t ++ out) := h.mono hout (.inl rfl) (.inl rfl)
  refine ⟨by simp [hqueued], ?_, ?_, hmono.once, hmono.owned⟩
  · intro data owner hmem
    rw [hqueued, List.mem_singleton] at hmem
    obtain ⟨rfl, rfl⟩ := Prod.mk.inj hmem
    exact ⟨c, .waitingForOk, hrunning, rfl, .inr ⟨by simp, ⟨len, pdu, hrequest⟩, hnew⟩⟩
  · intro d pdu' hwaiting'
    rw [hrunning] at hwaiting'
    cases hwaiting'

/-- A line event that neither resubmits nor orphans a PDU. -/
theorem transition (h : Submission s t) {event : LineEvent} {rest : List LineEvent}
    (hphase : s.phase = .reading (event :: rest)) (hresubmits : ¬ s.Resubmits event)
    (horphans : ¬ s.Orphans event)
    (hout : out = (s.machine.transitionState s.peers event).2.effects)
    (hmachine' : s'.machine = (s.machine.transitionState (X := X) s.peers event).1)
    (hevents' : s'.events = s.events ++
      (workerEventsOf (s.machine.transitionState (X := X) s.peers event).2.effects).map
        fun e => (e, s.machine.held.head?)) :
    Submission s' (t ++ out) := by
  have hwrites' := writes_append hevents'
  have hquiet : ∀ data c, (data, some c) ∉ wroteOf out := by
    rw [hout, StateMachineState.wroteOf_transitionState]
    simp
  -- nothing is queued and the command, if any, goes on
  have hkeeps : writeCommandsOf
        (s.machine.transitionState (X := X) s.peers event).2.effects = [] →
      s'.running = s.running → Submission s' (t ++ out) := by
    intro hnone hrunning
    rw [hnone, List.map_nil, List.append_nil] at hwrites'
    exact h.mono hquiet (.inr ⟨hwrites', hrunning, fun _ _ => ⟨_, hphase⟩⟩) (.inr hrunning)
  -- the command is gone, with nothing queued for it
  have hends : writeCommandsOf
        (s.machine.transitionState (X := X) s.peers event).2.effects = [] →
      s.writes = [] → s'.running = none → Submission s' (t ++ out) := by
    intro hnone hwrites hrunning
    rw [hnone, List.map_nil, List.append_nil, hwrites] at hwrites'
    exact h.mono hquiet (.inl hwrites') (.inl hrunning)
  have hcases := StateMachineState.transitionState_cases (X := X) s.peers s.machine event
  generalize s.machine.transitionState (X := X) s.peers event = r
    at hcases hmachine' hwrites' hkeeps hends
  generalize hevent : s.machine.classify event = modemEvent at hcases
  generalize hmachine : s.machine = m at hcases hevent hwrites'
  obtain ⟨m', outcome⟩ := r
  have hrunning : s.running = m.execution.map fun e => (e.command, e.context.state) := by
    rw [running, hmachine]
  have hrunning' : s'.running = m'.execution.map fun e => (e.command, e.context.state) := by
    rw [running, hmachine']
  cases hcases with
  | payload messageKind interrupted content =>
    refine hkeeps (by simp) ?_
    rw [hrunning', hrunning]
    cases interrupted <;> rfl
  | notice => exact hkeeps (by simp) (by rw [hrunning', hrunning])
  | header => exact hkeeps rfl (by rw [hrunning', hrunning]; rfl)
  | pdu execution len pdu content hrequest =>
    have hstate : execution.context.state = .waitingForPrompt := by
      by_contra hnot
      rw [StateMachineState.classify_eq_prompt_iff.mp hevent] at hresubmits
      exact hresubmits ⟨execution, by rw [hmachine]; rfl, by rw [hrequest]; rfl, hnot⟩
    have hwaiting : s.running = some (execution.command, .waitingForPrompt) := by
      rw [hrunning, ← hstate]
      rfl
    have hwrites : s.writes = [] := by
      by_contra hne
      obtain ⟨c, state, _, _, hsome, hnot, -⟩ := h.sendSms_of_reading hphase hne
      rw [hwaiting] at hsome
      exact hnot (Prod.mk.inj (Option.some_inj.mp hsome)).2.symm
    have hqueued : s'.writes = [(pduBytes pdu, some execution.command)] := by
      rw [hwrites', hwrites]
      rfl
    exact h.prompted hrequest hwaiting hquiet hqueued hrunning'
  | finished execution _ response hresponse =>
    refine hends ?_ ?_ hrunning'
    · obtain ⟨delivered, hrespond⟩ := execution.command.respond_effects s.peers response
      simp only [hrespond]
      rfl
    · by_contra hne
      obtain ⟨c, state, len, pdu, hsome, -, hrequest⟩ := h.sendSms_of_reading hphase hne
      rw [hrunning] at hsome
      obtain ⟨rfl, -⟩ := Prod.mk.inj (Option.some_inj.mp hsome)
      rw [← hevent] at hresponse
      obtain ⟨content, hline, hpayload, hcomplete⟩ :=
        StateMachineState.finalResponse?_sendSms rfl hrequest hresponse
      rw [hline] at horphans hpayload
      exact horphans ⟨hne, .inr ⟨hpayload, execution, by rw [hmachine]; rfl, hcomplete⟩⟩
  | progress => exact hkeeps rfl (by rw [hrunning', hrunning]; rfl)
  | ignored => exact hkeeps rfl (by rw [hrunning', hrunning])
  | invalid messageKind interrupted _ hdata =>
    refine hends rfl ?_ hrunning'
    by_contra hne
    obtain ⟨c, state, _, _, hsome, -⟩ := h.sendSms_of_reading hphase hne
    rw [hrunning] at hsome
    obtain ⟨execution, rfl, -⟩ := Option.map_eq_some_iff.mp hsome
    exact horphans ⟨hne, .inl ⟨⟨messageKind, execution, hmachine⟩,
      StateMachineState.isPayload_eq_false rfl (hevent ▸ hdata)⟩⟩

end Submission

/-- Only a queued write is written for a command. -/
theorem Move.wrote {s s' : RunState} {input : Input} {out : List (Effect X)}
    (hmove : Move s input s' out) {data : List UInt8} {c : OutgoingCommand}
    (hmem : (data, some c) ∈ wroteOf out) : (data, some c) ∈ s.writes := by
  have hbackground : ∀ {notice : List (Effect X)}, (∀ e ∈ notice, e.IsBackground) →
      (data, some c) ∈ wroteOf notice → (data, some c) ∈ s.writes :=
    fun hnotice hmem => absurd hmem (wroteOf_background hnotice data c)
  cases hmove with
  | statusEvent _ _ _ _ _ _ _ hnotice => exact hbackground hnotice hmem
  | written _ _ _ hevents =>
    rw [writes, hevents]
    exact List.mem_cons.mpr (.inl (List.mem_singleton.mp hmem))
  | writeFailed _ _ owner _ _ _ _ hevents _ hattempt hnotice =>
    simp only [wroteOf_append, List.mem_append, StateMachineState.wroteOf_failActiveCommand,
      List.not_mem_nil, false_or] at hmem
    rcases hmem with hmem | hmem
    · rcases hattempt with ⟨-, rfl⟩ | ⟨-, rfl⟩
      · rw [writes, hevents]
        exact List.mem_cons.mpr (.inl (List.mem_singleton.mp hmem))
      · cases hmem
    · exact hbackground hnotice hmem
  | readFailed _ _ _ _ _ _ hnotice =>
    refine hbackground hnotice ?_
    simpa using hmem
  | transition => simp at hmem
  | drained => simp at hmem
  | slept _ _ hnotice => exact hbackground hnotice hmem
  | notReconnected _ _ hdialogue => exact hbackground hdialogue hmem
  | reconnected _ _ _ _ hdialogue =>
    rw [wroteOf_append, List.mem_append] at hmem
    exact hmem.elim (hbackground hdialogue) (by simp [wroteOf])
  | _ => simp [wroteOf] at hmem

/-- Every step that does not misfire keeps the queued write in order. -/
theorem Move.submission {s s' : RunState} {input : Input} {t out : List (Effect X)}
    (hmove : Move s input s' out) (hwf : s.WellFormed) (h : Submission s t)
    (hmisfires : ¬ s.Misfires input) (htaken : ∀ c ∈ s.machine.held, c ∈ takenOf t)
    (hfresh : ∀ c ∈ s.commandRx, c ∉ takenOf t) : Submission s' (t ++ out) := by
  -- the command is failed with nothing queued
  have hfails : ∀ {s₀ s' : RunState} {t rest : List (Effect X)} (reason : Str),
      Submission s₀ t → (∀ e ∈ rest, e.IsBackground) → s'.writes = [] →
      s'.machine = (s.machine.failActiveCommand (X := X) s.peers reason).1 →
      Submission s' (t ++ ((s.machine.failActiveCommand s.peers reason).2 ++ rest)) := by
    intro s₀ s' t rest reason h hrest hwrites hmachine
    refine h.mono (fun data c hmem => ?_) (.inl hwrites) (.inl ?_)
    · rw [wroteOf_append, StateMachineState.wroteOf_failActiveCommand, List.nil_append] at hmem
      exact wroteOf_background hrest data c hmem
    · rw [running, hmachine, StateMachineState.execution_failActiveCommand]
      rfl
  have hnil : s.events = [] → s.writes = [] := fun hevents => by
    rw [writes, hevents]
    rfl
  have hlast : ∀ {data owner events}, s.events = (.writeCommand data, owner) :: events →
      events.filterMap (fun e => match e.1 with
        | .writeCommand data => some (data, e.2)
        | .setStatus _ => none) = [] := by
    intro data owner events hevents
    have hsingle := h.single
    rw [writes, hevents] at hsingle
    exact List.eq_nil_of_length_eq_zero (by simpa using hsingle)
  have hlost : s.machine.held = [] → s.writes = [] := fun hheld =>
    h.writes_eq_nil (held_eq_nil_iff.mp hheld)
  cases hmove with
  | requested => exact h.mono (by simp [wroteOf]) (.inr ⟨rfl, rfl, fun ev h => ⟨ev, h⟩⟩) (.inr rfl)
  | hungUp => exact h.mono (by simp [wroteOf]) (.inr ⟨rfl, rfl, fun ev h => ⟨ev, h⟩⟩) (.inr rfl)
  | statusEvent _ status owner events _ hevents _ hnotice =>
    refine h.mono (wroteOf_background hnotice) (.inr ⟨?_, rfl, fun ev h => ⟨ev, h⟩⟩) (.inr rfl)
    rw [writes, writes, hevents]
    rfl
  | written data owner events hevents => exact h.write hevents htaken (hlast hevents) rfl
  | writeFailed _ data owner events reason attempt _ hevents _ hattempt hnotice =>
    have hwritten : ∃ s₀, Submission s₀ (t ++ attempt) := by
      rcases hattempt with ⟨-, rfl⟩ | ⟨-, rfl⟩
      · exact ⟨{ s with worker := { s.worker with workerEventRx := events } },
          h.write hevents htaken (hlast hevents) rfl⟩
      · exact ⟨s, by simpa using h⟩
    obtain ⟨s₀, hwritten⟩ := hwritten
    rw [← List.append_assoc]
    exact hfails reason hwritten hnotice (hlast hevents) rfl
  | started now cmd commandRx hcommandRx hphase _ _ _ =>
    exact h.started (hfresh cmd (by simp [hcommandRx])) (by simp [wroteOf]) rfl rfl
      (by simp [hphase])
  | bytesRead _ _ _ _ hevents =>
    exact h.mono (by simp [wroteOf]) (.inl (hnil hevents)) (.inr rfl)
  | readFailed _ reason _ _ _ hevents hnotice =>
    exact hfails reason h hnotice (hnil hevents) rfl
  | transition event rest hphase =>
    have hnext : s.phase.nextEvent? = some event := by rw [hphase]; rfl
    exact h.transition hphase (fun hresubmits => hmisfires ⟨event, hnext, .inl hresubmits⟩)
      (fun horphans => hmisfires ⟨event, hnext, .inr horphans⟩) rfl rfl rfl
  | endOfRead => exact h.mono (by simp [wroteOf]) (.inr ⟨rfl, rfl, nofun⟩) (.inr rfl)
  | noTimeout => exact h.mono (by simp [wroteOf]) (.inr ⟨rfl, rfl, fun ev h => ⟨ev, h⟩⟩) (.inr rfl)
  | timedOut _ _ _ _ _ _ hevents =>
    exact h.mono (by simp [wroteOf]) (.inl (hnil hevents)) (.inl rfl)
  | shutdown => exact h.mono (by simp [wroteOf]) (.inr ⟨rfl, rfl, nofun⟩) (.inr rfl)
  | drained _ hevents =>
    rw [← List.append_nil (StateMachineState.failActiveCommand _ _ _).2]
    exact hfails "Modem is shutting down".toList h (by simp) (hnil hevents) rfl
  | rejectedCommand =>
    exact h.mono (by simp [wroteOf]) (.inr ⟨rfl, rfl, fun ev h => ⟨ev, h⟩⟩) (.inr rfl)
  | rejected => exact h.mono (by simp [wroteOf]) (.inr ⟨rfl, rfl, nofun⟩) (.inr rfl)
  | slept _ hphase hnotice =>
    exact h.mono (wroteOf_background hnotice) (.inl (hlost (hwf.stopped (.inr hphase)).2))
      (.inl rfl)
  | notReconnected _ _ hdialogue =>
    exact h.mono (wroteOf_background hdialogue) (.inr ⟨rfl, rfl, fun ev h => ⟨ev, h⟩⟩) (.inr rfl)
  | reconnected _ dialogue _ hstatus hdialogue =>
    refine h.mono (fun data c hmem => ?_) (.inl (hlost (hwf.offline hstatus))) (.inl rfl)
    rw [wroteOf_append, List.mem_append] at hmem
    exact hmem.elim (wroteOf_background hdialogue data c) (by simp [wroteOf])

theorem submission_start (config : ModemConfig) (port : Port) :
    Submission (X := X) (start X config port) [] := by
  obtain ⟨-, hmachine, hevents⟩ := start_worker (X := X) config port
  have hwrites : (start X config port).writes = [] := by
    rw [writes, hevents]
    rfl
  have hrunning : (start X config port).running = none := by
    rw [running, hmachine]
    rfl
  exact ⟨by simp [hwrites], by simp [hwrites], by simp [hrunning], by simp [wroteOf],
    by simp [wroteOf]⟩

/-! ### Runs -/

section

variable {display : TransitionError X → Str} {config : ModemConfig} {port : Port}
  {h : List (RunState × Input)} {s : RunState} {t : List (Effect X)}

/-- The held command was taken, and was not answered. -/
theorem run_held (hrun : Run (step display) (start X config port) h s t) {c : OutgoingCommand}
    (hc : c ∈ s.machine.held) : c ∈ takenOf t ∧ c ∉ answeredOf t := by
  have hbalance := List.perm_iff_count.mp (run_accounts hrun) c
  have hheld := List.count_pos_iff.mpr hc
  have htaken : c ∈ takenOf t := by
    rw [← List.count_pos_iff, hbalance, List.count_append, List.count_append]
    omega
  refine ⟨htaken, fun hanswered => ?_⟩
  have hone := List.count_eq_one_of_mem (run_taken_nodup hrun) htaken
  have htwice := List.count_pos_iff.mpr hanswered
  rw [hbalance, List.count_append, List.count_append] at hone
  omega

theorem run_submission (hrun : Run (step display) (start X config port) h s t)
    (hok : ∀ p ∈ h, ¬ p.1.Misfires p.2) : Submission s t := by
  refine hrun.induct_of_guard (G := fun s input => ¬ s.Misfires input)
    (submission_start config port) ?_ hok
  intro h s t input s' out hrun ih hmisfires hstep
  refine (step_move hstep).submission (run_wellFormed hrun) ih hmisfires
    (fun c hc => (run_held hrun hc).1) fun c hc htaken => ?_
  exact lt_irrefl _ ((List.pairwise_append.mp (run_increasing hrun).1).2.2 c htaken c hc)

/-- **An SMS is submitted once.** In a run in which no step misfires, the PDU of each SMS is
written at most once, and only while its command is held and not answered. -/
theorem submitted_once (hrun : Run (step display) (start X config port) h s t)
    (hok : ∀ p ∈ h, ¬ p.1.Misfires p.2) :
    (∀ c len pdu, c.request = .sendSms len pdu →
      (wroteOf t).count (pduBytes pdu, some c) ≤ 1) ∧
    ∀ input s' out c len pdu, s.step display input = some (s', out) →
      c.request = .sendSms len pdu → (pduBytes pdu, some c) ∈ wroteOf out →
      s.machine.held = [c] ∧ c ∉ answeredOf t := by
  have hsubmission := run_submission hrun hok
  refine ⟨fun c _ pdu _ => hsubmission.once c pdu, ?_⟩
  intro input s' out c _ pdu hstep _ hwrote
  have hqueued := (step_move hstep).wrote hwrote
  obtain ⟨_, state, hrunning, howner, -⟩ := hsubmission.pending _ _ hqueued
  obtain rfl := Option.some_inj.mp howner
  have hheld := held_eq_singleton hrunning
  exact ⟨hheld, (run_held hrun (by simp [hheld])).2⟩

end

/-- A requester queues an SMS, and its AT command is written. -/
def submit : List Input :=
  [.sendRequest (.sendSms 1 "AB".toList) none, .command 0, .workerEvent (.ok ())]

/-- The command `submit` queues. -/
def submitted : OutgoingCommand := .new 1 0 (.sendSms 1 "AB".toList) none

/-- An SMS that is submitted and accepted. -/
def acceptedSms : List Input :=
  submit ++ [.read (.ok (encodeUtf8 "> ".toList)), .lineEvent, .endOfRead, .workerEvent (.ok ()),
    .read (.ok (encodeUtf8 "\r\n+CMGS: 5\r\n\r\nOK\r\n".toList)), .lineEvent, .lineEvent,
    .endOfRead]

theorem submitted_once_accepted :
    ∃ (h : List (RunState × Input)) (s : RunState) (t : List (Effect .rejecting)),
      Run (step fun _ => []) (start .rejecting .default .ready) h s t ∧
      (pduBytes "AB".toList, some submitted) ∈ wroteOf t ∧
      (wroteOf t).count (pduBytes "AB".toList, some submitted) ≤ 1 := by
  obtain ⟨s, t, -, hrun, hwrote⟩ := Run.of_execute (step (X := .rejecting) fun _ => [])
    (start .rejecting .default .ready) acceptedSms
    (fun r => decide ((pduBytes "AB".toList, some submitted) ∈ wroteOf r.2)) (b := true)
    (by decide +kernel)
  have hok : ∀ p ∈ history (step (X := .rejecting) fun _ => []) (start .rejecting .default .ready)
      acceptedSms, ¬ p.1.Misfires p.2 := by
    decide +kernel
  exact ⟨_, s, t, hrun, of_decide_eq_true hwrote,
    (submitted_once hrun hok).1 submitted 1 "AB".toList rfl⟩

/-- Two prompts in one read: the PDU is written twice. A prompt and an error in one read: the
PDU is written after its command was answered. -/
theorem prompt_misfires :
    (∃ (h : List (RunState × Input)) (s : RunState) (t : List (Effect .rejecting)),
      h.map Prod.snd = submit ++ [.read (.ok (encodeUtf8 "> \r\n> ".toList)), .lineEvent,
        .lineEvent, .endOfRead, .workerEvent (.ok ()), .workerEvent (.ok ())] ∧
      Run (step fun _ => []) (start .rejecting .default .ready) h s t ∧
      (wroteOf t).count (pduBytes "AB".toList, some submitted) = 2) ∧
    ∃ (h : List (RunState × Input)) (s : RunState) (t : List (Effect .rejecting)),
      h.map Prod.snd = submit ++ [.read (.ok (encodeUtf8 "> \r\nERROR\r\n".toList)), .lineEvent,
        .lineEvent, .endOfRead] ∧
      Run (step fun _ => []) (start .rejecting .default .ready) h s t ∧
      s.machine.held = [] ∧ submitted ∈ answeredOf t ∧
      ∃ s' out, s.step (X := .rejecting) (fun _ => []) (.workerEvent (.ok ())) = some (s', out) ∧
        (pduBytes "AB".toList, some submitted) ∈ wroteOf out := by
  constructor
  · obtain ⟨s, t, hinputs, hrun, hcount⟩ := Run.of_execute (step (X := .rejecting) fun _ => [])
      (start .rejecting .default .ready)
      (submit ++ [.read (.ok (encodeUtf8 "> \r\n> ".toList)), .lineEvent, .lineEvent, .endOfRead,
        .workerEvent (.ok ()), .workerEvent (.ok ())])
      (fun r => (wroteOf r.2).count (pduBytes "AB".toList, some submitted)) (b := 2)
      (by decide +kernel)
    exact ⟨_, s, t, hinputs, hrun, hcount⟩
  · obtain ⟨s, t, hinputs, hrun, hfacts⟩ := Run.of_execute (step (X := .rejecting) fun _ => [])
      (start .rejecting .default .ready)
      (submit ++ [.read (.ok (encodeUtf8 "> \r\nERROR\r\n".toList)), .lineEvent, .lineEvent,
        .endOfRead])
      (fun r => (r.1.machine.held, decide (submitted ∈ answeredOf r.2),
        (r.1.step (X := .rejecting) (fun _ => []) (.workerEvent (.ok ()))).map
          fun next => decide ((pduBytes "AB".toList, some submitted) ∈ wroteOf next.2)))
      (b := ([], true, some true)) (by decide +kernel)
    obtain ⟨hheld, hanswered, hwrote⟩ := by simpa only [Prod.mk.injEq] using hfacts
    obtain ⟨⟨s', out⟩, hstep, hmem⟩ := Option.map_eq_some_iff.mp hwrote
    exact ⟨_, s, t, hinputs, hrun, hheld, of_decide_eq_true hanswered, s', out, hstep,
      of_decide_eq_true hmem⟩

end RunState

end SmsServer
