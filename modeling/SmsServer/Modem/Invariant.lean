import SmsServer.Modem.RunLoop

/-!
# Steps and invariants of the status loop

`Move` lists what a step of the loop can do, once and for all, and `step_move` shows that every
step is one of these moves. `WellFormed` is what holds in every reachable state: no command is
held offline or after a shutdown has failed the active one, the events of a read are only
processed online, and the handlers queue no status change but a shutdown.
-/

namespace SmsServer

open RustStd Machine

variable {X : Crates}

namespace RunState

/-- What a step does: the state before, the input, the state after and the effects. -/
inductive Move (s : RunState) : Input → RunState → List (Effect X) → Prop
  | requested (request : ModemRequest) (timeout : Option UInt32) :
    Move s (.sendRequest request timeout) (s.sendRequest request timeout) []
  | hungUp (reply : ReplyId) :
    Move s (.hangUp reply) { s with closed := reply :: s.closed } []
  /-- A queued status change is carried out. -/
  | statusEvent (portResult : Except Str Unit) (status : ModemStatus)
      (owner : Option OutgoingCommand) (events : List (WorkerEvent × Option OutgoingCommand))
      (notice : List (Effect X)) (hevents : s.events = (.setStatus status, owner) :: events)
      (hphase : s.phase = .draining ∨ s.phase = .statusLoop)
      (hnotice : ∀ e ∈ notice, e.IsBackground) :
    Move s (.workerEvent portResult)
      { s with worker := { s.worker with workerEventRx := events, status } } notice
  /-- A queued write is carried out. -/
  | written (data : List UInt8) (owner : Option OutgoingCommand)
      (events : List (WorkerEvent × Option OutgoingCommand))
      (hevents : s.events = (.writeCommand data, owner) :: events) (hstatus : s.status = .online)
      (hphase : s.phase = .draining ∨ s.phase = .statusLoop) :
    Move s (.workerEvent (.ok ())) { s with worker := { s.worker with workerEventRx := events } }
      [.wrote data owner]
  /-- A queued write fails, or is refused because the modem is not online. -/
  | writeFailed (portResult : Except Str Unit) (data : List UInt8)
      (owner : Option OutgoingCommand) (events : List (WorkerEvent × Option OutgoingCommand))
      (reason : Str) (attempt notice : List (Effect X))
      (hevents : s.events = (.writeCommand data, owner) :: events)
      (hphase : s.phase = .draining ∨ s.phase = .statusLoop)
      (hattempt : s.status = .online ∧ attempt = [.wrote data owner] ∨
        s.status ≠ .online ∧ attempt = [])
      (hnotice : ∀ e ∈ notice, e.IsBackground) :
    Move s (.workerEvent portResult)
      { s with worker := { s.worker with
          workerEventRx := events
          status := .offline
          stateMachine := (s.machine.failActiveCommand (X := X) s.peers reason).1 } }
      (attempt ++ ((s.machine.failActiveCommand s.peers reason).2 ++ notice))
  | started (now : Millis) (cmd : OutgoingCommand) (commandRx : List OutgoingCommand)
      (hcommandRx : s.commandRx = cmd :: commandRx) (hphase : s.phase = .statusLoop)
      (hstatus : s.status = .online) (hevents : s.events = []) (hidle : s.machine = .idle) :
    Move s (.command now)
      { s with
        commandRx
        worker := { s.worker with
          stateMachine :=
            .command (.new now cmd (ModemEventHandlers.initialState cmd.request))
          workerEventRx := [(.writeCommand
            (encodeUtf8 (ModemEventHandlers.atCommand cmd.request)), some cmd)] } }
      [.taken cmd, .started cmd, .workerEvent (.writeCommand
        (encodeUtf8 (ModemEventHandlers.atCommand cmd.request)))]
  | bytesRead (data : List UInt8) (hdata : data ≠ []) (hphase : s.phase = .statusLoop)
      (hstatus : s.status = .online) (hevents : s.events = []) :
    Move s (.read (.ok data))
      { s with
        lineBuffer := (s.lineBuffer.processData data).2
        phase := .reading (s.lineBuffer.processData data).1 }
      [.read data]
  /-- The port was closed, or the read failed. -/
  | readFailed (result : Except Str (List UInt8)) (reason : Str) (notice : List (Effect X))
      (hphase : s.phase = .statusLoop) (hstatus : s.status = .online) (hevents : s.events = [])
      (hnotice : ∀ e ∈ notice, e.IsBackground) :
    Move s (.read result)
      { s with worker := { s.worker with
          status := .offline
          stateMachine := (s.machine.failActiveCommand (X := X) s.peers reason).1 } }
      ((s.machine.failActiveCommand s.peers reason).2 ++ notice)
  | transition (event : LineEvent) (rest : List LineEvent)
      (hphase : s.phase = .reading (event :: rest)) :
    Move s .lineEvent
      { s with
        phase := .reading rest
        worker := { s.worker with
          stateMachine := (s.machine.transitionState (X := X) s.peers event).1
          workerEventRx := s.events ++
            (Effect.workerEventsOf (s.machine.transitionState (X := X) s.peers event).2.effects).map
              fun e => (e, s.machine.held.head?) } }
      (s.machine.transitionState s.peers event).2.effects
  | endOfRead (hphase : s.phase = .reading []) :
    Move s .endOfRead { s with phase := .statusLoop } []
  | noTimeout (now : Millis) : Move s (.timeoutTick now) s []
  /-- The running command timed out. -/
  | timedOut (now : Millis) (execution : CommandExecution) (delivered : Bool)
      (lineBuffer : LineBuffer) (hphase : s.phase = .statusLoop) (hstatus : s.status = .online)
      (hevents : s.events = []) (hmachine : s.machine = .command execution)
      (hlineBuffer : lineBuffer = s.lineBuffer ∨ lineBuffer = s.lineBuffer.clear) :
    Move s (.timeoutTick now)
      { s with lineBuffer, worker := { s.worker with stateMachine := .idle } }
      [.respond execution.command (.error "Command timed out!".toList) delivered]
  | shutdown (hphase : s.phase = .statusLoop) (hstatus : s.status = .shuttingDown) :
    Move s .shutdown { s with phase := .draining } []
  | drained (hphase : s.phase = .draining) (hevents : s.events = []) :
    Move s .drained
      { s with
        phase := .rejecting
        worker := { s.worker with
          stateMachine := (s.machine.failActiveCommand (X := X) s.peers
            "Modem is shutting down".toList).1 } }
      (s.machine.failActiveCommand s.peers "Modem is shutting down".toList).2
  | rejectedCommand (cmd : OutgoingCommand) (commandRx : List OutgoingCommand) (reason : Str)
      (delivered : Bool) (hcommandRx : s.commandRx = cmd :: commandRx)
      (hphase : s.phase = .rejecting ∨ s.phase = .statusLoop ∧ s.status = .offline) :
    Move s .rejectCommand { s with commandRx }
      [.taken cmd, .respond cmd (.error reason) delivered]
  | rejected (hphase : s.phase = .rejecting) (hcommandRx : s.commandRx = []) :
    Move s .rejected { s with phase := .sleeping } []
  | slept (notice : List (Effect X)) (hphase : s.phase = .sleeping)
      (hnotice : ∀ e ∈ notice, e.IsBackground) :
    Move s .slept
      { s with
        phase := .statusLoop
        lineBuffer := s.lineBuffer.clear
        worker := { s.worker with status := .offline, stateMachine := .idle } }
      notice
  | notReconnected (port : Port) (dialogue : List (Effect X))
      (hdialogue : ∀ e ∈ dialogue, e.IsBackground) :
    Move s (.reconnectTick port) s dialogue
  | reconnected (port : Port) (dialogue : List (Effect X)) (hphase : s.phase = .statusLoop)
      (hstatus : s.status = .offline) (hdialogue : ∀ e ∈ dialogue, e.IsBackground) :
    Move s (.reconnectTick port)
      { s with
        lineBuffer := s.lineBuffer.clear
        worker := { s.worker with status := .online, stateMachine := .idle } }
      (dialogue ++ [.reconnected])

/-! ### Every step is a move -/

private theorem goOffline_move {s : RunState} {result : Except Str (List UInt8)} (reason : Str)
    (hphase : s.phase = .statusLoop) (hstatus : s.status = .online) (hevents : s.events = []) :
    Move (X := X) s (.read result)
      { s with worker := (s.worker.goOffline (X := X) s.peers reason).1 }
      (s.worker.goOffline s.peers reason).2 := by
  obtain ⟨notice, hoffline, hnotice⟩ := s.worker.goOffline_eq (X := X) s.peers reason
  rw [hoffline]
  exact .readFailed result reason notice hphase hstatus hevents hnotice

private theorem handleEvent_move {s : RunState} {portResult : Except Str Unit}
    (hevents : s.events ≠ []) (hphase : s.phase = .draining ∨ s.phase = .statusLoop) :
    Move (X := X) s (.workerEvent portResult) (s.handleEvent (X := X) portResult).1
      (s.handleEvent portResult).2 := by
  obtain ⟨⟨event, owner⟩, events, hcons⟩ := List.exists_cons_of_ne_nil hevents
  simp only [handleEvent, hcons]
  cases event with
  | setStatus status =>
    obtain ⟨notice, hset, hnotice⟩ :=
      ({ s.worker with workerEventRx := events } : ModemWorker).setStatus_eq (X := X) status
    simp only [ModemWorker.handleWorkerEvent, hset]
    exact .statusEvent portResult status owner events notice hcons hphase hnotice
  | writeCommand data =>
    -- a write that fails and one that is refused end the same way
    have hfailed : ∀ (reason : Str) (attempt : List (Effect X)),
        (s.status = .online ∧ attempt = [.wrote data owner] ∨ s.status ≠ .online ∧ attempt = []) →
        Move (X := X) s (.workerEvent portResult)
          { s with worker := (({ s.worker with workerEventRx := events } : ModemWorker).goOffline
            (X := X) s.peers reason).1 }
          (attempt ++ (({ s.worker with workerEventRx := events } : ModemWorker).goOffline
            (X := X) s.peers reason).2) := by
      intro reason attempt hattempt
      obtain ⟨notice, hoffline, hnotice⟩ :=
        ({ s.worker with workerEventRx := events } : ModemWorker).goOffline_eq (X := X) s.peers
          reason
      rw [hoffline]
      exact .writeFailed portResult data owner events reason attempt notice hcons hphase hattempt
        hnotice
    by_cases hstatus : s.status = .online
    · have hwrite := ModemWorker.write_online (X := X) { s.worker with workerEventRx := events }
        hstatus data owner portResult
      cases portResult with
      | ok =>
        simp only [ModemWorker.handleWorkerEvent, hwrite]
        exact .written data owner events hcons hstatus hphase
      | error e =>
        simp only [ModemWorker.handleWorkerEvent, hwrite]
        exact hfailed _ _ (.inl ⟨hstatus, rfl⟩)
    · have hwrite := ModemWorker.write_refused (X := X) { s.worker with workerEventRx := events }
        hstatus data owner portResult
      simp only [ModemWorker.handleWorkerEvent, hwrite]
      exact hfailed _ _ (.inr ⟨hstatus, rfl⟩)

private theorem startCommand_move {s : RunState} {now : Millis} (hphase : s.phase = .statusLoop)
    (hstatus : s.status = .online) (hevents : s.events = [])
    (haccept : s.machine.canAcceptCommand) (hcommandRx : s.commandRx ≠ []) :
    Move (X := X) s (.command now) (s.startCommand (X := X) now).1 (s.startCommand now).2 := by
  obtain ⟨cmd, commandRx, hcons⟩ := List.exists_cons_of_ne_nil hcommandRx
  have hstart := StateMachineState.startCommand_eq (X := X) (show s.peers.eventRx = true from rfl)
    now s.machine cmd
  have hqueue : s.worker.workerEventRx = [] := hevents
  simp only [startCommand, hcons, hstart, ModemWorker.enqueue, hqueue, List.nil_append]
  exact .started now cmd commandRx hcons hphase hstatus hevents
    (StateMachineState.canAcceptCommand_iff.mp haccept)

private theorem timeoutTick_move {s : RunState} {now : Millis} (hphase : s.phase = .statusLoop)
    (hstatus : s.status = .online) (hevents : s.events = []) :
    Move (X := X) s (.timeoutTick now) (s.timeoutTick (X := X) now).1 (s.timeoutTick now).2 := by
  rcases s.machine.handleCommandTimeout_cases (X := X) s.peers now with
    hnone | ⟨execution, delivered, result, hmachine, -, hsome⟩
  · simp only [timeoutTick, hnone]
    exact .noTimeout now
  · simp only [timeoutTick, hsome]
    exact .timedOut now execution delivered _ hphase hstatus hevents hmachine
      (ite_eq_or_eq _ _ _).symm

private theorem rejectCommand_move {s : RunState} (hcommandRx : s.commandRx ≠ [])
    (hphase : s.phase = .rejecting ∨ s.phase = .statusLoop ∧ s.status = .offline) :
    Move (X := X) s .rejectCommand (s.rejectCommand (X := X)).1 s.rejectCommand.2 := by
  obtain ⟨cmd, commandRx, hcons⟩ := List.exists_cons_of_ne_nil hcommandRx
  simp only [rejectCommand, hcons]
  obtain ⟨delivered, hrespond⟩ := cmd.respond_effects (X := X) s.peers
    (.error (if s.phase = .rejecting then "Modem is shutting down" else "Modem is offline").toList)
  rw [hrespond]
  exact .rejectedCommand cmd commandRx _ delivered hcons hphase

/-- **Case analysis.** Every step of the loop is a move. -/
theorem step_move {display : TransitionError X → Str} {s s' : RunState} {input : Input}
    {out : List (Effect X)} (h : s.step display input = some (s', out)) : Move s input s' out := by
  obtain ⟨henabled, hperform⟩ := step_eq_some_iff.mp h
  obtain ⟨rfl, rfl⟩ : (s.perform display input).1 = s' ∧ (s.perform display input).2 = out := by
    rw [hperform]
    exact ⟨rfl, rfl⟩
  clear h hperform
  have hidle : ¬ s.Busy → s.events = [] := fun hbusy => by
    by_contra hne
    exact hbusy (.inl hne)
  cases input with
  | sendRequest request timeout => exact .requested request timeout
  | hangUp reply => exact .hungUp reply
  | workerEvent portResult =>
    obtain ⟨hevents, hphase⟩ := henabled
    exact handleEvent_move hevents (hphase.imp_right And.left)
  | command now =>
    obtain ⟨hphase, hstatus, hevents, haccept, hcommandRx⟩ := henabled
    exact startCommand_move hphase hstatus hevents haccept hcommandRx
  | read result =>
    obtain ⟨hphase, hstatus, hbusy, -⟩ := henabled
    match result with
    | .error e => exact goOffline_move _ hphase hstatus (hidle hbusy)
    | .ok [] => exact goOffline_move _ hphase hstatus (hidle hbusy)
    | .ok (b :: bs) => exact .bytesRead (b :: bs) (by simp) hphase hstatus (hidle hbusy)
  | lineEvent =>
    obtain ⟨event, rest, hphase⟩ : ∃ event rest, s.phase = .reading (event :: rest) := by
      have hnext : s.phase.nextEvent?.isSome := henabled
      unfold Phase.nextEvent? at hnext
      split at hnext
      · exact ⟨_, _, ‹_›⟩
      · cases hnext
    simp only [perform, processLineEvent, hphase, ModemWorker.processLineEvent_eq]
    exact .transition event rest hphase
  | endOfRead => exact .endOfRead henabled
  | timeoutTick now =>
    obtain ⟨hphase, hstatus, hbusy⟩ := henabled
    exact timeoutTick_move hphase hstatus (hidle hbusy)
  | shutdown => exact .shutdown henabled.1 henabled.2
  | drained => exact .drained henabled.1 henabled.2
  | rejectCommand => exact rejectCommand_move henabled.1 henabled.2
  | rejected => exact .rejected henabled.1 henabled.2
  | slept =>
    obtain ⟨notice, hset, hnotice⟩ := s.worker.setStatus_eq (X := X) .offline
    simp only [perform, hset]
    exact .slept notice henabled hnotice
  | reconnectTick port =>
    obtain ⟨dialogue, hdialogue, hnone | hsome⟩ := s.worker.tryReconnect_cases (X := X) port
    · simp only [perform, tryReconnect, hnone]
      exact .notReconnected port dialogue hdialogue
    · simp only [perform, tryReconnect, hsome]
      exact .reconnected port dialogue henabled.1 henabled.2 hdialogue

/-- A command is started online, from an idle machine, and is the first of the queue. -/
theorem Move.of_started {s s' : RunState} {input : Input} {out : List (Effect X)}
    (hmove : Move s input s' out) {c : OutgoingCommand} (hc : .started c ∈ out) :
    (∃ now, input = .command now) ∧ s.status = .online ∧ s.machine = .idle ∧
      s.commandRx.head? = some c ∧ .taken c ∈ out := by
  have hfailed : ∀ {reason : Str},
      .started c ∉ (s.machine.failActiveCommand (X := X) s.peers reason).2 := fun h => by
    obtain ⟨_, _, heq⟩ := StateMachineState.mem_failActiveCommand h
    cases heq
  cases hmove with
  | statusEvent _ _ _ _ _ _ _ hnotice => exact (hnotice _ hc).elim
  | writeFailed _ _ _ _ _ attempt _ _ _ hattempt hnotice =>
    rcases List.mem_append.mp hc with hc | hc
    · rcases hattempt with ⟨-, rfl⟩ | ⟨-, rfl⟩ <;> simp at hc
    · exact ((List.mem_append.mp hc).elim (fun h => absurd h hfailed) (hnotice _)).elim
  | started now cmd commandRx hcommandRx _ hstatus _ hidle =>
    obtain rfl : c = cmd := by simpa using hc
    exact ⟨⟨now, rfl⟩, hstatus, hidle, by rw [hcommandRx]; rfl, List.mem_cons_self⟩
  | readFailed _ _ _ _ _ _ hnotice =>
    exact ((List.mem_append.mp hc).elim (fun h => absurd h hfailed) (hnotice _)).elim
  | transition =>
    rcases StateMachineState.mem_transitionState hc with
      ⟨_, _, h⟩ | ⟨_, h⟩ | ⟨_, h⟩ | ⟨_, _, _, h⟩ <;> cases h
  | drained => exact absurd hc hfailed
  | slept _ _ hnotice => exact (hnotice _ hc).elim
  | notReconnected _ _ hdialogue => exact (hdialogue _ hc).elim
  | reconnected _ _ _ _ hdialogue =>
    exact ((List.mem_append.mp hc).elim (hdialogue _) (by simp)).elim
  | _ => simp at hc

/-! ### Well-formed states -/

/-- What holds in every reachable state of the loop. -/
structure WellFormed (s : RunState) : Prop where
  started : s.status ≠ .startup
  offline : s.status = .offline → s.machine.held = []
  reading : ∀ events, s.phase = .reading events → s.status = .online
  draining : s.phase = .draining → s.status ≠ .online
  stopped : s.phase = .rejecting ∨ s.phase = .sleeping →
    s.status ≠ .online ∧ s.machine.held = []
  /-- The only status change the handlers queue is a shutdown. -/
  events : ∀ e ∈ s.events, e.1 = .setStatus .shuttingDown ∨ ∃ data, e.1 = .writeCommand data

/-- The loop is entered online or offline, with nothing held and nothing queued. -/
theorem start_worker (config : ModemConfig) (port : Port) :
    ((start X config port).status = .online ∨ (start X config port).status = .offline) ∧
      (start X config port).machine = .idle ∧ (start X config port).events = [] := by
  obtain ⟨status, hstatus, hworker⟩ := ModemWorker.initializeAndRun_eq (X := X) config port
  have hs : (start X config port).worker = { ModemWorker.new config with status } := hworker
  rw [RunState.status, RunState.machine, RunState.events, hs]
  exact ⟨hstatus, rfl, rfl⟩

theorem wellFormed_start (config : ModemConfig) (port : Port) :
    (start X config port).WellFormed := by
  obtain ⟨hstatus, hmachine, hevents⟩ := start_worker (X := X) config port
  refine ⟨?_, fun _ => by rw [hmachine, StateMachineState.held_idle], nofun, nofun, ?_, ?_⟩
  · rcases hstatus with h | h <;> rw [h] <;> simp
  · rintro (h | h) <;> cases h
  · rw [hevents]
    simp

/-- A well-formed state steps to well-formed states only. -/
theorem Move.wellFormed {s s' : RunState} {input : Input} {out : List (Effect X)}
    (hmove : Move s input s' out) (h : s.WellFormed) : s'.WellFormed := by
  have hloop : ∀ {t : RunState}, t.phase = .statusLoop → t.status ≠ .startup →
      (t.status = .offline → t.machine.held = []) →
      (∀ e ∈ t.events, e.1 = .setStatus .shuttingDown ∨ ∃ data, e.1 = .writeCommand data) →
      t.WellFormed := by
    intro t hphase hstarted hoffline hevents
    exact ⟨hstarted, hoffline, by simp [hphase], by simp [hphase], by simp [hphase], hevents⟩
  cases hmove with
  | requested => exact ⟨h.started, h.offline, h.reading, h.draining, h.stopped, h.events⟩
  | hungUp => exact ⟨h.started, h.offline, h.reading, h.draining, h.stopped, h.events⟩
  | statusEvent _ status owner events _ hevents hphase =>
    -- no handler queues another status, so the loop does not come online here
    obtain rfl : status = .shuttingDown := by
      simpa using h.events (.setStatus status, owner) (by simp [hevents])
    refine ⟨by simp, by simp, fun evs hreading => ?_, by simp, fun hstopped => ?_,
      fun e he => h.events e (by simp [hevents, he])⟩
    · rcases hphase with hphase | hphase <;> simp [hphase] at hreading
    · rcases hphase with hphase | hphase <;> simp [hphase] at hstopped
  | written data owner events hevents =>
    exact ⟨h.started, h.offline, h.reading, h.draining, h.stopped,
      fun e he => h.events e (by simp [hevents, he])⟩
  | writeFailed _ _ _ events _ _ _ hevents hphase =>
    refine ⟨by simp, fun _ => by simp, fun evs hreading => ?_, by simp, fun _ => by simp,
      fun e he => h.events e (by simp [hevents, he])⟩
    rcases hphase with hphase | hphase <;> simp [hphase] at hreading
  | started _ _ _ _ hphase hstatus =>
    refine hloop hphase h.started ?_ ?_
    · simp [hstatus]
    · simp
  | bytesRead data _ _ hstatus =>
    refine ⟨h.started, h.offline, fun _ _ => hstatus, by simp, by simp, h.events⟩
  | readFailed _ _ _ hphase => exact hloop hphase (by simp) (fun _ => by simp) h.events
  | transition event rest hphase =>
    have hstatus : s.status = .online := h.reading _ hphase
    refine ⟨h.started, by simp [hstatus], fun _ _ => hstatus, by simp, by simp, fun e he => ?_⟩
    rcases List.mem_append.mp he with he | he
    · exact h.events e he
    · obtain ⟨e, hqueued, rfl⟩ := List.mem_map.mp he
      rcases StateMachineState.workerEventsOf_transitionState hqueued with
        rfl | ⟨_, _, pdu, _, _, _, _, rfl⟩
      · exact .inl rfl
      · exact .inr ⟨_, rfl⟩
  | endOfRead => exact hloop rfl h.started h.offline h.events
  | noTimeout => exact h
  | timedOut _ _ _ _ hphase => exact hloop hphase h.started (fun _ => rfl) h.events
  | shutdown _ hstatus =>
    exact ⟨h.started, h.offline, by simp, by simp [hstatus], by simp, h.events⟩
  | drained hphase =>
    refine ⟨h.started, fun _ => by simp, by simp, by simp,
      fun _ => ⟨h.draining hphase, by simp⟩, h.events⟩
  | rejectedCommand => exact ⟨h.started, h.offline, h.reading, h.draining, h.stopped, h.events⟩
  | rejected hphase =>
    exact ⟨h.started, h.offline, by simp, by simp, fun _ => h.stopped (.inl hphase), h.events⟩
  | slept => exact hloop rfl (by simp) (fun _ => rfl) h.events
  | notReconnected => exact h
  | reconnected _ _ hphase => exact hloop hphase (by simp) (by simp) h.events

/-- Every reachable state is well formed. -/
theorem run_wellFormed {display : TransitionError X → Str} {config : ModemConfig} {port : Port}
    {h : List (RunState × Input)} {s : RunState} {t : List (Effect X)}
    (hrun : Run (step display) (start X config port) h s t) : s.WellFormed :=
  hrun.invariant (wellFormed_start config port) fun _ _ _ _ hwf hstep =>
    (step_move hstep).wellFormed hwf

end RunState

end SmsServer
