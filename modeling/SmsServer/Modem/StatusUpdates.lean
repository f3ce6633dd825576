import SmsServer.Modem.Status

/-!
# Status updates

The status of the worker, as the application hears of it. Every change goes through `set_status`,
which announces it with the status before, so the updates of a run are a path from `Startup` to
the present status (`run_statusUpdates`). `Follows` lists the changes there are: a modem that was
lost comes back from `Offline` only, and a shutdown ends there.
-/

namespace SmsServer

open RustStd Machine

variable {X : Crates}

/-- The status updates sent to the application. -/
def Effect.statusUpdatesOf : List (Effect X) → List (ModemStatus × ModemStatus) :=
  List.filterMap fun
    | mainMessage (.modemStatusUpdate previous current) => some (previous, current)
    | _ => none

@[simp] theorem Effect.statusUpdatesOf_append (t u : List (Effect X)) :
    statusUpdatesOf (t ++ u) = statusUpdatesOf t ++ statusUpdatesOf u := List.filterMap_append

open Effect

namespace ModemStatus

/-- The update for a change of status, if it is one. -/
def changeOf (previous current : ModemStatus) : List (ModemStatus × ModemStatus) :=
  if previous = current then [] else [(previous, current)]

@[simp] theorem changeOf_self (status : ModemStatus) : changeOf status status = [] := if_pos rfl

/-- The changes of status there are. -/
inductive Follows : ModemStatus → ModemStatus → Prop
  | initialized : Follows startup online
  | notInitialized : Follows startup offline
  | lost : Follows online offline
  | shutdown : Follows online shuttingDown
  /-- The modem had announced its shutdown before the connection was found broken. -/
  | lateShutdown : Follows offline shuttingDown
  | stopped : Follows shuttingDown offline
  | reconnected : Follows offline online

/-- The updates lead from one status to another, each from where the one before led. -/
def Path : ModemStatus → List (ModemStatus × ModemStatus) → ModemStatus → Prop
  | first, [], last => first = last
  | first, (previous, current) :: updates, last =>
    first = previous ∧ Follows previous current ∧ Path current updates last

theorem Path.append {first middle last : ModemStatus} {us vs : List (ModemStatus × ModemStatus)}
    (h : Path first us middle) (h' : Path middle vs last) : Path first (us ++ vs) last := by
  induction us generalizing first with
  | nil =>
    obtain rfl : first = middle := h
    exact h'
  | cons u us ih =>
    obtain ⟨hfirst, hfollows, hrest⟩ := h
    exact ⟨hfirst, hfollows, ih hrest⟩

theorem Path.changeOf {previous current : ModemStatus}
    (h : previous ≠ current → Follows previous current) :
    Path previous (changeOf previous current) current := by
  by_cases heq : previous = current
  · rw [ModemStatus.changeOf, if_pos heq]
    exact heq
  · rw [ModemStatus.changeOf, if_neg heq]
    exact ⟨rfl, h heq, rfl⟩

/-- A path can be cut at any of its updates. -/
theorem Path.split {first last previous current : ModemStatus}
    {us vs : List (ModemStatus × ModemStatus)}
    (h : Path first (us ++ (previous, current) :: vs) last) :
    Path first us previous ∧ Follows previous current ∧ Path current vs last := by
  induction us generalizing first with
  | nil =>
    obtain ⟨hfirst, hfollows, hrest⟩ := h
    exact ⟨hfirst, hfollows, hrest⟩
  | cons u us ih =>
    obtain ⟨hfirst, hfollows, hrest⟩ := h
    obtain ⟨hbefore, hcut⟩ := ih hrest
    exact ⟨⟨hfirst, hfollows, hbefore⟩, hcut⟩

end ModemStatus

open ModemStatus

/-! ### What the methods announce -/

theorem statusUpdatesOf_eq_nil {out : List (Effect X)}
    (h : ∀ e ∈ out, ∀ previous current, e ≠ .mainMessage (.modemStatusUpdate previous current)) :
    statusUpdatesOf out = [] := by
  refine List.filterMap_eq_nil_iff.mpr fun e he => ?_
  split
  · exact absurd rfl (h _ he _ _)
  · rfl

namespace StateMachineState

theorem statusUpdatesOf_failActiveCommand (peers : Peers) (reason : Str) (m : StateMachineState) :
    statusUpdatesOf (m.failActiveCommand (X := X) peers reason).2 = [] := by
  refine statusUpdatesOf_eq_nil fun e he previous current => ?_
  obtain ⟨c, d, rfl⟩ := mem_failActiveCommand he
  simp

theorem decodeIncomingSms_ok {content : Str} {message : ModemIncomingMessage X}
    (h : ModemEventHandlers.decodeIncomingSms content = .ok message) :
    ∃ sms, message = .incomingSms sms := by
  obtain ⟨contentHex, -, h⟩ := bind_eq_ok_iff.mp h
  obtain ⟨deliverPdu, -, h⟩ := bind_eq_ok_iff.mp h
  obtain ⟨msg, -, h⟩ := bind_eq_ok_iff.mp h
  dsimp only at h
  split at h <;> obtain ⟨header, -, h⟩ := bind_eq_ok_iff.mp h <;>
    exact ⟨_, (Except.ok.inj h).symm⟩

theorem decodeDeliveryReport_ok {content : Str} {message : ModemIncomingMessage X}
    (h : ModemEventHandlers.decodeDeliveryReport content = .ok message) :
    ∃ report, message = .deliveryReport report := by
  obtain ⟨contentHex, -, h⟩ := bind_eq_ok_iff.mp h
  obtain ⟨statusReportPdu, -, h⟩ := bind_eq_ok_iff.mp h
  exact ⟨_, (Except.ok.inj h).symm⟩

/-- What the handlers decode is not a status update. -/
theorem handleUnsolicitedMessage_ne {peers : Peers} {messageKind : UnsolicitedMessageKind}
    {content : Str} {message : ModemIncomingMessage X}
    (h : (ModemEventHandlers.handleUnsolicitedMessage peers messageKind content).result =
      .ok (some message)) (previous current : ModemStatus) :
    message ≠ .modemStatusUpdate previous current := by
  have hmap : ∀ {A : Type} {x : Except Str A} {f : A → Option (ModemIncomingMessage X)},
      x.map f = .ok (some message) → ∃ a, x = .ok a ∧ f a = some message := by
    intro A x f hx
    cases x with
    | error e => cases hx
    | ok a => exact ⟨a, rfl, Except.ok.inj hx⟩
  cases messageKind with
  | incomingSms =>
    obtain ⟨decoded, hdecoded, ⟨⟩⟩ := hmap h
    obtain ⟨sms, rfl⟩ := decodeIncomingSms_ok hdecoded
    simp
  | deliveryReport =>
    obtain ⟨decoded, hdecoded, ⟨⟩⟩ := hmap h
    obtain ⟨report, rfl⟩ := decodeDeliveryReport_ok hdecoded
    simp
  | networkStatusChange =>
    obtain rfl := Option.some.inj (Except.ok.inj h)
    simp
  | shuttingDown =>
    obtain ⟨_, -, hnone⟩ := hmap h
    cases hnone
  | gnssPositionReport =>
    obtain ⟨report, -, ⟨⟩⟩ := hmap h
    simp

/-- The handlers make no status updates. -/
theorem statusUpdatesOf_handleUnsolicited (peers : Peers) (messageKind : UnsolicitedMessageKind)
    (content : Str) :
    statusUpdatesOf (handleUnsolicited (X := X) peers messageKind content) = [] := by
  refine statusUpdatesOf_eq_nil fun e he previous current heq => ?_
  subst heq
  rw [handleUnsolicited, List.cons_append, List.mem_cons] at he
  rcases he with he | he
  · cases he
  rcases List.mem_append.mp he with he | he
  · cases messageKind with
    | shuttingDown =>
      simp only [ModemEventHandlers.handleUnsolicitedMessage, ModemEventHandlers.setStatus,
        ModemEventHandlers.send] at he
      split at he <;> simp at he
    | _ => simp [ModemEventHandlers.handleUnsolicitedMessage] at he
  · split at he
    · next message hmessage =>
      obtain rfl := Effect.mainMessage.inj (List.mem_singleton.mp he)
      exact handleUnsolicitedMessage_ne hmessage previous current rfl
    · cases he

theorem statusUpdatesOf_transitionState (peers : Peers) (m : StateMachineState)
    (event : LineEvent) :
    statusUpdatesOf (m.transitionState (X := X) peers event).2.effects = [] := by
  have hcases := transitionState_cases (X := X) peers m event
  generalize m.transitionState (X := X) peers event = r at hcases ⊢
  generalize m.classify event = modemEvent at hcases
  obtain ⟨m', outcome⟩ := r
  cases hcases with
  | payload => exact statusUpdatesOf_handleUnsolicited _ _ _
  | notice => exact statusUpdatesOf_handleUnsolicited _ _ _
  | finished execution _ response =>
    obtain ⟨d, hrespond⟩ := execution.command.respond_effects peers response
    rw [hrespond]
    rfl
  | _ => rfl

end StateMachineState

namespace Port

/-- The dialogue only writes. -/
theorem statusUpdatesOf_exchange (self : Port) (command : List UInt8) :
    statusUpdatesOf (self.exchange (X := X) command).2.1 = [] := by
  have hwrite : (self.writeAll (X := X) command).2.1 = [.wrote command none] := by
    unfold writeAll
    split <;> rfl
  have hexchange : (self.exchange (X := X) command).2.1 = [.wrote command none] := by
    unfold exchange
    rw [← hwrite]
    simp only
    split <;> rfl
  rw [hexchange]
  rfl

theorem statusUpdatesOf_testConnection (self : Port) :
    statusUpdatesOf (self.testConnection (X := X)).2.1 = [] := by
  have hexchange := self.statusUpdatesOf_exchange (X := X) (encodeUtf8 "AT\r\n".toList)
  unfold testConnection
  simp only
  split
  · exact hexchange
  · split <;> exact hexchange

theorem statusUpdatesOf_sendInitializationCommands (self : Port) (commands : List (Str × Str)) :
    statusUpdatesOf (self.sendInitializationCommands (X := X) commands).2.1 = [] := by
  induction commands generalizing self with
  | nil => rfl
  | cons command commands ih =>
    have hexchange := self.statusUpdatesOf_exchange (X := X) (encodeUtf8 command.1)
    unfold sendInitializationCommands
    simp only
    split
    · exact hexchange
    · split
      · exact hexchange
      · rw [statusUpdatesOf_append, hexchange, ih, List.append_nil]

end Port

namespace ModemWorker

theorem statusUpdatesOf_setStatus (self : ModemWorker) (status : ModemStatus) :
    statusUpdatesOf (self.setStatus (X := X) status).2 = changeOf self.status status := by
  rw [setStatus, changeOf]
  split <;> rfl

theorem status_setStatus (self : ModemWorker) (status : ModemStatus) :
    (self.setStatus (X := X) status).1.status = status := by
  obtain ⟨notice, heq, -⟩ := self.setStatus_eq (X := X) status
  rw [heq]

theorem statusUpdatesOf_goOffline (peers : Peers) (self : ModemWorker) (reason : Str) :
    statusUpdatesOf (self.goOffline (X := X) peers reason).2 = changeOf self.status .offline ∧
      (self.goOffline (X := X) peers reason).1.status = .offline := by
  constructor
  · rw [goOffline]
    simp only [statusUpdatesOf_append, statusUpdatesOf_setStatus, failActiveCommand,
      StateMachineState.statusUpdatesOf_failActiveCommand, List.nil_append]
  · exact status_setStatus _ _

theorem statusUpdatesOf_handleWorkerEvent (peers : Peers) (self : ModemWorker)
    (owner : Option OutgoingCommand) (portResult : Except Str Unit) (event : WorkerEvent) :
    statusUpdatesOf (self.handleWorkerEvent (X := X) peers owner portResult event).2 =
      changeOf self.status
        (self.handleWorkerEvent (X := X) peers owner portResult event).1.status := by
  cases event with
  | setStatus status =>
    rw [handleWorkerEvent, statusUpdatesOf_setStatus, status_setStatus]
  | writeCommand data =>
    have hwrite : statusUpdatesOf (self.write (X := X) data owner portResult).effects = [] := by
      rw [write]
      split <;> rfl
    unfold handleWorkerEvent
    simp only
    split
    · rw [hwrite, changeOf_self]
    · rw [statusUpdatesOf_append, hwrite, List.nil_append, (statusUpdatesOf_goOffline _ _ _).1,
        (statusUpdatesOf_goOffline (X := X) _ _ _).2]

theorem statusUpdatesOf_tryReconnect (self : ModemWorker) (port : Port) :
    statusUpdatesOf (self.tryReconnect (X := X) port).2.1 =
      changeOf self.status (self.tryReconnect (X := X) port).1.status := by
  unfold tryReconnect
  split
  · exact (changeOf_self _).symm
  · simp only
    split
    · rw [Port.statusUpdatesOf_testConnection, changeOf_self]
    · split
      · rw [statusUpdatesOf_append, Port.statusUpdatesOf_testConnection,
          Port.statusUpdatesOf_sendInitializationCommands, List.append_nil, changeOf_self]
      · simp only [statusUpdatesOf_append, Port.statusUpdatesOf_testConnection,
          Port.statusUpdatesOf_sendInitializationCommands, statusUpdatesOf_setStatus,
          status_setStatus, List.append_nil, List.nil_append]

/-- The start announces whether the modem was initialized. -/
theorem statusUpdatesOf_initializeAndRun (config : ModemConfig) (port : Port) :
    statusUpdatesOf ((new config).initializeAndRun (X := X) port).2 =
      changeOf .startup ((new config).initializeAndRun (X := X) port).1.status := by
  unfold initializeAndRun
  simp only [statusUpdatesOf_append, Port.statusUpdatesOf_testConnection,
    Port.statusUpdatesOf_sendInitializationCommands, statusUpdatesOf_setStatus, status_setStatus,
    List.append_nil, List.nil_append]
  rfl

end ModemWorker

/-! ### Steps and runs -/

namespace RunState

theorem statusUpdatesOf_handleEvent (s : RunState) (portResult : Except Str Unit) :
    statusUpdatesOf (s.handleEvent (X := X) portResult).2 =
      changeOf s.status (s.handleEvent (X := X) portResult).1.status := by
  unfold handleEvent
  split
  · exact (changeOf_self _).symm
  · exact ModemWorker.statusUpdatesOf_handleWorkerEvent ..

theorem statusUpdatesOf_read (s : RunState) (result : Except Str (List UInt8)) :
    statusUpdatesOf (s.read (X := X) result).2 =
      changeOf s.status (s.read (X := X) result).1.status := by
  have hoffline : ∀ reason, statusUpdatesOf (s.worker.goOffline (X := X) s.peers reason).2 =
      changeOf s.status (s.worker.goOffline (X := X) s.peers reason).1.status := fun reason => by
    obtain ⟨hupdates, hstatus⟩ := s.worker.statusUpdatesOf_goOffline (X := X) s.peers reason
    rw [hupdates, hstatus]
  unfold read
  split
  · exact hoffline _
  · exact (changeOf_self _).symm
  · exact hoffline _

theorem statusUpdatesOf_startCommand (s : RunState) (now : Millis) :
    statusUpdatesOf (s.startCommand (X := X) now).2 = [] ∧
      (s.startCommand (X := X) now).1.status = s.status := by
  unfold startCommand
  split
  · exact ⟨rfl, rfl⟩
  · next cmd commandRx _ =>
    have hstart := StateMachineState.startCommand_eq (X := X)
      (show s.peers.eventRx = true from rfl) now s.machine cmd
    simp only [hstart]
    exact ⟨rfl, rfl⟩

theorem statusUpdatesOf_processLineEvent (display : TransitionError X → Str) (s : RunState) :
    statusUpdatesOf (s.processLineEvent display).2 = [] ∧
      (s.processLineEvent display).1.status = s.status := by
  unfold processLineEvent
  split
  · simp only [ModemWorker.processLineEvent_eq]
    exact ⟨StateMachineState.statusUpdatesOf_transitionState _ _ _, rfl⟩
  · exact ⟨rfl, rfl⟩

theorem statusUpdatesOf_timeoutTick (s : RunState) (now : Millis) :
    statusUpdatesOf (s.timeoutTick (X := X) now).2 = [] ∧
      (s.timeoutTick (X := X) now).1.status = s.status := by
  rcases s.machine.handleCommandTimeout_cases (X := X) s.peers now with
    hnone | ⟨execution, delivered, result, -, -, hsome⟩
  · simp only [timeoutTick, hnone]
    exact ⟨rfl, trivial⟩
  · simp only [timeoutTick, hsome]
    exact ⟨rfl, trivial⟩

theorem statusUpdatesOf_rejectCommand (s : RunState) :
    statusUpdatesOf (s.rejectCommand (X := X)).2 = [] ∧
      (s.rejectCommand (X := X)).1.status = s.status := by
  unfold rejectCommand
  split
  · exact ⟨rfl, rfl⟩
  · next cmd commandRx _ =>
    simp only
    obtain ⟨delivered, hrespond⟩ := cmd.respond_effects (X := X) s.peers (.error (if s.phase =
      .rejecting then "Modem is shutting down" else "Modem is offline").toList)
    rw [hrespond]
    exact ⟨rfl, trivial⟩

theorem statusUpdatesOf_reconnectTick (s : RunState) (port : Port) :
    statusUpdatesOf (s.tryReconnect (X := X) port).2 =
      changeOf s.status (s.tryReconnect (X := X) port).1.status := by
  have hworker := s.worker.statusUpdatesOf_tryReconnect (X := X) port
  unfold tryReconnect
  simp only
  split
  · rw [statusUpdatesOf_append, hworker]
    exact List.append_nil _
  · exact hworker

variable {s s' : RunState} {input : Input} {out : List (Effect X)}
  {display : TransitionError X → Str}

/-- A step announces its change of status, and nothing else. -/
theorem statusUpdatesOf_step (hstep : s.step display input = some (s', out)) :
    statusUpdatesOf out = changeOf s.status s'.status := by
  obtain ⟨-, hperform⟩ := step_eq_some_iff.mp hstep
  obtain ⟨rfl, rfl⟩ : (s.perform display input).1 = s' ∧ (s.perform display input).2 = out := by
    rw [hperform]
    exact ⟨rfl, rfl⟩
  clear hstep hperform
  have hsilent : ∀ r : RunState × List (Effect X), statusUpdatesOf r.2 = [] ∧
      r.1.status = s.status → statusUpdatesOf r.2 = changeOf s.status r.1.status := by
    rintro r ⟨hupdates, hstatus⟩
    rw [hupdates, hstatus, changeOf_self]
  cases input with
  | workerEvent portResult => exact s.statusUpdatesOf_handleEvent portResult
  | read result => exact s.statusUpdatesOf_read result
  | reconnectTick port => exact s.statusUpdatesOf_reconnectTick port
  | command now => exact hsilent _ (s.statusUpdatesOf_startCommand now)
  | lineEvent => exact hsilent _ (s.statusUpdatesOf_processLineEvent display)
  | timeoutTick now => exact hsilent _ (s.statusUpdatesOf_timeoutTick now)
  | rejectCommand => exact hsilent _ s.statusUpdatesOf_rejectCommand
  | drained =>
    exact hsilent _ ⟨StateMachineState.statusUpdatesOf_failActiveCommand _ _ _, rfl⟩
  | slept =>
    have hstatus := s.worker.status_setStatus (X := X) .offline
    have hupdates := s.worker.statusUpdatesOf_setStatus (X := X) .offline
    exact hupdates.trans (congrArg (changeOf s.status) hstatus.symm)
  | _ => exact hsilent _ ⟨rfl, rfl⟩

/-- The status changes as it may. -/
theorem Move.follows (hmove : Move s input s' out) (hwf : s.WellFormed)
    (hne : s.status ≠ s'.status) : Follows s.status s'.status := by
  have hoffline : ∀ {status : ModemStatus}, status ≠ .startup → status ≠ .offline →
      Follows status .offline := by
    rintro (_ | _ | _ | _) hstarted hchanged
    · exact absurd rfl hstarted
    · exact .lost
    · exact .stopped
    · exact absurd rfl hchanged
  cases hmove with
  | statusEvent _ status owner events _ hevents =>
    -- no handler queues another status change than a shutdown
    obtain rfl : status = .shuttingDown := by
      simpa using hwf.events (.setStatus status, owner) (by simp [hevents])
    have hstarted := hwf.started
    revert hne hstarted
    rcases s with ⟨⟨_ | _ | _ | _⟩, _⟩ <;> intro hne hstarted
    · exact absurd rfl hstarted
    · exact .shutdown
    · exact absurd rfl hne
    · exact .lateShutdown
  | writeFailed => exact hoffline hwf.started hne
  | readFailed => exact hoffline hwf.started hne
  | slept => exact hoffline hwf.started hne
  | reconnected _ _ _ hstatus =>
    rw [hstatus]
    exact .reconnected
  | _ => exact absurd rfl hne

/-- The start of the modem task announces the status it leads to. -/
theorem path_start (config : ModemConfig) (port : Port) :
    Path .startup (statusUpdatesOf ((ModemWorker.new config).initializeAndRun (X := X) port).2)
      (start X config port).status := by
  rw [ModemWorker.statusUpdatesOf_initializeAndRun]
  refine .changeOf fun _ => ?_
  change Follows .startup (start X config port).status
  rcases (start_worker (X := X) config port).1 with hstatus | hstatus
  · rw [hstatus]
    exact .initialized
  · rw [hstatus]
    exact .notInitialized

/-- What is announced after the start leads to the present status. -/
theorem path_run {config : ModemConfig} {port : Port} {h : List (RunState × Input)}
    {t : List (Effect X)} (hrun : Run (step display) (start X config port) h s t) :
    Path (start X config port).status (statusUpdatesOf t) s.status := by
  have hpath : s.WellFormed ∧ Path (start X config port).status (statusUpdatesOf t) s.status := by
    refine hrun.induct (P := fun _ s t => s.WellFormed ∧
      Path (start X config port).status (statusUpdatesOf t) s.status)
      ⟨wellFormed_start config port, show _ = _ from rfl⟩ ?_
    rintro h s t input s' out - ⟨hwf, hpath⟩ hstep
    have hmove := step_move hstep
    refine ⟨hmove.wellFormed hwf, ?_⟩
    rw [statusUpdatesOf_append, statusUpdatesOf_step hstep]
    exact hpath.append (.changeOf (hmove.follows hwf))
  exact hpath.2

/-- **Status updates.** The updates that the application is sent in a run, from the start of the
modem task on, lead from `Startup` to the present status, each from where the one before led, and
each is a change that may follow. Any step from there announces the change of the status that it
makes, once, and nothing if it makes none. -/
theorem run_statusUpdates {config : ModemConfig} {port : Port} {h : List (RunState × Input)}
    {t : List (Effect X)} (hrun : Run (step display) (start X config port) h s t) :
    Path .startup
        (statusUpdatesOf (((ModemWorker.new config).initializeAndRun (X := X) port).2 ++ t))
        s.status ∧
      ∀ input s' out, s.step display input = some (s', out) →
        statusUpdatesOf out = changeOf s.status s'.status := by
  refine ⟨?_, fun input s' out => statusUpdatesOf_step⟩
  rw [statusUpdatesOf_append]
  exact (path_start config port).append (path_run hrun)

/-- The modem is lost, and comes back. -/
theorem run_statusUpdates_reconnect :
    ∃ (h : List (RunState × Input)) (s : RunState) (t : List (Effect .rejecting)),
      Run (step fun _ => []) (start .rejecting .default .ready) h s t ∧
      statusUpdatesOf t = [(.online, .offline), (.offline, .online)] ∧
      Path .startup (statusUpdatesOf
        (((ModemWorker.new .default).initializeAndRun (X := .rejecting) .ready).2 ++ t))
        s.status := by
  obtain ⟨s, t, -, hrun, hupdates⟩ := Run.of_execute (step (X := .rejecting) fun _ => [])
    (start .rejecting .default .ready) [.read (.error "broken pipe".toList), .reconnectTick .ready]
    (fun r => statusUpdatesOf r.2) (b := [(.online, .offline), (.offline, .online)])
    (by decide +kernel)
  exact ⟨_, s, t, hrun, hupdates, (run_statusUpdates hrun).1⟩

end RunState

end SmsServer
