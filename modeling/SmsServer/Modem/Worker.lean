import SmsServer.Modem.Lexer
import SmsServer.Modem.StateMachine

/-!
# The modem worker

The methods of `modem/worker.rs` around the status loop: writing to the port, worker events,
status changes, and the initialization dialogue that a start and every reconnect go through.
What the port does is a parameter: the result of each `write_all`, and the results of the reads
of a dialogue in the order they arrive.

The queue of worker events pairs each event with the command that was held when it was queued.
The pairing is bookkeeping for the theorems and is not read by the code.
-/

namespace SmsServer

open RustStd

variable {X : Crates}

/-- The part of `ModemConfig` the worker uses. -/
structure ModemConfig where
  gnssEnabled : Bool
  gnssReportInterval : UInt32
  cmdChannelBufferSize : ℕ
  readBufferSize : ℕ
  lineBufferSize : ℕ
  deriving DecidableEq, Repr

/-- `ModemConfig::default`. -/
def ModemConfig.default : ModemConfig where
  gnssEnabled := false
  gnssReportInterval := 0
  cmdChannelBufferSize := 32
  readBufferSize := 4096
  lineBufferSize := 4096

structure ModemWorker where
  status : ModemStatus
  stateMachine : StateMachineState
  /-- The queued events, each with the command held when it was queued. -/
  workerEventRx : List (WorkerEvent × Option OutgoingCommand)
  config : ModemConfig
  deriving DecidableEq, Repr

/-! ### The port -/

/-- A read during the initialization dialogue. -/
inductive PortRead
  /-- `Ok(n)`, with no bytes when the port was closed. -/
  | bytes (data : List UInt8)
  | failed (error : Str)
  /-- The deadline passed before anything could be read. -/
  | elapsed
  deriving DecidableEq, Repr

/-- What the port answers in a dialogue: a result for each write, and the reads. -/
structure Port where
  writes : List (Except Str Unit)
  reads : List PortRead

/-- The errors of the initialization dialogue. -/
inductive DialogueError
  /-- `write_all` failed. -/
  | write (error : Str)
  /-- "Read error during initialization". -/
  | read (error : Str)
  /-- "Serial port closed during initialization". -/
  | closed
  /-- "Timeout waiting for response", or "Connection test timed out". -/
  | timeout
  /-- "Initialization command '…' failed. Expected: '…', Got: '…'". -/
  | unexpected (command expected got : Str)
  /-- "Connection test failed: received '…'". -/
  | testFailed (received : Str)
  deriving DecidableEq, Repr

namespace Port

/-- A modem that answers a whole initialization dialogue without GNSS. -/
def ready : Port where
  writes := []
  reads := List.replicate 7 (.bytes (encodeUtf8 "OK\r\n".toList)) ++
    [.bytes (encodeUtf8 "+CPMS: 0,5,0,5,0,5\r\n\r\nOK\r\n".toList)]

/-- `port.write_all`; a port with no more scripted results accepts the bytes. -/
def writeAll (self : Port) (data : List UInt8) :
    Port × List (Effect X) × Except DialogueError Unit :=
  match self.writes with
  | [] => (self, [.wrote data none], .ok ())
  | result :: writes => ({ self with writes }, [.wrote data none], result.mapError .write)

/-- The response read so far ends the wait. -/
def isAnswered (response : List UInt8) : Bool :=
  contains (fromUtf8Lossy response) "OK\r\n".toList ||
    contains (fromUtf8Lossy response) "ERROR".toList

/-- The loop of `read_response_until_ok`. -/
def readUntilOk : List PortRead → List UInt8 → Except DialogueError (List UInt8) × List PortRead
  | [], _ => (.error .timeout, [])
  | .elapsed :: reads, _ => (.error .timeout, reads)
  | .failed e :: reads, _ => (.error (.read e), reads)
  | .bytes data :: reads, response =>
    if data.isEmpty then (.error .closed, reads)
    else if isAnswered (response ++ data) then (.ok (response ++ data), reads)
    else readUntilOk reads (response ++ data)

def readResponseUntilOk (self : Port) : Port × Except DialogueError (List UInt8) :=
  let (result, reads) := readUntilOk self.reads []
  ({ self with reads }, result)

/-- A command of the dialogue and the response to it. -/
def exchange (self : Port) (command : List UInt8) :
    Port × List (Effect X) × Except DialogueError Str :=
  let (port, effects, written) := self.writeAll command
  match written with
  | .error e => (port, effects, .error e)
  | .ok () =>
    let (port, response) := port.readResponseUntilOk
    (port, effects, response.map fromUtf8Lossy)

def testConnection (self : Port) : Port × List (Effect X) × Except DialogueError Unit :=
  let (port, effects, response) := self.exchange (encodeUtf8 "AT\r\n".toList)
  match response with
  | .error e => (port, effects, .error e)
  | .ok response =>
    if contains response "OK".toList then (port, effects, .ok ())
    else (port, effects, .error (.testFailed (trim response)))

/-- Runs the initialization commands until one is not answered as expected. -/
def sendInitializationCommands (self : Port) :
    List (Str × Str) → Port × List (Effect X) × Except DialogueError Unit
  | [] => (self, [], .ok ())
  | (command, expected) :: commands =>
    let (port, effects, response) := self.exchange (encodeUtf8 command)
    match response with
    | .error e => (port, effects, .error e)
    | .ok response =>
      if ¬ contains response expected then
        (port, effects, .error (.unexpected command expected (trim response)))
      else
        let (port, effects', result) := port.sendInitializationCommands commands
        (port, effects ++ effects', result)

end Port

/-- The initialization commands, each with what its response has to contain. -/
def ModemConfig.initializationCommands (config : ModemConfig) : List (Str × Str) :=
  [("ATZ\r\n".toList, "OK".toList),
    ("ATE0\r\n".toList, "OK".toList),
    ("AT+CMGF=0\r\n".toList, "OK".toList),
    ("AT+CSCS=\"GSM\"\r\n".toList, "OK".toList),
    ("AT+CNMI=2,2,0,1,0\r\n".toList, "OK".toList),
    ("AT+CSMP=49,167,0,0\r\n".toList, "OK".toList),
    ("AT+CPMS=\"ME\",\"ME\",\"ME\"\r\n".toList, "+CPMS:".toList)] ++
  if config.gnssEnabled then
    [("AT+CGNSPWR=1\r\n".toList, "OK".toList),
      ("AT+CGPSRST=0\r\n".toList, "OK".toList),
      ("AT+CGNSURC=".toList ++ showNat config.gnssReportInterval.toNat ++ "\r\n".toList,
        "OK".toList)]
  else []

namespace ModemWorker

def new (config : ModemConfig) : ModemWorker :=
  { status := .startup, stateMachine := .idle, workerEventRx := [], config }

/-- Queues the worker events among the effects of a handler, for the command held then. -/
def enqueue (self : ModemWorker) (owner : Option OutgoingCommand) (effects : List (Effect X)) :
    ModemWorker :=
  { self with workerEventRx :=
      self.workerEventRx ++ (Effect.workerEventsOf effects).map fun event => (event, owner) }

/-- `set_status`: a change is announced to the application. -/
def setStatus (self : ModemWorker) (status : ModemStatus) : ModemWorker × List (Effect X) :=
  if self.status = status then (self, [])
  else ({ self with status }, [.mainMessage (.modemStatusUpdate self.status status)])

/-- `write`, refused unless the modem is online. -/
def write (self : ModemWorker) (data : List UInt8) (owner : Option OutgoingCommand)
    (portResult : Except Str Unit) : Outcome X Str Unit :=
  if self.status ≠ .online then ⟨[], .error "Modem is offline".toList⟩
  else ⟨[.wrote data owner], portResult⟩

/-- `self.state_machine.fail_active_command(reason)`. -/
def failActiveCommand (peers : Peers) (self : ModemWorker) (reason : Str) :
    ModemWorker × List (Effect X) :=
  let (stateMachine, effects) := self.stateMachine.failActiveCommand peers reason
  ({ self with stateMachine }, effects)

/-- `fail_active_command(reason)` and `set_status(Offline)`. -/
def goOffline (peers : Peers) (self : ModemWorker) (reason : Str) :
    ModemWorker × List (Effect X) :=
  let (failed, effects) := self.failActiveCommand peers reason
  let (worker, effects') := failed.setStatus .offline
  (worker, effects ++ effects')

def handleWorkerEvent (peers : Peers) (self : ModemWorker) (owner : Option OutgoingCommand)
    (portResult : Except Str Unit) : WorkerEvent → ModemWorker × List (Effect X)
  | .setStatus status => self.setStatus status
  | .writeCommand data =>
    let written := self.write data owner portResult
    match written.result with
    | .ok () => (self, written.effects)
    | .error e =>
      let (worker, effects) := self.goOffline peers ("Write failed: ".toList ++ e)
      (worker, written.effects ++ effects)

/-- The body of the loop over line events: a failed transition fails the active command and
resets the machine. -/
def processLineEvent (display : TransitionError X → Str) (peers : Peers) (self : ModemWorker)
    (lineEvent : LineEvent) : ModemWorker × List (Effect X) :=
  let (stateMachine, processed) := self.stateMachine.transitionState (X := X) peers lineEvent
  -- what the transition queued is executed on a later turn of the loop
  let worker := { self.enqueue self.stateMachine.held.head? processed.effects with stateMachine }
  match processed.result with
  | .ok () => (worker, processed.effects)
  | .error e =>
    let (failed, effects) :=
      worker.failActiveCommand peers ("State machine error: ".toList ++ display e)
    ({ failed with stateMachine := .idle }, processed.effects ++ effects)

/-- `try_reconnect`, `true` when the modem came online. -/
def tryReconnect (self : ModemWorker) (port : Port) : ModemWorker × List (Effect X) × Bool :=
  if self.status ≠ .offline then (self, [], false)
  else
    let (port, tested, result) := port.testConnection
    match result with
    | .error _ => (self, tested, false)
    | .ok () =>
      let (_, initialized, result) :=
        port.sendInitializationCommands self.config.initializationCommands
      match result with
      | .error _ => (self, tested ++ initialized, false)
      | .ok () =>
        let (worker, effects) := self.setStatus .online
        (worker, tested ++ initialized ++ effects, true)

/-- `initialize_and_run` up to the status loop. The result of the connection test decides
nothing but whether the power pin is toggled. -/
def initializeAndRun (self : ModemWorker) (port : Port) : ModemWorker × List (Effect X) :=
  let (port, tested, _) := port.testConnection
  let (_, initialized, result) :=
    port.sendInitializationCommands self.config.initializationCommands
  let (worker, effects) := self.setStatus (if result.isOk then .online else .offline)
  (worker, tested ++ initialized ++ effects)

/-! ### What the methods change -/

theorem write_online (self : ModemWorker) (h : self.status = .online) (data : List UInt8)
    (owner : Option OutgoingCommand) (portResult : Except Str Unit) :
    self.write (X := X) data owner portResult = ⟨[.wrote data owner], portResult⟩ :=
  if_neg (not_not.mpr h)

theorem write_refused (self : ModemWorker) (h : self.status ≠ .online) (data : List UInt8)
    (owner : Option OutgoingCommand) (portResult : Except Str Unit) :
    self.write (X := X) data owner portResult = ⟨[], .error "Modem is offline".toList⟩ :=
  if_pos h

theorem setStatus_eq (self : ModemWorker) (status : ModemStatus) :
    ∃ notice : List (Effect X), self.setStatus status = ({ self with status }, notice) ∧
      ∀ e ∈ notice, e.IsBackground := by
  unfold setStatus
  split
  · next h =>
    subst h
    exact ⟨[], rfl, by simp⟩
  · exact ⟨_, rfl, by simp [Effect.IsBackground]⟩

/-- `goOffline` fails the active command and changes the status. -/
theorem goOffline_eq (peers : Peers) (self : ModemWorker) (reason : Str) :
    ∃ notice : List (Effect X),
      self.goOffline peers reason =
        ({ self with
            status := .offline
            stateMachine := (self.stateMachine.failActiveCommand (X := X) peers reason).1 },
          (self.stateMachine.failActiveCommand peers reason).2 ++ notice) ∧
      ∀ e ∈ notice, e.IsBackground := by
  obtain ⟨notice, hset, hnotice⟩ :=
    (self.failActiveCommand (X := X) peers reason).1.setStatus_eq (X := X) .offline
  refine ⟨notice, ?_, hnotice⟩
  simp only [goOffline, hset]
  rfl

/-- The error branch of the loop over line events never finds a command to fail: the transition
that failed has left the machine idle. -/
theorem processLineEvent_eq (display : TransitionError X → Str) (peers : Peers)
    (self : ModemWorker) (lineEvent : LineEvent) :
    self.processLineEvent display peers lineEvent =
      ({ self.enqueue self.stateMachine.held.head?
            (self.stateMachine.transitionState (X := X) peers lineEvent).2.effects with
          stateMachine := (self.stateMachine.transitionState (X := X) peers lineEvent).1 },
        (self.stateMachine.transitionState peers lineEvent).2.effects) := by
  unfold processLineEvent
  cases h : (self.stateMachine.transitionState (X := X) peers lineEvent).2.result with
  | ok => simp only [h]
  | error e =>
    have hidle := StateMachineState.transitionState_error h
    simp only [h, failActiveCommand, hidle, StateMachineState.failActiveCommand, List.append_nil]

end ModemWorker

namespace Port

theorem exchange_background (self : Port) (command : List UInt8) :
    ∀ e ∈ (self.exchange (X := X) command).2.1, e.IsBackground := by
  have hwrite : (self.writeAll (X := X) command).2.1 = [.wrote command none] := by
    unfold writeAll
    split <;> rfl
  have hexchange : (self.exchange (X := X) command).2.1 = [.wrote command none] := by
    unfold exchange
    rw [← hwrite]
    simp only
    split <;> rfl
  simp [hexchange, Effect.IsBackground]

theorem testConnection_background (self : Port) :
    ∀ e ∈ (self.testConnection (X := X)).2.1, e.IsBackground := by
  have h := self.exchange_background (X := X) (encodeUtf8 "AT\r\n".toList)
  unfold testConnection
  simp only
  split
  · exact h
  · split <;> exact h

theorem sendInitializationCommands_background (self : Port) (commands : List (Str × Str)) :
    ∀ e ∈ (self.sendInitializationCommands (X := X) commands).2.1, e.IsBackground := by
  induction commands generalizing self with
  | nil => simp [sendInitializationCommands]
  | cons command commands ih =>
    have h := self.exchange_background (X := X) (encodeUtf8 command.1)
    unfold sendInitializationCommands
    simp only
    split
    · exact h
    · split
      · exact h
      · intro e he
        rcases List.mem_append.mp he with he | he
        · exact h e he
        · exact ih _ e he

end Port

namespace ModemWorker

/-- A reconnect changes nothing, or brings an offline worker online. -/
theorem tryReconnect_cases (self : ModemWorker) (port : Port) :
    ∃ effects : List (Effect X), (∀ e ∈ effects, e.IsBackground) ∧
      (self.tryReconnect port = (self, effects, false) ∨
        self.tryReconnect port = ({ self with status := .online }, effects, true)) := by
  unfold tryReconnect
  split
  · exact ⟨[], by simp, .inl rfl⟩
  have htested := port.testConnection_background (X := X)
  simp only
  split
  · exact ⟨_, htested, .inl rfl⟩
  have hinit := (port.testConnection (X := X)).1.sendInitializationCommands_background (X := X)
    self.config.initializationCommands
  have hboth := List.forall_mem_append.mpr ⟨htested, hinit⟩
  split
  · exact ⟨_, hboth, .inl rfl⟩
  · obtain ⟨notice, hset, hnotice⟩ := self.setStatus_eq (X := X) .online
    refine ⟨_, List.forall_mem_append.mpr ⟨hboth, hnotice⟩, .inr ?_⟩
    simp only [hset]

/-- The status loop is entered online or offline with an idle machine and an empty queue. -/
theorem initializeAndRun_eq (config : ModemConfig) (port : Port) :
    ∃ status, (status = .online ∨ status = .offline) ∧
      ((new config).initializeAndRun (X := X) port).1 = { new config with status } := by
  unfold initializeAndRun
  simp only
  split
  · obtain ⟨notice, hset, -⟩ := (new config).setStatus_eq (X := X) .online
    exact ⟨.online, .inl rfl, by rw [hset]⟩
  · obtain ⟨notice, hset, -⟩ := (new config).setStatus_eq (X := X) .offline
    exact ⟨.offline, .inr rfl, by rw [hset]⟩

end ModemWorker

end SmsServer
