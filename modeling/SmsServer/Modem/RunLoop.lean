import SmsServer.Library.Machine
import SmsServer.Modem.Worker

/-!
# The status loop

`ModemWorker::run` as a guarded system, together with the requesters that queue commands and
wait for their responses. Each arm of a `select!` is one step; so is each line event of a read
and each turn of the loops of a shutdown, since requesters act in between. A step is enabled
when the loop can take it: the online `select!` is biased, so worker events come before
commands, and both before reads and timeout ticks; the offline `select!` is not.

`sendRequest` and `hangUp` are the requester's side: `ModemSender::send_request` queues a
command with a fresh response channel, and a requester that stops waiting drops its half.
-/

namespace SmsServer

open RustStd Machine

variable {X : Crates}

/-- Where the worker is in its loop. -/
inductive Phase
  /-- At the top of the loop. -/
  | statusLoop
  /-- In the loop over the line events of a read. -/
  | reading (events : List LineEvent)
  /-- Shutting down: processing pending worker events. -/
  | draining
  /-- Shutting down: rejecting pending commands. -/
  | rejecting
  /-- Shutting down: waiting before the transition to offline. -/
  | sleeping
  deriving DecidableEq, Repr

/-- The line event the loop is about to process. -/
def Phase.nextEvent? : Phase → Option LineEvent
  | reading (event :: _) => some event
  | _ => none

structure RunState where
  worker : ModemWorker
  lineBuffer : LineBuffer
  phase : Phase
  commandRx : List OutgoingCommand
  /-- The response channels whose requester is gone. -/
  closed : List ReplyId
  /-- `COMMAND_SEQUENCE`. -/
  commandSequence : UInt32
  /-- The next response channel. -/
  nextReply : ReplyId
  deriving DecidableEq, Repr

inductive Input
  | sendRequest (request : ModemRequest) (timeout : Option UInt32)
  | hangUp (reply : ReplyId)
  | workerEvent (portResult : Except Str Unit)
  | command (now : Millis)
  | read (result : Except Str (List UInt8))
  | lineEvent
  | endOfRead
  | timeoutTick (now : Millis)
  | shutdown
  | drained
  | rejectCommand
  | rejected
  | slept
  | reconnectTick (port : Port)

namespace RunState

/-- The worker owns the receiver of worker events. -/
def peers (self : RunState) : Peers :=
  { eventRx := true, receiver := fun reply => reply ∉ self.closed }

@[simp] abbrev status (self : RunState) : ModemStatus := self.worker.status

@[simp] abbrev machine (self : RunState) : StateMachineState := self.worker.stateMachine

@[simp] abbrev events (self : RunState) : List (WorkerEvent × Option OutgoingCommand) :=
  self.worker.workerEventRx

/-- The worker event queue or the command queue has something the biased `select!` takes before
the read and the timeout tick. -/
def Busy (self : RunState) : Prop :=
  self.events ≠ [] ∨ (self.commandRx ≠ [] ∧ self.machine.canAcceptCommand)

instance (self : RunState) : Decidable self.Busy :=
  inferInstanceAs (Decidable (_ ∨ _))

/-- The number of bytes a read put into the read buffer. -/
def bytesRead : Except Str (List UInt8) → ℕ
  | .ok data => data.length
  | .error _ => 0

/-- When the loop can take a step. -/
def Enabled (self : RunState) : Input → Prop
  | .sendRequest .. => True
  | .hangUp _ => True
  | .workerEvent _ =>
    self.events ≠ [] ∧ (self.phase = .draining ∨
      self.phase = .statusLoop ∧ (self.status = .online ∨ self.status = .offline))
  | .command _ =>
    self.phase = .statusLoop ∧ self.status = .online ∧ self.events = [] ∧
      self.machine.canAcceptCommand ∧ self.commandRx ≠ []
  | .read result =>
    self.phase = .statusLoop ∧ self.status = .online ∧ ¬ self.Busy ∧
      bytesRead result ≤ self.worker.config.readBufferSize
  | .lineEvent => self.phase.nextEvent?.isSome
  | .endOfRead => self.phase = .reading []
  | .timeoutTick _ => self.phase = .statusLoop ∧ self.status = .online ∧ ¬ self.Busy
  | .shutdown => self.phase = .statusLoop ∧ self.status = .shuttingDown
  | .drained => self.phase = .draining ∧ self.events = []
  | .rejectCommand =>
    self.commandRx ≠ [] ∧
      (self.phase = .rejecting ∨ self.phase = .statusLoop ∧ self.status = .offline)
  | .rejected => self.phase = .rejecting ∧ self.commandRx = []
  | .slept => self.phase = .sleeping
  | .reconnectTick _ => self.phase = .statusLoop ∧ self.status = .offline

/-- `ModemSender::send_request` up to the wait: a full queue refuses the command. -/
def sendRequest (self : RunState) (request : ModemRequest) (timeout : Option UInt32) : RunState :=
  let cmd := OutgoingCommand.new self.commandSequence self.nextReply request timeout
  { self with
    commandSequence := self.commandSequence + 1
    nextReply := self.nextReply + 1
    commandRx :=
      if self.commandRx.length < self.worker.config.cmdChannelBufferSize then
        self.commandRx ++ [cmd]
      else self.commandRx }

/-- A received worker event is handled. -/
def handleEvent (self : RunState) (portResult : Except Str Unit) : RunState × List (Effect X) :=
  match self.events with
  | [] => (self, [])
  | (event, owner) :: events =>
    let worker := { self.worker with workerEventRx := events }
    let (worker, effects) := worker.handleWorkerEvent self.peers owner portResult event
    ({ self with worker }, effects)

/-- A received command is started. -/
def startCommand (self : RunState) (now : Millis) : RunState × List (Effect X) :=
  match self.commandRx with
  | [] => (self, [])
  | cmd :: commandRx =>
    let (stateMachine, started) := self.machine.startCommand (X := X) self.peers now cmd
    let worker := { self.worker.enqueue (some cmd) started.effects with stateMachine }
    ({ self with worker, commandRx }, .taken cmd :: started.effects)

/-- The main reader. -/
def read (self : RunState) : Except Str (List UInt8) → RunState × List (Effect X)
  | .ok [] =>
    let (worker, effects) := self.worker.goOffline self.peers "Serial port closed".toList
    ({ self with worker }, effects)
  | .ok data =>
    let (events, lineBuffer) := self.lineBuffer.processData data
    ({ self with lineBuffer, phase := .reading events }, [.read data])
  | .error e =>
    let (worker, effects) := self.worker.goOffline self.peers ("Read error: ".toList ++ e)
    ({ self with worker }, effects)

/-- One turn of the loop over the line events of a read. -/
def processLineEvent (display : TransitionError X → Str) (self : RunState) :
    RunState × List (Effect X) :=
  match self.phase with
  | .reading (event :: rest) =>
    let (worker, effects) := self.worker.processLineEvent display self.peers event
    ({ self with worker, phase := .reading rest }, effects)
  | _ => (self, [])

/-- Command timeout handling: the line buffer is cleared if a command timed out and its
requester was told. -/
def timeoutTick (self : RunState) (now : Millis) : RunState × List (Effect X) :=
  let (stateMachine, handled) := self.machine.handleCommandTimeout (X := X) self.peers now
  -- an error of `respond` is logged, and counts as no timeout
  let timedOut := match handled.result with
    | .ok timedOut => timedOut
    | .error _ => false
  ({ self with
      worker := { self.worker with stateMachine }
      lineBuffer := if timedOut then self.lineBuffer.clear else self.lineBuffer },
    handled.effects)

/-- A command is received and rejected. -/
def rejectCommand (self : RunState) : RunState × List (Effect X) :=
  match self.commandRx with
  | [] => (self, [])
  | cmd :: commandRx =>
    let reason := if self.phase = .rejecting then "Modem is shutting down" else "Modem is offline"
    ({ self with commandRx },
      .taken cmd :: (cmd.respond self.peers (.error reason.toList)).effects)

/-- The machine is reset and the line buffer cleared. -/
def reset (self : RunState) : RunState :=
  { self with
    worker := { self.worker with stateMachine := .idle }
    lineBuffer := self.lineBuffer.clear }

def tryReconnect (self : RunState) (port : Port) : RunState × List (Effect X) :=
  let (worker, effects, online) := self.worker.tryReconnect port
  if online then ({ self with worker }.reset, effects ++ [.reconnected])
  else ({ self with worker }, effects)

/-- What an enabled step does. -/
def perform (display : TransitionError X → Str) (self : RunState) :
    Input → RunState × List (Effect X)
  | .sendRequest request timeout => (self.sendRequest request timeout, [])
  | .hangUp reply => ({ self with closed := reply :: self.closed }, [])
  | .workerEvent portResult => self.handleEvent portResult
  | .command now => self.startCommand now
  | .read result => self.read result
  | .lineEvent => self.processLineEvent display
  | .endOfRead => ({ self with phase := .statusLoop }, [])
  | .timeoutTick now => self.timeoutTick now
  | .shutdown => ({ self with phase := .draining }, [])
  | .drained =>
    let (worker, effects) :=
      self.worker.failActiveCommand self.peers "Modem is shutting down".toList
    ({ self with worker, phase := .rejecting }, effects)
  | .rejectCommand => self.rejectCommand
  | .rejected => ({ self with phase := .sleeping }, [])
  | .slept =>
    let (worker, effects) := self.worker.setStatus .offline
    ({ self with worker, phase := .statusLoop }.reset, effects)
  | .reconnectTick port => self.tryReconnect port

instance (self : RunState) (input : Input) : Decidable (self.Enabled input) := by
  cases input <;> dsimp only [Enabled] <;> infer_instance

def step (display : TransitionError X → Str) (self : RunState) (input : Input) :
    Option (RunState × List (Effect X)) :=
  if self.Enabled input then some (self.perform display input) else none

theorem step_eq_some_iff {display : TransitionError X → Str} {s s' : RunState} {input : Input}
    {out : List (Effect X)} :
    s.step display input = some (s', out) ↔
      s.Enabled input ∧ s.perform display input = (s', out) := by
  rw [step, Option.ite_none_right_eq_some, Option.some_inj]

/-- The worker when it enters the status loop: nothing queued, nothing buffered. -/
def start (X : Crates) (config : ModemConfig) (port : Port) : RunState :=
  { worker := ((ModemWorker.new config).initializeAndRun (X := X) port).1
    lineBuffer := .withMaxSize config.lineBufferSize
    phase := .statusLoop
    commandRx := []
    closed := []
    commandSequence := 1
    nextReply := 0 }

end RunState

end SmsServer
