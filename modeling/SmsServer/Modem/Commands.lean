import SmsServer.Modem.Types

/-!
# Outgoing commands and observable effects

`modem/commands.rs`: the state of a command on the modem and the command a requester queued,
with the oneshot channel its single response goes to. The methods of the modem code act on the
world only through channels; what they do there is returned as a list of `Effect`s, in the
order it happens. Effects are recorded for reasoning and never read back by the code.
-/

namespace SmsServer

open RustStd

/-! ### Command state -/

inductive CommandState
  | waitingForOk
  | waitingForPrompt
  | waitingForData
  deriving DecidableEq, Repr

/-- Whether a response line completes the command. -/
def CommandState.isComplete : CommandState → Str → Bool
  | waitingForOk, content =>
    content == "OK".toList || content == "ERROR".toList ||
      startsWith content "+CME ERROR:".toList || startsWith content "+CMS ERROR:".toList
  | waitingForPrompt, _ => false
  | waitingForData, content =>
    startsWith content "+CMGS:".toList || content == "OK".toList || content == "ERROR".toList

structure CommandContext where
  sequence : UInt32
  state : CommandState
  responseBuffer : Str
  deriving DecidableEq, Repr

/-- The identity of a oneshot response channel. -/
abbrev ReplyId := ℕ

structure OutgoingCommand where
  sequence : UInt32
  request : ModemRequest
  timeout : Option UInt32
  /-- The sending half of the response channel, `none` once it was used. -/
  responseTx : Option ReplyId
  deriving DecidableEq, Repr

namespace OutgoingCommand

def new (sequence : UInt32) (responseTx : ReplyId) (request : ModemRequest)
    (timeout : Option UInt32) : OutgoingCommand :=
  { sequence, request, timeout, responseTx := some responseTx }

/-- The timeout given with the request, else the default of its kind. -/
def getRequestTimeout (command : OutgoingCommand) : Millis :=
  match command.timeout with
  | none => command.request.getDefaultTimeout
  | some t => fromSecs t.toNat

end OutgoingCommand

/-! ### Effects -/

/-- `WorkerEvent`: what the handlers ask the worker loop to do. -/
inductive WorkerEvent
  | setStatus (status : ModemStatus)
  | writeCommand (data : List UInt8)
  deriving DecidableEq, Repr

/-- Which far ends of the channels still exist when a method runs. -/
structure Peers where
  /-- The receiver of worker events. -/
  eventRx : Bool
  /-- The requester's half of each response channel. -/
  receiver : ReplyId → Bool

/-- What a method of the modem code does to the outside, including the calls a reader of its
log would see. -/
inductive Effect (X : Crates)
  /-- A command was received from `command_rx`. -/
  | taken (command : OutgoingCommand)
  /-- `start_command` was called. -/
  | started (command : OutgoingCommand)
  /-- `OutgoingCommand::respond` was called; `delivered` tells whether the requester got it. -/
  | respond (command : OutgoingCommand) (response : ModemResponse X) (delivered : Bool)
  /-- The unsolicited handler was called. -/
  | unsolicited (messageKind : UnsolicitedMessageKind) (content : Str)
  /-- A worker event was queued. -/
  | workerEvent (event : WorkerEvent)
  /-- A message was sent to the application. -/
  | mainMessage (message : ModemIncomingMessage X)
  /-- `write_all` was called on the port, on behalf of a command. -/
  | wrote (data : List UInt8) (owner : Option OutgoingCommand)
  /-- Bytes were read from the port by the main reader. -/
  | read (data : List UInt8)
  /-- `try_reconnect` succeeded. -/
  | reconnected

/-- The result of a fallible method together with its effects. -/
structure Outcome (X : Crates) (E A : Type) where
  effects : List (Effect X)
  result : Except E A

/-! ### Projections of a trace -/

namespace Effect

variable {X : Crates}

/-- The commands received from the queue. -/
def takenOf : List (Effect X) → List OutgoingCommand :=
  List.filterMap fun | taken c => some c | _ => none

/-- The commands `respond` was called on. -/
def answeredOf : List (Effect X) → List OutgoingCommand :=
  List.filterMap fun | respond c _ _ => some c | _ => none

/-- The responses given, with the command each was given to. -/
def responsesOf : List (Effect X) → List (OutgoingCommand × ModemResponse X) :=
  List.filterMap fun | respond c r _ => some (c, r) | _ => none

/-- The calls of the unsolicited handler. -/
def unsolicitedOf : List (Effect X) → List (UnsolicitedMessageKind × Str) :=
  List.filterMap fun | unsolicited k content => some (k, content) | _ => none

/-- The worker events queued. -/
def workerEventsOf : List (Effect X) → List WorkerEvent :=
  List.filterMap fun | workerEvent e => some e | _ => none

/-- The data of the write commands queued. -/
def writeCommandsOf : List (Effect X) → List (List UInt8) :=
  List.filterMap fun | workerEvent (.writeCommand data) => some data | _ => none

/-- The port writes, with the command each was made for. -/
def wroteOf : List (Effect X) → List (List UInt8 × Option OutgoingCommand) :=
  List.filterMap fun | wrote data owner => some (data, owner) | _ => none

variable (t u : List (Effect X))

@[simp] theorem takenOf_append : takenOf (t ++ u) = takenOf t ++ takenOf u :=
  List.filterMap_append

@[simp] theorem answeredOf_append : answeredOf (t ++ u) = answeredOf t ++ answeredOf u :=
  List.filterMap_append

@[simp] theorem responsesOf_append : responsesOf (t ++ u) = responsesOf t ++ responsesOf u :=
  List.filterMap_append

@[simp] theorem unsolicitedOf_append :
    unsolicitedOf (t ++ u) = unsolicitedOf t ++ unsolicitedOf u :=
  List.filterMap_append

@[simp] theorem writeCommandsOf_append :
    writeCommandsOf (t ++ u) = writeCommandsOf t ++ writeCommandsOf u :=
  List.filterMap_append

@[simp] theorem wroteOf_append : wroteOf (t ++ u) = wroteOf t ++ wroteOf u :=
  List.filterMap_append

/-- An effect that concerns no command: a message to the application, or bytes of the
initialization dialogue. -/
def IsBackground : Effect X → Prop
  | mainMessage _ => True
  | wrote _ none => True
  | _ => False

variable {t}

/-- Nothing is projected from the background that passes over messages and dialogue. -/
theorem filterMap_background {B : Type} {f : Effect X → Option B}
    (hmessage : ∀ message, f (mainMessage message) = none)
    (hwrote : ∀ data, f (wrote data none) = none) (h : ∀ e ∈ t, e.IsBackground) :
    t.filterMap f = [] := by
  refine List.filterMap_eq_nil_iff.mpr fun e he => ?_
  have hbackground := h e he
  cases e with
  | mainMessage message => exact hmessage message
  | wrote data owner =>
    cases owner with
    | none => exact hwrote data
    | some owner => exact hbackground.elim
  | _ => exact hbackground.elim

theorem takenOf_background (h : ∀ e ∈ t, e.IsBackground) : takenOf t = [] :=
  filterMap_background (fun _ => rfl) (fun _ => rfl) h

theorem answeredOf_background (h : ∀ e ∈ t, e.IsBackground) : answeredOf t = [] :=
  filterMap_background (fun _ => rfl) (fun _ => rfl) h

theorem unsolicitedOf_background (h : ∀ e ∈ t, e.IsBackground) : unsolicitedOf t = [] :=
  filterMap_background (fun _ => rfl) (fun _ => rfl) h

end Effect

/-! ### Responding -/

/-- Why `OutgoingCommand::respond` failed. -/
inductive RespondError (X : Crates)
  /-- "Failed to respond to command #… with: …": the requester is gone. -/
  | failed (sequence : UInt32) (response : ModemResponse X)
  /-- "Attempted to respond to command #… but response channel was already used". -/
  | alreadyUsed (sequence : UInt32)

variable {X : Crates}

/-- `OutgoingCommand::respond`: takes the channel and sends the response through it. The
callers drop the command afterwards, so its emptied channel is not returned. -/
def OutgoingCommand.respond (peers : Peers) (command : OutgoingCommand)
    (response : ModemResponse X) : Outcome X (RespondError X) Unit :=
  match command.responseTx with
  | some tx =>
    if peers.receiver tx then ⟨[.respond command response true], .ok ()⟩
    else ⟨[.respond command response false], .error (.failed command.sequence response)⟩
  | none => ⟨[.respond command response false], .error (.alreadyUsed command.sequence)⟩

/-- However it ends, `respond` is one call on the command and nothing else. -/
theorem OutgoingCommand.respond_effects (peers : Peers) (command : OutgoingCommand)
    (response : ModemResponse X) :
    ∃ delivered, (command.respond peers response).effects =
      [.respond command response delivered] := by
  unfold respond
  split
  · split <;> exact ⟨_, rfl⟩
  · exact ⟨_, rfl⟩

end SmsServer
