import SmsServer.Library.Machine
import SmsServer.Sms.Delivery
import SmsServer.Sms.Encryption
import SmsServer.Sms.Pending

/-!
# The tasks of the application

`app.rs` and `sms/mod.rs`: one task takes the messages of the modem off `main_rx` and handles them
one after the other, another cleans up stalled multipart messages, and every request to send is a
task in `SMSManager::send_sms`. They share the database and the map of multipart messages, and
announce what they do. `App.step` interleaves them at their awaits: a statement is carried out in
one step and its task goes on in another, any statement may fail, and the task of a request may be
dropped at any await.

Without interleaving a task does what `Sms/Delivery.lean` says of its method (`execute_sendSms`,
`execute_handleDeliveryReport`).
-/

namespace SmsServer

open RustStd Machine

variable {X : Crates}

/-! ### Events -/

/-- `ModemStatusUpdateState` of `sms-types`. -/
inductive ModemStatusUpdateState
  | startup
  | online
  | shuttingDown
  | offline
  deriving DecidableEq, Repr

def ModemStatus.into : ModemStatus → ModemStatusUpdateState
  | startup => .startup
  | online => .online
  | shuttingDown => .shuttingDown
  | offline => .offline

/-- The events of `sms-types`. -/
inductive BroadcastEvent (X : Crates)
  | incomingMessage (message : SmsMessage) (messageId : Option ℕ)
  | outgoingMessage (message : SmsMessage) (messageId : Option ℕ)
  | deliveryReport (messageId : ℕ) (report : SmsPartialDeliveryReport)
  | modemStatusUpdate (previous current : ModemStatusUpdateState)
  | gnssPositionReport (location : X.PositionReport)

namespace BroadcastEvent

/-- The incoming messages that are announced. -/
def incomingOf : List (BroadcastEvent X) → List SmsMessage :=
  List.filterMap fun
    | incomingMessage message _ => some message
    | _ => none

/-- The rows that are announced as stored. -/
def rowsOf : List (BroadcastEvent X) → List ℕ :=
  List.filterMap fun
    | incomingMessage _ messageId => messageId
    | outgoingMessage _ messageId => messageId
    | _ => none

variable (t u : List (BroadcastEvent X))

@[simp] theorem incomingOf_append : incomingOf (t ++ u) = incomingOf t ++ incomingOf u :=
  List.filterMap_append

@[simp] theorem rowsOf_append : rowsOf (t ++ u) = rowsOf t ++ rowsOf u := List.filterMap_append

end BroadcastEvent

open BroadcastEvent

/-! ### The tasks -/

/-- What the tasks are started with. -/
structure AppContext where
  encryption : SMSEncryption
  fromOutgoing : FromOutgoing
  fromIncoming : FromIncoming
  statuses : MessageStatuses
  /-- Whether there is an event broadcaster. -/
  broadcaster : Bool

def AppContext.broadcast (self : AppContext) (event : BroadcastEvent X) :
    List (BroadcastEvent X) :=
  if self.broadcaster then [event] else []

/-- A context for concrete runs. -/
def AppContext.ofZeros : AppContext where
  encryption := .ofZeros
  fromOutgoing := .copying
  fromIncoming := .copying
  statuses := .grouped
  broadcaster := true

/-- Where the task of `main_rx` is: between messages, or in `handle_incoming_sms` or
`handle_delivery_report`, before or after a statement. -/
inductive ChannelTask
  | idle
  | storing (message : SmsMessage)
  | stored (message : SmsMessage) (rowId : Except Str ℕ)
  | finding (report : SmsPartialDeliveryReport)
  | found (report : SmsPartialDeliveryReport) (target : Except Str ℕ)
  | inserting (report : SmsPartialDeliveryReport) (messageId : ℕ)
  | updating (report : SmsPartialDeliveryReport) (messageId : ℕ)
  deriving DecidableEq, Repr

/-- Where a task in `send_sms` is, once the modem has answered. -/
inductive SendStage (X : Crates)
  | storing (newMessage : SmsMessage) (sendFailure : Option Str) (lastResponse : ModemResponse X)
  /-- The row is stored, and a send failure, if there is one, is to be. -/
  | stored (newMessage : SmsMessage) (messageId : ℕ) (sendFailure : Option Str)
      (lastResponse : ModemResponse X)
  | finished (result : Except Str (Option ℕ × ModemResponse X))

/-- A task in `send_sms`. The server drops it if the client goes away, which does not undo a
statement that is under way. -/
structure SendCall (X : Crates) where
  message : SmsOutgoingMessage
  stage : SendStage X
  dropped : Bool

structure App (X : Crates) where
  database : SMSDatabase
  receiver : SMSReceiver
  mainRx : List (ModemIncomingMessage X)
  channel : ChannelTask
  sends : List (SendCall X)

inductive AppInput (X : Crates)
  /-- The modem sends a message. -/
  | message (message : ModemIncomingMessage X)
  /-- The task of `main_rx` takes the next message. -/
  | recv (now : Millis)
  /-- Its statement is carried out. -/
  | statement (call : Call) (nonce : Nonce)
  /-- It goes on after the statement. -/
  | resume
  | cleanup (now : Millis)
  /-- The modem has answered a request to send. -/
  | answer (message : SmsOutgoingMessage) (sent : Except Str (Bool × Option (ModemResponse X)))
  | sendStatement (send : ℕ) (call : Call) (nonce : Nonce)
  | sendResume (send : ℕ)
  | dropSend (send : ℕ)

namespace SendStage

/-- `send_sms` up to its first statement. -/
def ofAnswer (fromOutgoing : FromOutgoing) (message : SmsOutgoingMessage) :
    Except Str (Bool × Option (ModemResponse X)) → SendStage X
  | .error e => .finished (.error e)
  | .ok (_, none) => .finished (.error "Missing any valid SendSMS response!".toList)
  | .ok (false, some lastResponse) => .finished (.ok (none, lastResponse))
  | .ok (true, some lastResponse) =>
    match newMessage fromOutgoing message lastResponse with
    | .error e => .finished (.error e)
    | .ok (newMessage, sendFailure) => .storing newMessage sendFailure lastResponse

/-- The statement that `send_sms` awaits. That a send failure was not stored is only logged. -/
def statement (context : AppContext) (call : Call) (nonce : Nonce) (database : SMSDatabase) :
    SendStage X → Option (SMSDatabase × SendStage X)
  | storing newMessage sendFailure lastResponse =>
    let (database, inserted) := database.insertMessage call (context.encryption.encrypt nonce)
      newMessage sendFailure.isSome
    match inserted with
    | .error e => some (database, finished (.error e))
    | .ok messageId => some (database, stored newMessage messageId sendFailure lastResponse)
  | stored newMessage messageId (some failure) lastResponse =>
    some ((database.insertSendFailure call messageId failure).1,
      stored newMessage messageId none lastResponse)
  | _ => none

/-- `send_sms` after its last statement. -/
def resume (context : AppContext) : SendStage X → Option (SendStage X × List (BroadcastEvent X))
  | stored newMessage messageId none lastResponse =>
    some (finished (.ok (some messageId, lastResponse)),
      context.broadcast (.outgoingMessage newMessage (some messageId)))
  | _ => none

/-- The row that is stored and not announced. -/
def unannounced : SendStage X → Option ℕ
  | stored _ messageId _ _ => some messageId
  | _ => none

end SendStage

namespace ChannelTask

/-- The statement that the task of `main_rx` awaits. -/
def statement (context : AppContext) (call : Call) (nonce : Nonce) (database : SMSDatabase) :
    ChannelTask → Option (SMSDatabase × ChannelTask)
  | storing message =>
    let (database, rowId) :=
      database.insertMessage call (context.encryption.encrypt nonce) message false
    some (database, stored message rowId)
  | finding report => some (database, found report (findTarget call database report))
  | inserting report messageId =>
    let (database, inserted) := database.insertDeliveryReport call messageId report.status
      (context.statuses.isFinal report.status)
    match inserted with
    | .error _ => some (database, idle)
    | .ok _ => some (database, updating report messageId)
  | updating report messageId =>
    let (database, _) := database.updateMessageStatus call messageId report.status
      (context.statuses.isFinal report.status)
    some (database, idle)
  | _ => none

/-- The task of `main_rx` after a statement that it goes on from. -/
def resume (context : AppContext) :
    ChannelTask → Option (ChannelTask × List (BroadcastEvent X))
  | stored message rowId =>
    some (idle, context.broadcast (.incomingMessage message rowId.toOption))
  | found _ (.error _) => some (idle, [])
  | found report (.ok messageId) =>
    some (inserting report messageId, context.broadcast (.deliveryReport messageId report))
  | _ => none

/-- The incoming message that is being stored or announced. -/
def incoming : ChannelTask → Option SmsMessage
  | storing message => some message
  | stored message _ => some message
  | _ => none

/-- The row that is stored and not announced. -/
def unannounced : ChannelTask → Option ℕ
  | stored _ rowId => rowId.toOption
  | _ => none

/-- The steps that the task has left at most for what it is doing. -/
def work : ChannelTask → ℕ
  | idle => 0
  | storing _ => 2
  | stored _ _ => 1
  | finding _ => 4
  | found _ _ => 3
  | inserting _ _ => 2
  | updating _ _ => 1

end ChannelTask

/-- A report that is refused leaves the database as it was. -/
theorem SMSDatabase.database_insertDeliveryReport_of_error {call : Call} {db : SMSDatabase}
    {messageId : ℕ} {status : UInt8} {isFinal : Bool} {e : Str}
    (h : (db.insertDeliveryReport call messageId status isFinal).2 = .error e) :
    (db.insertDeliveryReport call messageId status isFinal).1 = db := by
  unfold SMSDatabase.insertDeliveryReport at h ⊢
  split
  · rfl
  · next hinsert =>
    rw [if_neg hinsert] at h
    cases h

namespace App

def new (database : SMSDatabase) : App X :=
  { database, receiver := .new, mainRx := [], channel := .idle, sends := [] }

/-- `handle_modem_message` up to its first statement. -/
def handleModemMessage (context : AppContext) (now : Millis) (self : App X) :
    ModemIncomingMessage X → App X × List (BroadcastEvent X)
  | .incomingSms incoming =>
    let (receiver, message) := self.receiver.getIncomingSmsMessage context.fromIncoming now incoming
    match message with
    | some (.ok message) => ({ self with receiver, channel := .storing message }, [])
    -- an error is logged, and nothing is stored while parts are missing
    | some (.error _) => ({ self with receiver }, [])
    | none => ({ self with receiver }, [])
  | .deliveryReport report => ({ self with channel := .finding report }, [])
  | .modemStatusUpdate previous current =>
    (self, context.broadcast (.modemStatusUpdate previous.into current.into))
  | .gnssPositionReport location => (self, context.broadcast (.gnssPositionReport location))
  -- unhandled
  | .networkStatusChange _ => (self, [])

/-- A task in `send_sms` is replaced. -/
def setSend (self : App X) (send : ℕ) (task : SendCall X) : App X :=
  { self with sends := self.sends.set send task }

def step (context : AppContext) (self : App X) :
    AppInput X → Option (App X × List (BroadcastEvent X))
  | .message message => some ({ self with mainRx := self.mainRx ++ [message] }, [])
  | .recv now =>
    match self.channel, self.mainRx with
    | .idle, message :: mainRx =>
      some (({ self with mainRx } : App X).handleModemMessage context now message)
    | _, _ => none
  | .statement call nonce =>
    (self.channel.statement context call nonce self.database).map fun (database, channel) =>
      ({ self with database, channel }, [])
  | .resume => (self.channel.resume context).map fun (channel, events) =>
      ({ self with channel }, events)
  | .cleanup now => some ({ self with receiver := self.receiver.cleanupStalledMultipart now }, [])
  | .answer message sent =>
    let stage := SendStage.ofAnswer context.fromOutgoing message sent
    some ({ self with sends := self.sends ++ [{ message, stage, dropped := false }] }, [])
  | .sendStatement send call nonce =>
    self.sends[send]?.bind fun task =>
      (task.stage.statement context call nonce self.database).map fun (database, stage) =>
        ({ self with database }.setSend send { task with stage }, [])
  | .sendResume send =>
    self.sends[send]?.bind fun task =>
      if task.dropped then none
      else (task.stage.resume context).map fun (stage, events) =>
        (self.setSend send { task with stage }, events)
  | .dropSend send =>
    self.sends[send]?.map fun task => (self.setSend send { task with dropped := true }, [])

/-- "Hi" in two parts, with a change of status between them, and sent to another number; the row of
the sent message is stored first and announced last, and its report comes after. -/
def bothWays : List (AppInput X) :=
  [.message (.incomingSms ⟨"+1".toList, some ⟨3, 2, 2⟩, "i".toList⟩),
    .message (.modemStatusUpdate .startup .online),
    .message (.incomingSms ⟨"+1".toList, some ⟨3, 2, 1⟩, "H".toList⟩), .recv 0, .recv 1, .cleanup 2,
    .recv 3, .answer ⟨"+2".toList, "Hi".toList⟩ (.ok (true, some (.sendResult 7))),
    .sendStatement 0 ⟨5, false⟩ .zeros, .statement ⟨6, false⟩ .zeros,
    .message (.deliveryReport ⟨0, "+2".toList, 7⟩), .resume, .sendResume 0, .recv 4,
    .statement ⟨7, false⟩ .zeros, .resume]

/-! ### What a step does -/

/-- **Case analysis** of the steps. -/
inductive Move (context : AppContext) (s : App X) :
    AppInput X → App X → List (BroadcastEvent X) → Prop
  | message (message : ModemIncomingMessage X) :
    Move context s (.message message) { s with mainRx := s.mainRx ++ [message] } []
  /-- Parts of the message are missing. -/
  | part (now : Millis) {incoming : SmsIncomingMessage} {mainRx : List (ModemIncomingMessage X)}
      {receiver : SMSReceiver} (hidle : s.channel = .idle)
      (hmain : s.mainRx = .incomingSms incoming :: mainRx)
      (hreceived : s.receiver.getIncomingSmsMessage context.fromIncoming now incoming =
        (receiver, none)) :
    Move context s (.recv now) { s with mainRx, receiver } []
  | whole (now : Millis) {incoming : SmsIncomingMessage} {mainRx : List (ModemIncomingMessage X)}
      {receiver : SMSReceiver} {message : SmsMessage} (hidle : s.channel = .idle)
      (hmain : s.mainRx = .incomingSms incoming :: mainRx)
      (hreceived : s.receiver.getIncomingSmsMessage context.fromIncoming now incoming =
        (receiver, some (.ok message))) :
    Move context s (.recv now) { s with mainRx, receiver, channel := .storing message } []
  | report (now : Millis) {report : SmsPartialDeliveryReport}
      {mainRx : List (ModemIncomingMessage X)} (hidle : s.channel = .idle)
      (hmain : s.mainRx = .deliveryReport report :: mainRx) :
    Move context s (.recv now) { s with mainRx, channel := .finding report } []
  | status (now : Millis) {previous current : ModemStatus}
      {mainRx : List (ModemIncomingMessage X)} (hidle : s.channel = .idle)
      (hmain : s.mainRx = .modemStatusUpdate previous current :: mainRx) :
    Move context s (.recv now) { s with mainRx }
      (context.broadcast (.modemStatusUpdate previous.into current.into))
  | position (now : Millis) {location : X.PositionReport}
      {mainRx : List (ModemIncomingMessage X)} (hidle : s.channel = .idle)
      (hmain : s.mainRx = .gnssPositionReport location :: mainRx) :
    Move context s (.recv now) { s with mainRx } (context.broadcast (.gnssPositionReport location))
  | network (now : Millis) {status : UInt8} {mainRx : List (ModemIncomingMessage X)}
      (hidle : s.channel = .idle) (hmain : s.mainRx = .networkStatusChange status :: mainRx) :
    Move context s (.recv now) { s with mainRx } []
  | notStored (call : Call) (nonce : Nonce) {message : SmsMessage} (e : Str)
      (hchannel : s.channel = .storing message) :
    Move context s (.statement call nonce) { s with channel := .stored message (.error e) } []
  | stored (call : Call) (nonce : Nonce) {message : SmsMessage} {database : SMSDatabase} {rowId : ℕ}
      (hchannel : s.channel = .storing message)
      (hinserted : s.database.insertMessage call (context.encryption.encrypt nonce) message false =
        (database, .ok rowId)) :
    Move context s (.statement call nonce)
      { s with database, channel := .stored message (.ok rowId) } []
  | found (call : Call) (nonce : Nonce) {report : SmsPartialDeliveryReport}
      (hchannel : s.channel = .finding report) :
    Move context s (.statement call nonce)
      { s with channel := .found report (findTarget call s.database report) } []
  | notInserted (call : Call) (nonce : Nonce) {report : SmsPartialDeliveryReport} {messageId : ℕ}
      (hchannel : s.channel = .inserting report messageId) :
    Move context s (.statement call nonce) { s with channel := .idle } []
  | inserted (call : Call) (nonce : Nonce) {report : SmsPartialDeliveryReport} {messageId : ℕ}
      (hchannel : s.channel = .inserting report messageId) :
    Move context s (.statement call nonce)
      { s with
        database := (s.database.insertDeliveryReport call messageId report.status
          (context.statuses.isFinal report.status)).1
        channel := .updating report messageId } []
  | updated (call : Call) (nonce : Nonce) {report : SmsPartialDeliveryReport} {messageId : ℕ}
      (hchannel : s.channel = .updating report messageId) :
    Move context s (.statement call nonce)
      { s with
        database := (s.database.updateMessageStatus call messageId report.status
          (context.statuses.isFinal report.status)).1
        channel := .idle } []
  | announceIncoming {message : SmsMessage} {rowId : Except Str ℕ}
      (hchannel : s.channel = .stored message rowId) :
    Move context s .resume { s with channel := .idle }
      (context.broadcast (.incomingMessage message rowId.toOption))
  | noTarget {report : SmsPartialDeliveryReport} {e : Str}
      (hchannel : s.channel = .found report (.error e)) :
    Move context s .resume { s with channel := .idle } []
  | announceReport {report : SmsPartialDeliveryReport} {messageId : ℕ}
      (hchannel : s.channel = .found report (.ok messageId)) :
    Move context s .resume { s with channel := .inserting report messageId }
      (context.broadcast (.deliveryReport messageId report))
  | cleanup (now : Millis) :
    Move context s (.cleanup now) { s with receiver := s.receiver.cleanupStalledMultipart now } []
  | answer (message : SmsOutgoingMessage) (sent : Except Str (Bool × Option (ModemResponse X))) :
    Move context s (.answer message sent)
      { s with sends := s.sends ++
        [{ message, stage := .ofAnswer context.fromOutgoing message sent, dropped := false }] } []
  | sendNotStored {send : ℕ} (call : Call) (nonce : Nonce) {task : SendCall X}
      {newMessage : SmsMessage} {sendFailure : Option Str} {lastResponse : ModemResponse X}
      (e : Str) (htask : s.sends[send]? = some task)
      (hstage : task.stage = .storing newMessage sendFailure lastResponse) :
    Move context s (.sendStatement send call nonce)
      (s.setSend send { task with stage := .finished (.error e) }) []
  | sendStored {send : ℕ} (call : Call) (nonce : Nonce) {task : SendCall X}
      {newMessage : SmsMessage} {sendFailure : Option Str} {lastResponse : ModemResponse X}
      {database : SMSDatabase} {messageId : ℕ} (htask : s.sends[send]? = some task)
      (hstage : task.stage = .storing newMessage sendFailure lastResponse)
      (hinserted : s.database.insertMessage call (context.encryption.encrypt nonce) newMessage
        sendFailure.isSome = (database, .ok messageId)) :
    Move context s (.sendStatement send call nonce)
      (({ s with database } : App X).setSend send
        { task with stage := .stored newMessage messageId sendFailure lastResponse }) []
  | failureStored {send : ℕ} (call : Call) (nonce : Nonce) {task : SendCall X}
      {newMessage : SmsMessage} {messageId : ℕ} {failure : Str} {lastResponse : ModemResponse X}
      (htask : s.sends[send]? = some task)
      (hstage : task.stage = .stored newMessage messageId (some failure) lastResponse) :
    Move context s (.sendStatement send call nonce)
      (({ s with
          database := (s.database.insertSendFailure call messageId failure).1 } : App X).setSend
        send { task with stage := .stored newMessage messageId none lastResponse }) []
  | announceOutgoing {send : ℕ} {task : SendCall X} {newMessage : SmsMessage} {messageId : ℕ}
      {lastResponse : ModemResponse X} (htask : s.sends[send]? = some task)
      (hdropped : task.dropped = false)
      (hstage : task.stage = .stored newMessage messageId none lastResponse) :
    Move context s (.sendResume send)
      (s.setSend send { task with stage := .finished (.ok (some messageId, lastResponse)) })
      (context.broadcast (.outgoingMessage newMessage (some messageId)))
  | drop {send : ℕ} {task : SendCall X} (htask : s.sends[send]? = some task) :
    Move context s (.dropSend send) (s.setSend send { task with dropped := true }) []

variable {context : AppContext} {s s' : App X} {input : AppInput X} {out : List (BroadcastEvent X)}

theorem move_recv {now : Millis} (h : s.step context (.recv now) = some (s', out)) :
    Move context s (.recv now) s' out := by
  simp only [step] at h
  split at h
  · next message mainRx hidle hmain =>
    cases message with
    | incomingSms incoming =>
      simp only [handleModemMessage] at h
      generalize hreceived :
        s.receiver.getIncomingSmsMessage context.fromIncoming now incoming = received at h
      obtain ⟨receiver, _ | e | message⟩ := received
      · obtain ⟨rfl, rfl⟩ := Prod.mk.inj (Option.some.inj h)
        exact .part now hidle hmain hreceived
      · exact absurd (congrArg Prod.snd hreceived)
          (SMSReceiver.getIncomingSmsMessage_ne_error _ _ _ _ e)
      · obtain ⟨rfl, rfl⟩ := Prod.mk.inj (Option.some.inj h)
        exact .whole now hidle hmain hreceived
    | deliveryReport report =>
      obtain ⟨rfl, rfl⟩ := Prod.mk.inj (Option.some.inj h)
      exact .report now hidle hmain
    | modemStatusUpdate previous current =>
      obtain ⟨rfl, rfl⟩ := Prod.mk.inj (Option.some.inj h)
      exact .status now hidle hmain
    | networkStatusChange status =>
      obtain ⟨rfl, rfl⟩ := Prod.mk.inj (Option.some.inj h)
      exact .network now hidle hmain
    | gnssPositionReport location =>
      obtain ⟨rfl, rfl⟩ := Prod.mk.inj (Option.some.inj h)
      exact .position now hidle hmain
  · cases h

theorem move_statement {call : Call} {nonce : Nonce}
    (h : s.step context (.statement call nonce) = some (s', out)) :
    Move context s (.statement call nonce) s' out := by
  obtain ⟨⟨database, channel⟩, hstatement, heq⟩ := Option.map_eq_some_iff.mp h
  obtain ⟨rfl, rfl⟩ := Prod.mk.inj heq
  cases hchannel : s.channel with
  | storing message =>
    simp only [hchannel, ChannelTask.statement, Option.some.injEq, Prod.mk.injEq] at hstatement
    obtain ⟨rfl, rfl⟩ := hstatement
    rcases SMSDatabase.insertMessage_cases call (context.encryption.encrypt nonce) s.database
      message false with ⟨e, herror⟩ | ⟨row, -, -, -, -, hok⟩
    · rw [herror]
      exact .notStored call nonce e hchannel
    · rw [hok]
      exact .stored call nonce hchannel hok
  | finding report =>
    simp only [hchannel, ChannelTask.statement, Option.some.injEq, Prod.mk.injEq] at hstatement
    obtain ⟨rfl, rfl⟩ := hstatement
    exact .found call nonce hchannel
  | inserting report messageId =>
    simp only [hchannel, ChannelTask.statement] at hstatement
    split at hstatement <;> obtain ⟨rfl, rfl⟩ := Prod.mk.inj (Option.some.inj hstatement)
    · next herror =>
      rw [SMSDatabase.database_insertDeliveryReport_of_error herror]
      exact .notInserted call nonce hchannel
    · exact .inserted call nonce hchannel
  | updating report messageId =>
    simp only [hchannel, ChannelTask.statement, Option.some.injEq, Prod.mk.injEq] at hstatement
    obtain ⟨rfl, rfl⟩ := hstatement
    exact .updated call nonce hchannel
  | _ => simp [hchannel, ChannelTask.statement] at hstatement

theorem move_resume (h : s.step context .resume = some (s', out)) :
    Move context s .resume s' out := by
  obtain ⟨⟨channel, events⟩, hresume, heq⟩ := Option.map_eq_some_iff.mp h
  obtain ⟨rfl, rfl⟩ := Prod.mk.inj heq
  cases hchannel : s.channel with
  | stored message rowId =>
    simp only [hchannel, ChannelTask.resume, Option.some.injEq, Prod.mk.injEq] at hresume
    obtain ⟨rfl, rfl⟩ := hresume
    exact .announceIncoming hchannel
  | found report target =>
    cases target with
    | error e =>
      simp only [hchannel, ChannelTask.resume, Option.some.injEq, Prod.mk.injEq] at hresume
      obtain ⟨rfl, rfl⟩ := hresume
      exact .noTarget hchannel
    | ok messageId =>
      simp only [hchannel, ChannelTask.resume, Option.some.injEq, Prod.mk.injEq] at hresume
      obtain ⟨rfl, rfl⟩ := hresume
      exact .announceReport hchannel
  | _ => simp [hchannel, ChannelTask.resume] at hresume

theorem move_sendStatement {send : ℕ} {call : Call} {nonce : Nonce}
    (h : s.step context (.sendStatement send call nonce) = some (s', out)) :
    Move context s (.sendStatement send call nonce) s' out := by
  obtain ⟨task, htask, h⟩ := Option.bind_eq_some_iff.mp h
  obtain ⟨⟨database, stage⟩, hstatement, heq⟩ := Option.map_eq_some_iff.mp h
  obtain ⟨rfl, rfl⟩ := Prod.mk.inj heq
  cases hstage : task.stage with
  | storing newMessage sendFailure lastResponse =>
    rcases SMSDatabase.insertMessage_cases call (context.encryption.encrypt nonce) s.database
      newMessage sendFailure.isSome with ⟨e, herror⟩ | ⟨row, -, -, -, -, hok⟩
    · simp only [hstage, SendStage.statement, herror, Option.some.injEq, Prod.mk.injEq]
        at hstatement
      obtain ⟨rfl, rfl⟩ := hstatement
      exact .sendNotStored call nonce e htask hstage
    · simp only [hstage, SendStage.statement, hok, Option.some.injEq, Prod.mk.injEq] at hstatement
      obtain ⟨rfl, rfl⟩ := hstatement
      exact .sendStored call nonce htask hstage hok
  | stored newMessage messageId sendFailure lastResponse =>
    cases sendFailure with
    | none => simp [hstage, SendStage.statement] at hstatement
    | some failure =>
      simp only [hstage, SendStage.statement, Option.some.injEq, Prod.mk.injEq] at hstatement
      obtain ⟨rfl, rfl⟩ := hstatement
      exact .failureStored call nonce htask hstage
  | finished result => simp [hstage, SendStage.statement] at hstatement

theorem move_sendResume {send : ℕ} (h : s.step context (.sendResume send) = some (s', out)) :
    Move context s (.sendResume send) s' out := by
  obtain ⟨task, htask, h⟩ := Option.bind_eq_some_iff.mp h
  obtain ⟨hdropped, h⟩ := Option.ite_none_left_eq_some.mp h
  obtain ⟨⟨stage, events⟩, hresume, heq⟩ := Option.map_eq_some_iff.mp h
  obtain ⟨rfl, rfl⟩ := Prod.mk.inj heq
  cases hstage : task.stage with
  | stored newMessage messageId sendFailure lastResponse =>
    cases sendFailure with
    | none =>
      simp only [hstage, SendStage.resume, Option.some.injEq, Prod.mk.injEq] at hresume
      obtain ⟨rfl, rfl⟩ := hresume
      exact .announceOutgoing htask (Bool.not_eq_true _ ▸ hdropped) hstage
    | some failure => simp [hstage, SendStage.resume] at hresume
  | _ => simp [hstage, SendStage.resume] at hresume

theorem step_move (h : s.step context input = some (s', out)) : Move context s input s' out := by
  cases input with
  | message message =>
    obtain ⟨rfl, rfl⟩ := Prod.mk.inj (Option.some.inj h)
    exact .message message
  | recv now => exact move_recv h
  | statement call nonce => exact move_statement h
  | resume => exact move_resume h
  | cleanup now =>
    obtain ⟨rfl, rfl⟩ := Prod.mk.inj (Option.some.inj h)
    exact .cleanup now
  | answer message sent =>
    obtain ⟨rfl, rfl⟩ := Prod.mk.inj (Option.some.inj h)
    exact .answer message sent
  | sendStatement send call nonce => exact move_sendStatement h
  | sendResume send => exact move_sendResume h
  | dropSend send =>
    obtain ⟨task, htask, heq⟩ := Option.map_eq_some_iff.mp h
    obtain ⟨rfl, rfl⟩ := Prod.mk.inj heq
    exact .drop htask

/-! ### Without interleaving -/

/-- The event as it is announced. -/
def eventInto : Event → BroadcastEvent X
  | .outgoingMessage message messageId => .outgoingMessage message messageId
  | .deliveryReport messageId report => .deliveryReport messageId report

theorem map_eventInto (event : Event) :
    (if context.broadcaster = true then [event] else []).map (eventInto (X := X)) =
      context.broadcast (eventInto event) := by
  rw [AppContext.broadcast]
  split <;> rfl

/-- A task in `send_sms` that nothing interrupts does what the method does. -/
theorem execute_sendSms (insert failure : Call) (nonce : Nonce) (message : SmsOutgoingMessage)
    (sent : Except Str (Bool × Option (ModemResponse X))) :
    ∃ inputs, inputs ⊆ [.sendStatement s.sends.length insert nonce,
        .sendStatement s.sends.length failure nonce, .sendResume s.sends.length] ∧
      execute (step context) s (.answer message sent :: inputs) =
        let r := sendSms context.fromOutgoing context.broadcaster insert failure
          (context.encryption.encrypt nonce) s.database message sent
        some ({ s with
          database := r.1
          sends := s.sends ++ [{ message, stage := .finished r.2.2, dropped := false }] },
          r.2.1.map eventInto) := by
  match sent with
  | .error _ | .ok (_, none) | .ok (false, some _) => exact ⟨[], by simp, rfl⟩
  | .ok (true, some lastResponse) =>
    cases hnew : newMessage context.fromOutgoing message lastResponse with
    | error e =>
      exact ⟨[], by simp, by simp [execute, step, SendStage.ofAnswer, sendSms, hnew]⟩
    | ok new =>
      obtain ⟨new, sendFailure⟩ := new
      rcases SMSDatabase.insertMessage_cases insert (context.encryption.encrypt nonce) s.database
        new sendFailure.isSome with ⟨e, herror⟩ | ⟨row, -, -, -, -, hok⟩
      · refine ⟨[.sendStatement s.sends.length insert nonce], by simp, ?_⟩
        simp [execute, step, SendStage.ofAnswer, sendSms, hnew, SendStage.statement, herror,
          setSend]
      · cases sendFailure with
        | none =>
          refine ⟨[.sendStatement s.sends.length insert nonce, .sendResume s.sends.length],
            by simp, ?_⟩
          rw [Option.isSome_none] at hok
          simp [execute, step, SendStage.ofAnswer, sendSms, hnew, SendStage.statement, hok, setSend,
            SendStage.resume, storeSendFailure, map_eventInto, eventInto]
        | some errorMessage =>
          refine ⟨_, List.Subset.refl _, ?_⟩
          rw [Option.isSome_some] at hok
          simp [execute, step, SendStage.ofAnswer, sendSms, hnew, SendStage.statement, hok, setSend,
            SendStage.resume, storeSendFailure, map_eventInto, eventInto]

/-- The task of `main_rx` does with a report what the method does, if nothing interrupts it. -/
theorem execute_handleDeliveryReport (now : Millis) (calls : ReportCalls) (nonce : Nonce)
    {report : SmsPartialDeliveryReport} {mainRx : List (ModemIncomingMessage X)}
    (hidle : s.channel = .idle) (hmain : s.mainRx = .deliveryReport report :: mainRx) :
    ∃ inputs, inputs ⊆ [.statement calls.lookup nonce, .resume, .statement calls.insert nonce,
        .statement calls.update nonce] ∧
      execute (step context) s (.recv now :: inputs) =
        let r := handleDeliveryReport context.statuses context.broadcaster calls s.database report
        some ({ s with database := r.1, mainRx }, r.2.1.map eventInto) := by
  cases htarget : findTarget calls.lookup s.database report with
  | error e =>
    refine ⟨[.statement calls.lookup nonce, .resume], by simp, ?_⟩
    simp [execute, step, hidle, hmain, handleModemMessage, handleDeliveryReport,
      ChannelTask.statement, ChannelTask.resume, htarget]
  | ok messageId =>
    cases hinserted : (s.database.insertDeliveryReport calls.insert messageId report.status
        (context.statuses.isFinal report.status)).2 with
    | error e =>
      refine ⟨[.statement calls.lookup nonce, .resume, .statement calls.insert nonce],
        by simp, ?_⟩
      simp [execute, step, hidle, hmain, handleModemMessage, handleDeliveryReport,
        ChannelTask.statement, ChannelTask.resume, htarget, hinserted, map_eventInto, eventInto]
    | ok reportId =>
      refine ⟨_, List.Subset.refl _, ?_⟩
      simp [execute, step, hidle, hmain, handleModemMessage, handleDeliveryReport,
        ChannelTask.statement, ChannelTask.resume, htarget, hinserted, map_eventInto, eventInto]

end App

end SmsServer
