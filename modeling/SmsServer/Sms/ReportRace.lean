import SmsServer.Library.Machine
import SmsServer.Sms.Delivery

/-!
# Reports racing with the row they are for

Sending tasks and the receiving task share the database and nothing else. A sending task stores
its message after the modem has accepted it; the modem's delivery reports take another way, over
`main_rx` to the receiving task, which looks for the row by number and reference. `Tasks.step`
interleaves their statements, none of which fails.

The receiving task does not wait for the row, and takes the newest open one. So the first report
for a message reaches its row exactly if the row is there when the report is looked up, is still
open, and no newer open row has the same number and reference (`Tasks.delivered_iff_onTime`).
-/

namespace SmsServer

open RustStd Machine

variable {X : Crates}

/-! ### The tasks -/

/-- How far a sending task is. -/
inductive SendProgress
  /-- It is answered, and has not gone on yet. -/
  | answered
  | finished (rowId : Option ℕ)
  deriving DecidableEq, Repr

namespace SendProgress

/-- The row the task has stored. -/
def rowId : SendProgress → Option ℕ
  | answered => none
  | finished rowId => rowId

end SendProgress

/-- A task in `SMSManager::send_sms`, from the answer of the modem on. -/
structure SendTask (X : Crates) where
  message : SmsOutgoingMessage
  sent : Except Str (Bool × Option (ModemResponse X))
  progress : SendProgress
  /-- Whether the modem has emitted a delivery report for the message. -/
  reported : Bool

/-- The reference under which the modem accepted the message. -/
def SendTask.reference? (self : SendTask X) : Option UInt8 :=
  match self.sent with
  | .ok (true, some (.sendResult reference)) => some reference
  | _ => none

theorem SendTask.reference?_eq_some {task : SendTask X} {reference : UInt8} :
    task.reference? = some reference ↔ task.sent = .ok (true, some (.sendResult reference)) := by
  unfold reference?
  split <;> simp_all

/-- The row is for the message of the task. -/
def SendTask.Stored (task : SendTask X) (row : MessageRow) : Prop :=
  row.phoneNumber = task.message.toNumber ∧ row.isOutgoing = true ∧
    ∀ reference, task.reference? = some reference → row.messageReference = some reference

/-- A send of before the start, with its row in the database. -/
def SendTask.IsStoredIn (database : SMSDatabase) (task : SendTask X) : Prop :=
  ∃ id, task.progress = .finished (some id) ∧
    ∃ row ∈ database.messages, row.messageId = id ∧ task.Stored row

/-- A delivery report on its way, with the send it is for. -/
structure Dispatch where
  report : SmsPartialDeliveryReport
  send : ℕ
  /-- It is the first for its send, and fewer than 256 messages were sent to the number since. -/
  due : Bool
  deriving DecidableEq, Repr

/-- What `main_rx` holds. An incoming message is the one to store, converted or compiled; the
notifications that are only broadcast are left out. -/
inductive Mail
  | deliveryReport (dispatch : Dispatch)
  | incomingSms (message : SmsMessage)
  deriving DecidableEq, Repr

/-- The receiving task: between messages, or in `handle_delivery_report`. -/
inductive Receiver
  | idle
  | inserting (dispatch : Dispatch) (messageId : ℕ)
  | updating (dispatch : Dispatch) (messageId : ℕ)
  deriving DecidableEq, Repr

structure Tasks (X : Crates) where
  database : SMSDatabase
  /-- In the order in which the modem answered. -/
  sends : List (SendTask X)
  mainRx : List Mail
  receiver : Receiver

inductive TaskStep (X : Crates)
  /-- The modem answers a sending task. -/
  | answer (message : SmsOutgoingMessage) (sent : Except Str (Bool × Option (ModemResponse X)))
  /-- The sending task goes on. -/
  | store (send : ℕ) (now : UnixTime)
  /-- The modem emits a delivery report for a message it accepted. -/
  | emit (send : ℕ) (status : UInt8)
  /-- The modem emits a message. -/
  | deliver (message : SmsMessage)
  /-- The receiving task takes the next message, and does its first statement. -/
  | receive (now : UnixTime)
  | insertReport (now : UnixTime)
  | updateStatus (now : UnixTime)

/-- What becomes of the delivery reports. -/
inductive TaskEvent
  | emitted (dispatch : Dispatch)
  | lookedUp (dispatch : Dispatch) (target : Except Str ℕ)
  | recorded (dispatch : Dispatch) (reportId : ℕ)
  deriving DecidableEq, Repr

/-- What the tasks are configured with. -/
structure Setting where
  smsMessage : FromOutgoing
  encrypt : Str → Except Str Str
  statuses : MessageStatuses

/-- A statement that does not fail. -/
def Call.succeeding (now : UnixTime) : Call := { now, fails := false }

namespace Tasks

/-- The start, with the earlier sends that the modem may still report on. -/
def start (database : SMSDatabase) (earlier : List (SendTask X)) : Tasks X :=
  { database, sends := earlier, mainRx := [], receiver := .idle }

/-- How many messages the modem accepted for the number after this send. -/
def sentSince (self : Tasks X) (send : ℕ) (number : Str) : ℕ :=
  (self.sends.drop (send + 1)).countP fun task =>
    task.reference?.isSome && task.message.toNumber = number

/-- A sending task after the answer: one statement, apart from the table of send failures, which
no report reads. -/
def resume (setting : Setting) (now : UnixTime) (self : Tasks X) (task : SendTask X) :
    SMSDatabase × Option ℕ :=
  let (database, _, result) := sendSms setting.smsMessage false (.succeeding now) (.succeeding now)
    setting.encrypt self.database task.message task.sent
  (database, result.toOption.bind Prod.fst)

/-- The receiving task at the front of `main_rx`. -/
def receive (setting : Setting) (now : UnixTime) (self : Tasks X) :
    List Mail → Option (Tasks X × List TaskEvent)
  | [] => none
  | .deliveryReport dispatch :: mainRx =>
    let target := findTarget (.succeeding now) self.database dispatch.report
    -- an error ends `handle_delivery_report` here: it is logged and the report is gone
    let receiver := match target with
      | .ok messageId => .inserting dispatch messageId
      | .error _ => .idle
    some ({ self with mainRx, receiver }, [.lookedUp dispatch target])
  | .incomingSms message :: mainRx =>
    let database :=
      (self.database.insertMessage (.succeeding now) setting.encrypt message false).1
    some ({ self with mainRx, database }, [])

/-- One step of one task. -/
def step (setting : Setting) (self : Tasks X) : TaskStep X → Option (Tasks X × List TaskEvent)
  | .answer message sent =>
    some ({ self with
      sends := self.sends ++ [{ message, sent, progress := .answered, reported := false }] }, [])
  | .store send now =>
    match self.sends[send]? with
    | some task =>
      match task.progress with
      | .answered =>
        let (database, rowId) := self.resume setting now task
        some ({ self with
          database
          sends := self.sends.set send { task with progress := .finished rowId } }, [])
      | .finished _ => none
    | none => none
  | .emit send status =>
    match self.sends[send]? with
    | some task =>
      match task.reference? with
      | some referenceId =>
        let phoneNumber := task.message.toNumber
        let dispatch : Dispatch :=
          { report := { status, phoneNumber, referenceId }
            send
            due := !task.reported && self.sentSince send phoneNumber < 256 }
        some ({ self with
          mainRx := self.mainRx ++ [.deliveryReport dispatch]
          sends := self.sends.set send { task with reported := true } }, [.emitted dispatch])
      | none => none
    | none => none
  | .deliver message =>
    if message.isOutgoing then none
    else some ({ self with mainRx := self.mainRx ++ [.incomingSms message] }, [])
  | .receive now =>
    match self.receiver with
    | .idle => self.receive setting now self.mainRx
    | _ => none
  | .insertReport now =>
    match self.receiver with
    | .inserting dispatch messageId =>
      let status := dispatch.report.status
      let (database, inserted) := self.database.insertDeliveryReport (.succeeding now) messageId
        status (setting.statuses.isFinal status)
      match inserted with
      | .error _ => some ({ self with database, receiver := .idle }, [])
      | .ok reportId =>
        some ({ self with database, receiver := .updating dispatch messageId },
          [.recorded dispatch reportId])
    | _ => none
  | .updateStatus now =>
    match self.receiver with
    | .updating dispatch messageId =>
      let status := dispatch.report.status
      let (database, _) := self.database.updateMessageStatus (.succeeding now) messageId status
        (setting.statuses.isFinal status)
      some ({ self with database, receiver := .idle }, [])
    | _ => none

/-- The row of the message of a send, once it is stored. -/
def rowOf (self : Tasks X) (send : ℕ) : Option ℕ :=
  self.sends[send]?.bind (·.progress.rowId)

/-! ### What a step changes -/

/-- **Case analysis** of the steps. -/
inductive Change (setting : Setting) (s : Tasks X) :
    TaskStep X → Tasks X → List TaskEvent → Prop
  | answer (message : SmsOutgoingMessage) (sent : Except Str (Bool × Option (ModemResponse X))) :
    Change setting s (.answer message sent)
      { s with sends := s.sends ++ [{ message, sent, progress := .answered, reported := false }] }
      []
  | store {send : ℕ} (now : UnixTime) {task : SendTask X} (htask : s.sends[send]? = some task)
      (hprogress : task.progress = .answered) :
    Change setting s (.store send now)
      { s with
        database := (s.resume setting now task).1
        sends := s.sends.set send
          { task with progress := .finished (s.resume setting now task).2 } } []
  | emit {send : ℕ} (status : UInt8) {task : SendTask X} {referenceId : UInt8} (due : Bool)
      (htask : s.sends[send]? = some task) (hreference : task.reference? = some referenceId) :
    Change setting s (.emit send status)
      { s with
        mainRx := s.mainRx ++
          [.deliveryReport ⟨⟨status, task.message.toNumber, referenceId⟩, send, due⟩]
        sends := s.sends.set send { task with reported := true } }
      [.emitted ⟨⟨status, task.message.toNumber, referenceId⟩, send, due⟩]
  | deliver (message : SmsMessage) :
    Change setting s (.deliver message) { s with mainRx := s.mainRx ++ [.incomingSms message] } []
  | find {now : UnixTime} {dispatch : Dispatch} {mainRx : List Mail} {messageId : ℕ}
      (hidle : s.receiver = .idle) (hmail : s.mainRx = .deliveryReport dispatch :: mainRx)
      (htarget : findTarget (.succeeding now) s.database dispatch.report = .ok messageId) :
    Change setting s (.receive now) { s with mainRx, receiver := .inserting dispatch messageId }
      [.lookedUp dispatch (.ok messageId)]
  | discard {now : UnixTime} {dispatch : Dispatch} {mainRx : List Mail} {e : Str}
      (hidle : s.receiver = .idle) (hmail : s.mainRx = .deliveryReport dispatch :: mainRx)
      (htarget : findTarget (.succeeding now) s.database dispatch.report = .error e) :
    Change setting s (.receive now) { s with mainRx, receiver := .idle }
      [.lookedUp dispatch (.error e)]
  | storeIncoming {now : UnixTime} {message : SmsMessage} {mainRx : List Mail}
      (hidle : s.receiver = .idle) (hmail : s.mainRx = .incomingSms message :: mainRx) :
    Change setting s (.receive now)
      { s with
        mainRx
        database :=
          (s.database.insertMessage (.succeeding now) setting.encrypt message false).1 } []
  | insertReport {now : UnixTime} {dispatch : Dispatch} {messageId reportId : ℕ}
      (hreceiver : s.receiver = .inserting dispatch messageId)
      (hinserted : (s.database.insertDeliveryReport (.succeeding now) messageId
        dispatch.report.status (setting.statuses.isFinal dispatch.report.status)).2 =
          .ok reportId) :
    Change setting s (.insertReport now)
      { s with
        database := (s.database.insertDeliveryReport (.succeeding now) messageId
          dispatch.report.status (setting.statuses.isFinal dispatch.report.status)).1
        receiver := .updating dispatch messageId } [.recorded dispatch reportId]
  | refuseReport {now : UnixTime} {dispatch : Dispatch} {messageId : ℕ} {e : Str}
      (hreceiver : s.receiver = .inserting dispatch messageId)
      (hinserted : (s.database.insertDeliveryReport (.succeeding now) messageId
        dispatch.report.status (setting.statuses.isFinal dispatch.report.status)).2 = .error e) :
    Change setting s (.insertReport now)
      { s with
        database := (s.database.insertDeliveryReport (.succeeding now) messageId
          dispatch.report.status (setting.statuses.isFinal dispatch.report.status)).1
        receiver := .idle } []
  | updateStatus (now : UnixTime) {dispatch : Dispatch} {messageId : ℕ}
      (hreceiver : s.receiver = .updating dispatch messageId) :
    Change setting s (.updateStatus now)
      { s with
        database := (s.database.updateMessageStatus (.succeeding now) messageId
          dispatch.report.status (setting.statuses.isFinal dispatch.report.status)).1
        receiver := .idle } []

variable {setting : Setting} {s s' : Tasks X} {i : TaskStep X} {out : List TaskEvent}

theorem step_change (h : s.step setting i = some (s', out)) : Change setting s i s' out := by
  cases i with
  | answer message sent =>
    obtain ⟨rfl, rfl⟩ := Prod.mk.inj (Option.some.inj h)
    exact .answer message sent
  | store send now =>
    simp only [step] at h
    split at h
    · split at h
      · obtain ⟨rfl, rfl⟩ := Prod.mk.inj (Option.some.inj h)
        exact .store now ‹_› ‹_›
      · cases h
    · cases h
  | emit send status =>
    simp only [step] at h
    split at h
    · split at h
      · obtain ⟨rfl, rfl⟩ := Prod.mk.inj (Option.some.inj h)
        exact .emit status _ ‹_› ‹_›
      · cases h
    · cases h
  | deliver message =>
    simp only [step] at h
    split at h
    · cases h
    · obtain ⟨rfl, rfl⟩ := Prod.mk.inj (Option.some.inj h)
      exact .deliver message
  | receive now =>
    simp only [step] at h
    split at h
    · cases hmail : s.mainRx with
      | nil => simp [hmail, receive] at h
      | cons mail mainRx =>
        cases mail with
        | deliveryReport dispatch =>
          cases htarget : findTarget (.succeeding now) s.database dispatch.report with
          | ok messageId =>
            simp only [hmail, receive, htarget, Option.some.injEq, Prod.mk.injEq] at h
            obtain ⟨rfl, rfl⟩ := h
            exact .find ‹_› hmail htarget
          | error e =>
            simp only [hmail, receive, htarget, Option.some.injEq, Prod.mk.injEq] at h
            obtain ⟨rfl, rfl⟩ := h
            exact .discard ‹_› hmail htarget
        | incomingSms message =>
          simp only [hmail, receive, Option.some.injEq, Prod.mk.injEq] at h
          obtain ⟨rfl, rfl⟩ := h
          exact .storeIncoming ‹_› hmail
    · cases h
  | insertReport now =>
    simp only [step] at h
    split at h
    · split at h
      · obtain ⟨rfl, rfl⟩ := Prod.mk.inj (Option.some.inj h)
        exact .refuseReport ‹_› ‹_›
      · obtain ⟨rfl, rfl⟩ := Prod.mk.inj (Option.some.inj h)
        exact .insertReport ‹_› ‹_›
    · cases h
  | updateStatus now =>
    simp only [step] at h
    split at h
    · obtain ⟨rfl, rfl⟩ := Prod.mk.inj (Option.some.inj h)
      exact .updateStatus now ‹_›
    · cases h

/-- **Uninterrupted**, the steps of the receiving task are `handle_delivery_report`. -/
theorem execute_handleDeliveryReport {now₁ now₂ now₃ : UnixTime} {dispatch : Dispatch}
    {mainRx : List Mail} {messageId : ℕ} (hidle : s.receiver = .idle)
    (hmail : s.mainRx = .deliveryReport dispatch :: mainRx)
    (htarget : findTarget (.succeeding now₁) s.database dispatch.report = .ok messageId) :
    execute (step setting) s [.receive now₁, .insertReport now₂, .updateStatus now₃] =
      some ({ s with
        mainRx
        database := (handleDeliveryReport setting.statuses false
          ⟨.succeeding now₁, .succeeding now₂, .succeeding now₃⟩ s.database dispatch.report).1 },
        [.lookedUp dispatch (.ok messageId), .recorded dispatch s.database.nextReportId]) := by
  obtain ⟨⟨row, hrow, -, hid⟩, -⟩ := (findTarget_eq_ok_iff rfl).mp htarget
  have hany : s.database.messages.any (fun row => row.messageId = messageId) = true :=
    List.any_eq_true.mpr ⟨row, hrow, by simp [hid]⟩
  have hinsert : ∀ status isFinal, ∃ database,
      s.database.insertDeliveryReport (.succeeding now₂) messageId status isFinal =
        (database, .ok s.database.nextReportId) := by
    intro status isFinal
    exact ⟨_, if_neg (by simp [hany, Call.succeeding])⟩
  obtain ⟨database, hinsert⟩ := hinsert dispatch.report.status
    (setting.statuses.isFinal dispatch.report.status)
  simp [execute, step, receive, hidle, hmail, htarget, handleDeliveryReport, hinsert]

/-! ### The sending tasks -/

/-- Tasks go on: what they were answered stays, and so does a row they have stored. -/
def Follow (sends sends' : List (SendTask X)) : Prop :=
  ∀ (send : ℕ) (task : SendTask X), sends[send]? = some task → ∃ task', sends'[send]? = some task' ∧
    task'.message = task.message ∧ task'.sent = task.sent ∧
    ∀ id, task.progress.rowId = some id → task'.progress.rowId = some id

namespace Follow

variable {sends : List (SendTask X)}

theorem refl (sends : List (SendTask X)) : Follow sends sends :=
  fun _ task htask => ⟨task, htask, rfl, rfl, fun _ => id⟩

theorem append (added : SendTask X) : Follow sends (sends ++ [added]) := by
  intro send task htask
  obtain ⟨hlt, -⟩ := List.getElem?_eq_some_iff.mp htask
  exact ⟨task, by rw [List.getElem?_append_left hlt, htask], rfl, rfl, fun _ => id⟩

theorem set {send : ℕ} {task task' : SendTask X} (htask : sends[send]? = some task)
    (hmessage : task'.message = task.message) (hsent : task'.sent = task.sent)
    (hrow : ∀ id, task.progress.rowId = some id → task'.progress.rowId = some id) :
    Follow sends (sends.set send task') := by
  intro other old hold
  obtain ⟨hlt, -⟩ := List.getElem?_eq_some_iff.mp htask
  by_cases heq : send = other
  · subst heq
    obtain rfl : task = old := Option.some.inj (htask.symm.trans hold)
    exact ⟨task', List.getElem?_set_self hlt, hmessage, hsent, hrow⟩
  · exact ⟨old, by rw [List.getElem?_set_ne heq, hold], rfl, rfl, fun _ => id⟩

end Follow

theorem Change.follow (h : Change setting s i s' out) : Follow s.sends s'.sends := by
  cases h with
  | answer => exact .append _
  | store now htask hprogress => exact .set htask rfl rfl (by simp [hprogress, SendProgress.rowId])
  | emit status due htask hreference => exact .set htask rfl rfl fun _ => id
  | _ => exact .refl _

theorem Change.rowOf (h : Change setting s i s' out) {send id : ℕ} (hrow : s.rowOf send = some id) :
    s'.rowOf send = some id := by
  obtain ⟨task, htask, hid⟩ := Option.bind_eq_some_iff.mp hrow
  obtain ⟨task', htask', -, -, hkept⟩ := h.follow send task htask
  exact Option.bind_eq_some_iff.mpr ⟨task', htask', hkept id hid⟩

theorem Change.evolves (h : Change setting s i s' out) :
    SMSDatabase.Evolves s.database s'.database := by
  cases h with
  | store => exact evolves_sendSms
  | storeIncoming => exact SMSDatabase.evolves_insertMessage _ _ _ _ _
  | insertReport => exact SMSDatabase.evolves_insertDeliveryReport _ _ _ _ _
  | refuseReport => exact SMSDatabase.evolves_insertDeliveryReport _ _ _ _ _
  | updateStatus now hreceiver => exact SMSDatabase.evolves_updateMessageStatus _ _ _ _ _
  | _ => exact .refl _

theorem resume_stored {now : UnixTime} {task : SendTask X} {id : ℕ}
    (h : (s.resume setting now task).2 = some id) :
    id = s.database.messageSequence + 1 ∧
      ∃ row ∈ (s.resume setting now task).1.messages, row.messageId = id ∧ task.Stored row := by
  change (sendSms setting.smsMessage false (.succeeding now) (.succeeding now) setting.encrypt
    s.database task.message task.sent).2.2.toOption.bind Prod.fst = some id at h
  have hcases := @sendSms_cases X setting.smsMessage false (.succeeding now) (.succeeding now)
    setting.encrypt s.database task.message task.sent
  rcases hcases with ⟨-, hnone⟩ | ⟨row, hrow, response, -, hid, hnumber, hdirection, hreference,
    hsent⟩
  · rw [hnone] at h
    cases h
  · rw [hsent] at h
    obtain rfl := Option.some.inj h
    exact ⟨hid, row, hrow, rfl, hnumber, hdirection,
      fun reference h => hreference reference (SendTask.reference?_eq_some.mp h)⟩

/-- A row id a task has after a step, it had before or got now, as the next one, with a row for
its message. -/
theorem Change.stored (h : Change setting s i s' out) {send id : ℕ} {task' : SendTask X}
    (htask' : s'.sends[send]? = some task') (hid : task'.progress.rowId = some id) :
    (∃ task, s.sends[send]? = some task ∧ task.progress.rowId = some id ∧
      task'.message = task.message ∧ task'.sent = task.sent) ∨
    id = s.database.messageSequence + 1 ∧
      ∃ row ∈ s'.database.messages, row.messageId = id ∧ task'.Stored row := by
  have hsame : s.sends[send]? = some task' →
      ∃ task, s.sends[send]? = some task ∧ task.progress.rowId = some id ∧
        task'.message = task.message ∧ task'.sent = task.sent :=
    fun htask => ⟨task', htask, hid, rfl, rfl⟩
  cases h with
  | answer message sent =>
    by_cases hlt : send < s.sends.length
    · exact .inl (hsame ((List.getElem?_append_left hlt).symm.trans htask'))
    · have hnew := (List.getElem?_append_right (not_lt.mp hlt)).symm.trans htask'
      obtain rfl := List.mem_singleton.mp (List.mem_of_getElem? hnew)
      cases hid
  | @store other now task htask hprogress =>
    obtain ⟨hlt, -⟩ := List.getElem?_eq_some_iff.mp htask
    by_cases heq : other = send
    · subst heq
      obtain rfl := Option.some.inj ((List.getElem?_set_self hlt).symm.trans htask')
      -- this is the task that goes on
      exact .inr (resume_stored hid)
    · exact .inl (hsame ((List.getElem?_set_ne heq).symm.trans htask'))
  | @emit other status task referenceId due htask hreference =>
    obtain ⟨hlt, -⟩ := List.getElem?_eq_some_iff.mp htask
    by_cases heq : other = send
    · subst heq
      obtain rfl := Option.some.inj ((List.getElem?_set_self hlt).symm.trans htask')
      exact .inl ⟨task, htask, hid, rfl, rfl⟩
    · exact .inl (hsame ((List.getElem?_set_ne heq).symm.trans htask'))
  | _ => exact .inl (hsame htask')

/-! ### What every run keeps track of -/

/-- The report is for a message the modem accepted, under its number and reference. -/
def Addressed (s : Tasks X) (dispatch : Dispatch) : Prop :=
  ∃ task, s.sends[dispatch.send]? = some task ∧
    task.message.toNumber = dispatch.report.phoneNumber ∧
    task.reference? = some dispatch.report.referenceId

theorem Change.addressed (h : Change setting s i s' out) {dispatch : Dispatch}
    (haddressed : s.Addressed dispatch) : s'.Addressed dispatch := by
  obtain ⟨task, htask, hnumber, hreference⟩ := haddressed
  obtain ⟨task', htask', hmessage, hsent, -⟩ := h.follow _ task htask
  refine ⟨task', htask', by rw [hmessage, hnumber], ?_⟩
  rw [SendTask.reference?_eq_some] at hreference ⊢
  rw [hsent, hreference]

/-- The tasks and the database fit together. -/
structure Tracked (s : Tasks X) : Prop where
  keyed : s.database.Keyed
  /-- A row id is that of a row for the message. -/
  rows : ∀ (send : ℕ) (task : SendTask X) (id : ℕ), s.sends[send]? = some task →
    task.progress.rowId = some id →
    ∃ row ∈ s.database.messages, row.messageId = id ∧ task.Stored row
  addressed : ∀ dispatch, .deliveryReport dispatch ∈ s.mainRx → s.Addressed dispatch
  /-- The target that was found is there. -/
  target : ∀ dispatch messageId, s.receiver = .inserting dispatch messageId →
    ∃ row ∈ s.database.messages, row.messageId = messageId

theorem Tracked.start {database : SMSDatabase} {earlier : List (SendTask X)}
    (hkeyed : database.Keyed) (hearlier : ∀ task ∈ earlier, task.IsStoredIn database) :
    (start database earlier).Tracked where
  keyed := hkeyed
  rows send task id htask hid := by
    obtain ⟨_, hprogress, hrow⟩ := hearlier task (List.mem_of_getElem? htask)
    rw [hprogress] at hid
    exact Option.some.inj hid ▸ hrow
  addressed dispatch hmail := by simp [Tasks.start] at hmail
  target dispatch messageId hreceiver := by simp [Tasks.start] at hreceiver

theorem Tracked.change (htracked : s.Tracked) (h : Change setting s i s' out) : s'.Tracked where
  keyed := h.evolves.keyed htracked.keyed
  rows send task' id htask' hid := by
    rcases h.stored htask' hid with ⟨task, htask, hid, hmessage, hsent⟩ | ⟨-, hrow⟩
    · obtain ⟨row, hrow, hrowId, hnumber, hdirection, hreference⟩ := htracked.rows _ _ _ htask hid
      obtain ⟨row', hrow', hid', hnumber', hreference', hdirection'⟩ := h.evolves.rows row hrow
      refine ⟨row', hrow', hid'.trans hrowId, ?_, hdirection'.trans hdirection, ?_⟩
      · rw [hnumber', hnumber, hmessage]
      · intro reference h
        rw [SendTask.reference?_eq_some, hsent, ← SendTask.reference?_eq_some] at h
        exact hreference'.trans (hreference reference h)
    · exact hrow
  addressed dispatch hmail := by
    have hold : .deliveryReport dispatch ∈ s.mainRx → s'.Addressed dispatch :=
      fun hmail => h.addressed (htracked.addressed dispatch hmail)
    cases h with
    | @emit send status task referenceId due htask hreference =>
      rcases List.mem_append.mp hmail with hmail | hmail
      · exact hold hmail
      · -- The new report carries the number and the reference of its task.
        obtain ⟨hlt, -⟩ := List.getElem?_eq_some_iff.mp htask
        cases List.mem_singleton.mp hmail
        exact ⟨_, List.getElem?_set_self hlt, rfl, hreference⟩
    | deliver message =>
      rcases List.mem_append.mp hmail with hmail | hmail
      · exact hold hmail
      · cases List.mem_singleton.mp hmail
    | find hidle hfront htarget => exact hold (hfront ▸ List.mem_cons_of_mem _ hmail)
    | discard hidle hfront htarget => exact hold (hfront ▸ List.mem_cons_of_mem _ hmail)
    | storeIncoming hidle hfront => exact hold (hfront ▸ List.mem_cons_of_mem _ hmail)
    | _ => exact hold hmail
  target dispatch messageId hreceiver := by
    have hold : s.receiver = .inserting dispatch messageId →
        ∃ row ∈ s'.database.messages, row.messageId = messageId := by
      intro hreceiver
      obtain ⟨row, hrow, hid⟩ := htracked.target dispatch messageId hreceiver
      obtain ⟨row', hrow', hid', -⟩ := h.evolves.rows row hrow
      exact ⟨row', hrow', hid'.trans hid⟩
    cases h with
    | find hidle hfront htarget =>
      obtain ⟨rfl, rfl⟩ : _ = dispatch ∧ _ = messageId := by simpa using hreceiver
      obtain ⟨⟨row, hrow, -, hid⟩, -⟩ := (findTarget_eq_ok_iff rfl).mp htarget
      exact ⟨row, hrow, hid⟩
    | discard => cases hreceiver
    | insertReport => cases hreceiver
    | refuseReport => cases hreceiver
    | updateStatus => cases hreceiver
    | _ => exact hold hreceiver

variable {database : SMSDatabase} {earlier : List (SendTask X)}
  {h : List (Tasks X × TaskStep X)} {t : List TaskEvent}

theorem run_tracked (hkeyed : database.Keyed)
    (hearlier : ∀ task ∈ earlier, task.IsStoredIn database)
    (hrun : Run (step setting) (start database earlier) h s t) : s.Tracked :=
  hrun.invariant (Tracked.start hkeyed hearlier) fun _ _ _ _ htracked hstep =>
    htracked.change (step_change hstep)

/-! ### Lookups -/

/-- The report that the receiving task looks up next. -/
def front? (s : Tasks X) : Option Dispatch :=
  match s.receiver, s.mainRx with
  | .idle, .deliveryReport dispatch :: _ => some dispatch
  | _, _ => none

/-- The row of the message is stored, is open, and no newer open row has the same number and
reference. -/
def Ready (s : Tasks X) (dispatch : Dispatch) : Prop :=
  ∃ id ∈ s.rowOf dispatch.send,
    (∀ row ∈ s.database.messages, row.messageId = id → row.completedAt = none) ∧
    ∀ row ∈ s.database.messages,
      SMSDatabase.Awaits dispatch.report.phoneNumber dispatch.report.referenceId row →
        row.messageId ≤ id

/-- The step does not look up a report that is due before it is ready. -/
def OnTime (s : Tasks X) : TaskStep X → Prop
  | .receive _ => ∀ dispatch ∈ s.front?, dispatch.due = true → s.Ready dispatch
  | _ => True

instance (s : Tasks X) : DecidablePred s.Ready :=
  fun _ => inferInstanceAs (Decidable (∃ id ∈ s.rowOf _, _ ∧ _))

instance (s : Tasks X) : DecidablePred s.OnTime
  | .receive _ => inferInstanceAs (Decidable (∀ dispatch ∈ s.front?, _ → _))
  | .answer .. | .store .. | .emit .. | .deliver _ | .insertReport _ | .updateStatus _ =>
    inferInstanceAs (Decidable True)

theorem deliveryReport_mem_of_front? {dispatch : Dispatch} (h : s.front? = some dispatch) :
    .deliveryReport dispatch ∈ s.mainRx := by
  unfold front? at h
  split at h
  · next hmail =>
    obtain rfl := Option.some.inj h
    exact hmail ▸ List.mem_cons_self
  · cases h

/-- A report is ready if its lookup finds the row of its message. -/
theorem Tracked.ready_iff (htracked : s.Tracked) {dispatch : Dispatch}
    (hfront : s.front? = some dispatch) (now : UnixTime) :
    s.Ready dispatch ↔ ∃ id, findTarget (.succeeding now) s.database dispatch.report = .ok id ∧
      s.rowOf dispatch.send = some id := by
  simp only [findTarget_eq_ok_iff (show (Call.succeeding now).fails = false from rfl)]
  constructor
  · rintro ⟨id, hrowOf, hopen, hnewest⟩
    obtain ⟨task, htask, hnumber, hreference⟩ :=
      htracked.addressed dispatch (deliveryReport_mem_of_front? hfront)
    obtain ⟨task', htask', hid⟩ := Option.bind_eq_some_iff.mp hrowOf
    obtain rfl : task = task' := Option.some.inj (htask.symm.trans htask')
    obtain ⟨row, hrow, hrowId, hrowNumber, hdirection, hrowReference⟩ :=
      htracked.rows _ _ _ htask hid
    exact ⟨id, ⟨⟨row, hrow, ⟨hopen row hrow hrowId, hdirection, hrowNumber.trans hnumber,
      hrowReference _ hreference⟩, hrowId⟩, hnewest⟩, hrowOf⟩
  · rintro ⟨id, ⟨⟨row, hrow, hawaits, hrowId⟩, hnewest⟩, hrowOf⟩
    refine ⟨id, hrowOf, fun other hother hid => ?_, hnewest⟩
    rw [htracked.keyed.eq_of_messageId hother hrow (hid.trans hrowId.symm)]
    exact hawaits.1

/-- A lookup is what a step of the receiving task does with the report at the front. -/
theorem Change.lookedUp_iff (h : Change setting s i s' out) {dispatch : Dispatch}
    {target : Except Str ℕ} :
    .lookedUp dispatch target ∈ out ↔ ∃ now, i = .receive now ∧ s.front? = some dispatch ∧
      target = findTarget (.succeeding now) s.database dispatch.report := by
  cases h with
  | find hidle hmail htarget =>
    constructor
    · intro h
      cases List.mem_singleton.mp h
      exact ⟨_, rfl, by simp [front?, hidle, hmail], htarget.symm⟩
    · rintro ⟨now, ⟨⟩, hfront, rfl⟩
      obtain rfl : _ = dispatch := by simpa [front?, hidle, hmail] using hfront
      simp [htarget]
  | discard hidle hmail htarget =>
    constructor
    · intro h
      cases List.mem_singleton.mp h
      exact ⟨_, rfl, by simp [front?, hidle, hmail], htarget.symm⟩
    · rintro ⟨now, ⟨⟩, hfront, rfl⟩
      obtain rfl : _ = dispatch := by simpa [front?, hidle, hmail] using hfront
      simp [htarget]
  | storeIncoming hidle hmail => simp [front?, hidle, hmail]
  | _ => simp

/-- A row id that was in use already is not given to a task any more. -/
theorem Change.rowOf_of_le (h : Change setting s i s' out) {send id : ℕ}
    (hle : id ≤ s.database.messageSequence) (hrow : s'.rowOf send = some id) :
    s.rowOf send = some id := by
  obtain ⟨task', htask', hid⟩ := Option.bind_eq_some_iff.mp hrow
  rcases h.stored htask' hid with ⟨task, htask, hid, -⟩ | ⟨hnext, -⟩
  · exact Option.bind_eq_some_iff.mpr ⟨task, htask, hid⟩
  · omega

/-- The row a lookup found, if it is the row of a task in the end, was so when it was found. -/
private theorem run_rowOf (hkeyed : database.Keyed)
    (hearlier : ∀ task ∈ earlier, task.IsStoredIn database)
    (hrun : Run (step setting) (start database earlier) h s t) :
    ∀ p ∈ h, ∀ (now : UnixTime) (dispatch : Dispatch) (id : ℕ),
      findTarget (.succeeding now) p.1.database dispatch.report = .ok id →
        id ≤ s.database.messageSequence ∧
          ∀ send, s.rowOf send = some id → p.1.rowOf send = some id := by
  induction hrun with
  | start => simp
  | @next h s s' t out i hrun hstep ih =>
    have hchange := step_change hstep
    intro p hp now dispatch id htarget
    -- a row id that a lookup returned is in use, so no task gets it later
    have hbefore : id ≤ s.database.messageSequence ∧
        ∀ send, s.rowOf send = some id → p.1.rowOf send = some id := by
      rcases List.mem_append.mp hp with hp | hp
      · exact ih p hp now dispatch id htarget
      · cases List.mem_singleton.mp hp
        obtain ⟨⟨row, hrow, -, hid⟩, -⟩ := (findTarget_eq_ok_iff rfl).mp htarget
        exact ⟨hid ▸ (run_tracked hkeyed hearlier hrun).keyed.bounded row hrow, fun _ hrow => hrow⟩
    exact ⟨hbefore.1.trans hchange.evolves.sequence_le,
      fun send hrow => hbefore.2 send (hchange.rowOf_of_le hbefore.1 hrow)⟩

/-! ### Delivery -/

/-- Every lookup of a report that was due found the row of its message. -/
def Attributed (s : Tasks X) (t : List TaskEvent) : Prop :=
  ∀ dispatch target, .lookedUp dispatch target ∈ t → dispatch.due = true →
    ∃ id, target = .ok id ∧ s.rowOf dispatch.send = some id

/-- The reports that are due reach the rows of their messages. -/
structure Delivered (s : Tasks X) (t : List TaskEvent) : Prop where
  attributed : s.Attributed t
  /-- A report waits to be looked up, or to be inserted for that row, or is recorded for it. -/
  recorded : ∀ dispatch, .emitted dispatch ∈ t → dispatch.due = true →
    .deliveryReport dispatch ∈ s.mainRx ∨
    (∃ id, s.receiver = .inserting dispatch id ∧ s.rowOf dispatch.send = some id) ∨
    ∃ report ∈ s.database.deliveryReports, .recorded dispatch report.reportId ∈ t ∧
      s.rowOf dispatch.send = some report.messageId ∧ report.status = dispatch.report.status

/-- Where a report is: in `main_rx`, or looked up, and then discarded, to be inserted, or
recorded, for the row the lookup found. -/
def Accounted (s : Tasks X) (t : List TaskEvent) (dispatch : Dispatch) : Prop :=
  .deliveryReport dispatch ∈ s.mainRx ∨
  ∃ target, .lookedUp dispatch target ∈ t ∧ ∀ id, target = .ok id →
    s.receiver = .inserting dispatch id ∨
    ∃ report ∈ s.database.deliveryReports, .recorded dispatch report.reportId ∈ t ∧
      report.messageId = id ∧ report.status = dispatch.report.status

theorem Accounted.change (htracked : s.Tracked) (h : Change setting s i s' out)
    {dispatch : Dispatch} (haccounted : s.Accounted t dispatch) :
    s'.Accounted (t ++ out) dispatch := by
  rcases haccounted with hmail | ⟨target, hlooked, hplace⟩
  · cases h with
    | find hidle hfront htarget =>
      rcases List.mem_cons.mp (hfront ▸ hmail) with hsame | hrest
      · cases hsame
        refine .inr ⟨_, List.mem_append_right _ (List.mem_singleton_self _), ?_⟩
        rintro id ⟨⟩
        exact .inl rfl
      · exact .inl hrest
    | discard hidle hfront htarget =>
      rcases List.mem_cons.mp (hfront ▸ hmail) with hsame | hrest
      · cases hsame
        exact .inr ⟨_, List.mem_append_right _ (List.mem_singleton_self _), fun _ h => nomatch h⟩
      · exact .inl hrest
    | storeIncoming hidle hfront =>
      rcases List.mem_cons.mp (hfront ▸ hmail) with hsame | hrest
      · cases hsame
      · exact .inl hrest
    | emit => exact .inl (List.mem_append_left _ hmail)
    | deliver => exact .inl (List.mem_append_left _ hmail)
    | _ => exact .inl hmail
  · refine .inr ⟨target, List.mem_append_left _ hlooked, fun id hid => ?_⟩
    rcases hplace id hid with hreceiver | ⟨report, hreport, hrecorded, hfields⟩
    · cases h with
      | find hidle => simp [hidle] at hreceiver
      | discard hidle => simp [hidle] at hreceiver
      | insertReport hinserting hinserted =>
        obtain ⟨rfl, rfl⟩ : _ = dispatch ∧ _ = id := by simpa [hinserting] using hreceiver
        obtain ⟨report, hreport, rfl, hfields⟩ := SMSDatabase.insertDeliveryReport_ok hinserted
        exact .inr ⟨report, hreport, List.mem_append_right _ (List.mem_singleton_self _), hfields⟩
      | refuseReport hinserting hinserted =>
        -- The message the lookup found is there.
        obtain ⟨row, hrow, hrowId⟩ := htracked.target _ _ hinserting
        exact absurd hrowId (SMSDatabase.insertDeliveryReport_error rfl hinserted row hrow)
      | updateStatus now hupdating => simp [hupdating] at hreceiver
      | _ => exact .inl hreceiver
    · exact .inr ⟨report, h.evolves.reports report hreport, List.mem_append_left _ hrecorded,
        hfields⟩

/-- Every report that was emitted is accounted for. -/
theorem run_accounted (hkeyed : database.Keyed)
    (hearlier : ∀ task ∈ earlier, task.IsStoredIn database)
    (hrun : Run (step setting) (start database earlier) h s t) :
    ∀ dispatch, .emitted dispatch ∈ t → s.Accounted t dispatch := by
  induction hrun with
  | start => simp
  | @next h s s' t out i hrun hstep ih =>
    have hchange := step_change hstep
    intro dispatch hemitted
    rcases List.mem_append.mp hemitted with hemitted | hemitted
    · exact (ih dispatch hemitted).change (run_tracked hkeyed hearlier hrun) hchange
    · left
      cases hchange with
      | emit =>
        cases List.mem_singleton.mp hemitted
        exact List.mem_append_right _ (List.mem_singleton_self _)
      | _ => simp at hemitted

/-- In a run that is on time, every lookup of a report that was due found its row. -/
private theorem run_attributed (hkeyed : database.Keyed)
    (hearlier : ∀ task ∈ earlier, task.IsStoredIn database)
    (hrun : Run (step setting) (start database earlier) h s t) (honTime : ∀ p ∈ h, p.1.OnTime p.2) :
    s.Attributed t := by
  refine hrun.induct_of_guard (P := Attributed) (fun _ _ hlooked => nomatch hlooked) ?_ honTime
  intro h s t i s' out hrun ih honTime hstep dispatch target hlooked hdue
  have hchange := step_change hstep
  have hbefore : ∃ id, target = .ok id ∧ s.rowOf dispatch.send = some id := by
    rcases List.mem_append.mp hlooked with hlooked | hlooked
    · exact ih dispatch target hlooked hdue
    · obtain ⟨now, rfl, hfront, rfl⟩ := hchange.lookedUp_iff.mp hlooked
      exact ((run_tracked hkeyed hearlier hrun).ready_iff hfront now).mp
        (honTime dispatch hfront hdue)
  obtain ⟨id, htarget, hrow⟩ := hbefore
  exact ⟨id, htarget, hchange.rowOf hrow⟩

/-- **Delivery.** Reports that are due, for the messages sent in a run or for earlier ones, reach
the rows of their messages exactly in the runs in which none is looked up before it is ready. -/
theorem delivered_iff_onTime (hkeyed : database.Keyed)
    (hearlier : ∀ task ∈ earlier, task.IsStoredIn database)
    (hrun : Run (step setting) (start database earlier) h s t) :
    s.Delivered t ↔ ∀ p ∈ h, p.1.OnTime p.2 := by
  constructor
  · rintro hdelivered ⟨s₁, i⟩ hp
    obtain ⟨h₁, h₂, t₁, t₂, s₂, out, rfl, rfl, hrun₁, hstep⟩ := hrun.of_mem_history hp
    cases i with
    | receive now =>
      intro dispatch hfront hdue
      have hlooked := (step_change hstep).lookedUp_iff.mpr ⟨now, rfl, hfront, rfl⟩
      obtain ⟨id, htarget, hrow⟩ := hdelivered.attributed dispatch _
        (List.mem_append_left _ (List.mem_append_right _ hlooked)) hdue
      have hbefore := (run_rowOf hkeyed hearlier hrun _ hp now dispatch id htarget).2 _ hrow
      exact ((run_tracked hkeyed hearlier hrun₁).ready_iff hfront now).mpr
        ⟨id, htarget, hbefore⟩
    | _ => trivial
  · intro honTime
    have hattributed := run_attributed hkeyed hearlier hrun honTime
    refine ⟨hattributed, fun dispatch hemitted hdue => ?_⟩
    rcases run_accounted hkeyed hearlier hrun dispatch hemitted with
      hmail | ⟨target, hlooked, hplace⟩
    · exact .inl hmail
    · obtain ⟨id, rfl, hrow⟩ := hattributed dispatch target hlooked hdue
      rcases hplace id rfl with hreceiver | ⟨report, hreport, hrecorded, rfl, hstatus⟩
      · exact .inr (.inl ⟨id, hreceiver, hrow⟩)
      · exact .inr (.inr ⟨report, hreport, hrecorded, hrow, hstatus⟩)

/-! ### One message and its report -/

/-- Nothing is encrypted. -/
def copying : Setting := { smsMessage := .copying, encrypt := .ok, statuses := .grouped }

/-- A message that was accepted under reference 6 before the start. -/
def acceptedBefore : SMSDatabase where
  messages := [⟨1, "+1".toList, "hey".toList, some 6, true, none, 0, none⟩]
  messageSequence := 1
  deliveryReports := []
  sendFailures := []

def earlierSend : SendTask .rejecting where
  message := ⟨"+1".toList, "hey".toList⟩
  sent := .ok (true, some (.sendResult 6))
  progress := .finished (some 1)
  reported := false

theorem earlierSend_isStoredIn : earlierSend.IsStoredIn acceptedBefore := by
  refine ⟨1, rfl, _, List.mem_singleton_self _, rfl, rfl, rfl, ?_⟩
  rintro _ ⟨⟩
  rfl

/-- The modem accepts a message under reference 7, which is stored, and reports the delivery of the
earlier message and of this one. -/
def storedInTime : List (TaskStep .rejecting) :=
  [.answer ⟨"+1".toList, "hi".toList⟩ (.ok (true, some (.sendResult 7))), .store 1 1, .emit 0 0,
    .emit 1 0, .receive 2, .insertReport 3, .updateStatus 4, .receive 5, .insertReport 6,
    .updateStatus 7]

theorem delivered_iff_onTime_stored :
    ∃ (h : List (Tasks .rejecting × TaskStep .rejecting)) (s : Tasks .rejecting)
      (t : List TaskEvent), h.map Prod.snd = storedInTime ∧
      Run (step copying) (start acceptedBefore [earlierSend]) h s t ∧
      s.database.deliveryReports.map (·.messageId) = [1, 2] ∧ s.Delivered t := by
  obtain ⟨s, t, hinputs, hrun, hreports⟩ := Run.of_execute (step copying)
    (start acceptedBefore [earlierSend]) storedInTime
    (fun r => r.1.database.deliveryReports.map (·.messageId)) (b := [1, 2]) (by decide +kernel)
  have honTime : ∀ p ∈ history (step copying) (start acceptedBefore [earlierSend]) storedInTime,
      p.1.OnTime p.2 := by
    decide +kernel
  have hkeyed : acceptedBefore.Keyed := ⟨by decide, by decide⟩
  have hearlier : ∀ task ∈ [earlierSend], task.IsStoredIn acceptedBefore :=
    fun _ htask => List.mem_singleton.mp htask ▸ earlierSend_isStoredIn
  exact ⟨_, s, t, hinputs, hrun, hreports,
    (delivered_iff_onTime hkeyed hearlier hrun).mpr honTime⟩

/-- The receiving task is faster than the sending task. -/
def overtaken : List (TaskStep .rejecting) :=
  [.answer ⟨"+1".toList, "hi".toList⟩ (.ok (true, some (.sendResult 7))), .emit 0 0,
    .receive 1, .store 0 2]

/-- The report for the only message is discarded, and the message stays open. -/
theorem lookup_overtakes_insert :
    ∃ (h : List (Tasks .rejecting × TaskStep .rejecting)) (s : Tasks .rejecting)
      (t : List TaskEvent), h.map Prod.snd = overtaken ∧
      Run (step copying) (start .empty []) h s t ∧ s.mainRx = [] ∧ s.receiver = .idle ∧
      s.database.deliveryReports = [] ∧ s.database.messages.map (·.completedAt) = [none] ∧
      ¬ s.Delivered t := by
  obtain ⟨s, t, hinputs, hrun, hfacts⟩ := Run.of_execute (step copying) (start .empty []) overtaken
    (fun r => (r.1.mainRx, r.1.receiver, r.1.database.deliveryReports,
      decide (r.1.database.messages.map (·.completedAt) = [none] ∧
        .emitted ⟨⟨0, "+1".toList, 7⟩, 0, true⟩ ∈ r.2)))
    (b := ([], .idle, [], true)) (by decide +kernel)
  obtain ⟨hmail, hidle, hreports, hrest⟩ := by simpa only [Prod.mk.injEq] using hfacts
  obtain ⟨hopen, hemitted⟩ := of_decide_eq_true hrest
  refine ⟨_, s, t, hinputs, hrun, hmail, hidle, hreports, hopen, fun hdelivered => ?_⟩
  have hrecorded := hdelivered.recorded _ hemitted rfl
  simp [hmail, hidle, hreports] at hrecorded

end Tasks

end SmsServer
