import SmsServer.Modem.Types
import SmsServer.Sms.Database

/-!
# Sent messages and delivery reports

`SMSManager::send_sms` once the modem has answered, and `SMSReceiver::handle_delivery_report`.
Both are sequences of database statements, each of which may fail; the functions they are made
of are shared with the interleavings in `Sms/ReportRace.lean`.
-/

namespace SmsServer

open RustStd

variable {X : Crates}

/-- `MessageStatus` of `sms-pdu`, whose source is not part of the repository. -/
structure MessageStatuses where
  MessageStatus : Type
  fromU8 : UInt8 → Option MessageStatus
  isSuccess : MessageStatus → Bool
  isPermanentError : MessageStatus → Bool

/-- No more reports are expected after this status, nor after one that is not known. -/
def MessageStatuses.isFinal (self : MessageStatuses) (status : UInt8) : Bool :=
  ((self.fromU8 status).map fun status =>
    self.isSuccess status || self.isPermanentError status).getD true

/-- A classification for concrete runs: up to 2 a success, from 64 a permanent error, and nothing
known from 96 on. -/
def MessageStatuses.grouped : MessageStatuses where
  MessageStatus := UInt8
  fromU8 status := if status < 96 then some status else none
  isSuccess status := status ≤ 2
  isPermanentError status := 64 ≤ status

/-- The events of `sms-types` that are broadcast here. -/
inductive Event
  | outgoingMessage (message : SmsMessage) (messageId : Option ℕ)
  | deliveryReport (messageId : ℕ) (report : SmsPartialDeliveryReport)
  deriving DecidableEq, Repr

/-! ### Sending -/

/-- The row for a sent message, and its send failure if the modem refused it. -/
def newMessage (smsMessage : FromOutgoing) (message : SmsOutgoingMessage) :
    ModemResponse X → Except Str (SmsMessage × Option Str)
  | .sendResult referenceId =>
    .ok ({ smsMessage.convert message with messageReference := some referenceId }, none)
  | .error errorMessage =>
    .ok ({ smsMessage.convert message with status := none }, some errorMessage)
  | _ => .error "Got invalid ModemResponse back from sending SMS message!".toList

/-- The send failure is stored if present. That this failed is only logged. -/
def storeSendFailure (failure : Call) (database : SMSDatabase) (messageId : ℕ) :
    Option Str → SMSDatabase
  | some errorMessage => (database.insertSendFailure failure messageId errorMessage).1
  | none => database

/-- `SMSManager::send_sms` from the answer of `ModemSender::send_sms` on: the row id, if the
message was stored, and the last response. -/
def sendSms (smsMessage : FromOutgoing) (broadcasting : Bool) (insert failure : Call)
    (encrypt : Str → Except Str Str) (database : SMSDatabase) (message : SmsOutgoingMessage)
    (sent : Except Str (Bool × Option (ModemResponse X))) :
    SMSDatabase × List Event × Except Str (Option ℕ × ModemResponse X) :=
  match sent with
  | .error e => (database, [], .error e)
  | .ok (_, none) => (database, [], .error "Missing any valid SendSMS response!".toList)
  | .ok (false, some lastResponse) => (database, [], .ok (none, lastResponse))
  | .ok (true, some lastResponse) =>
    match newMessage smsMessage message lastResponse with
    | .error e => (database, [], .error e)
    | .ok (newMessage, sendFailure) =>
      let (database, inserted) :=
        database.insertMessage insert encrypt newMessage sendFailure.isSome
      match inserted with
      | .error e => (database, [], .error e)
      | .ok messageId =>
        let database := storeSendFailure failure database messageId sendFailure
        (database, if broadcasting then [.outgoingMessage newMessage (some messageId)] else [],
          .ok (some messageId, lastResponse))

/-- The row is outgoing, for the number the message went to, under the reference it got. -/
theorem newMessage_fields {smsMessage : FromOutgoing} {message : SmsOutgoingMessage}
    {response : ModemResponse X} {row : SmsMessage} {sendFailure : Option Str}
    (h : newMessage smsMessage message response = .ok (row, sendFailure)) :
    row.phoneNumber = message.toNumber ∧ row.isOutgoing = true ∧
      ∀ reference, response = .sendResult reference → row.messageReference = some reference := by
  cases response with
  | sendResult reference =>
    obtain ⟨rfl, -⟩ : _ = row ∧ none = sendFailure := by simpa [newMessage] using h
    refine ⟨smsMessage.phoneNumber message, smsMessage.isOutgoing message, ?_⟩
    rintro _ ⟨⟩
    rfl
  | error errorMessage =>
    obtain ⟨rfl, -⟩ : _ = row ∧ some errorMessage = sendFailure := by simpa [newMessage] using h
    exact ⟨smsMessage.phoneNumber message, smsMessage.isOutgoing message, fun _ h => nomatch h⟩
  | _ => cases h

theorem evolves_storeSendFailure (failure : Call) (database : SMSDatabase) (messageId : ℕ)
    (sendFailure : Option Str) :
    SMSDatabase.Evolves database (storeSendFailure failure database messageId sendFailure) := by
  cases sendFailure with
  | none => exact .refl database
  | some errorMessage => exact SMSDatabase.evolves_insertSendFailure _ _ _ _

section

variable {smsMessage : FromOutgoing} {broadcasting : Bool} {insert failure : Call}
  {encrypt : Str → Except Str Str} {database : SMSDatabase} {message : SmsOutgoingMessage}
  {sent : Except Str (Bool × Option (ModemResponse X))}

/-- **Case analysis.** A send stores nothing and returns no row id, or stores a row for the
message, with the next id, which it returns. -/
theorem sendSms_cases :
    ((sendSms smsMessage broadcasting insert failure encrypt database message sent).1 = database ∧
      (sendSms smsMessage broadcasting insert failure encrypt database message
        sent).2.2.toOption.bind Prod.fst = none) ∨
    ∃ row ∈ (sendSms smsMessage broadcasting insert failure encrypt database message
        sent).1.messages, ∃ response,
      SMSDatabase.Evolves database
        (sendSms smsMessage broadcasting insert failure encrypt database message sent).1 ∧
      row.messageId = database.messageSequence + 1 ∧ row.phoneNumber = message.toNumber ∧
      row.isOutgoing = true ∧
      (∀ reference, sent = .ok (true, some (.sendResult reference)) →
        row.messageReference = some reference) ∧
      (sendSms smsMessage broadcasting insert failure encrypt database message sent).2.2 =
        .ok (some row.messageId, response) := by
  unfold sendSms
  split
  case h_4 response =>
    cases hnew : newMessage smsMessage message response with
    | error e => exact .inl ⟨rfl, rfl⟩
    | ok new =>
      obtain ⟨new, sendFailure⟩ := new
      obtain ⟨hnumber, hdirection, hreference⟩ := newMessage_fields hnew
      rcases SMSDatabase.insertMessage_cases insert encrypt database new sendFailure.isSome with
        ⟨e, heq⟩ | ⟨row, hid, hrowNumber, hrowReference, hrowDirection, heq⟩ <;>
        simp only [heq]
      · exact .inl ⟨trivial, rfl⟩
      · -- The row is there before the send failure is stored, and a row stays.
        let stored : SMSDatabase := { database with
          messages := database.messages ++ [row]
          messageSequence := database.messageSequence + 1 }
        have hinsert : SMSDatabase.Evolves database stored := .append hid rfl rfl rfl
        have hfailure := evolves_storeSendFailure failure stored row.messageId sendFailure
        obtain ⟨row', hrow', hid', hnumber', hreference', hdirection'⟩ :=
          hfailure.rows row (List.mem_append_right _ (List.mem_singleton_self row))
        refine .inr ⟨row', hrow', response, hinsert.trans hfailure, hid'.trans hid,
          hnumber'.trans (hrowNumber.trans hnumber),
          hdirection'.trans (hrowDirection.trans hdirection), ?_, by rw [hid']⟩
        rintro reference ⟨⟩
        exact hreference'.trans (hrowReference.trans (hreference reference rfl))
  all_goals exact .inl ⟨rfl, rfl⟩

theorem evolves_sendSms : SMSDatabase.Evolves database
    (sendSms smsMessage broadcasting insert failure encrypt database message sent).1 := by
  rcases sendSms_cases with ⟨heq, -⟩ | ⟨row, -, response, hevolves, -⟩
  · exact heq ▸ .refl database
  · exact hevolves

end

/-! ### Delivery reports -/

/-- The statements of `handle_delivery_report`. -/
structure ReportCalls where
  lookup : Call
  insert : Call
  update : Call
  deriving DecidableEq, Repr

/-- The message a report is for, by number and reference. -/
def findTarget (lookup : Call) (database : SMSDatabase) (report : SmsPartialDeliveryReport) :
    Except Str ℕ :=
  match database.getDeliveryReportTargetMessage lookup report.phoneNumber report.referenceId with
  | .error e => .error e
  | .ok none => .error "Could not find target message for delivery report!".toList
  | .ok (some messageId) => .ok messageId

def handleDeliveryReport (statuses : MessageStatuses) (broadcasting : Bool) (calls : ReportCalls)
    (database : SMSDatabase) (report : SmsPartialDeliveryReport) :
    SMSDatabase × List Event × Except Str ℕ :=
  match findTarget calls.lookup database report with
  | .error e => (database, [], .error e)
  | .ok messageId =>
    let isFinal := statuses.isFinal report.status
    let events := if broadcasting then [.deliveryReport messageId report] else []
    let (database, inserted) :=
      database.insertDeliveryReport calls.insert messageId report.status isFinal
    match inserted with
    | .error e => (database, events, .error e)
    | .ok _ =>
      let (database, updated) :=
        database.updateMessageStatus calls.update messageId report.status isFinal
      (database, events, updated.map fun _ => messageId)

/-- Lookups find the newest row that awaits a report. -/
theorem findTarget_eq_ok_iff {lookup : Call} (hlookup : lookup.fails = false)
    {database : SMSDatabase} {report : SmsPartialDeliveryReport} {messageId : ℕ} :
    findTarget lookup database report = .ok messageId ↔
      (∃ row ∈ database.messages,
        SMSDatabase.Awaits report.phoneNumber report.referenceId row ∧ row.messageId = messageId) ∧
      ∀ row ∈ database.messages,
        SMSDatabase.Awaits report.phoneNumber report.referenceId row →
          row.messageId ≤ messageId := by
  rw [← SMSDatabase.target_eq_some_iff hlookup, findTarget]
  split <;> simp_all

/-! ### All or nothing -/

/-- A handled report: recorded, its message updated, and announced once. A report that was not
handled has left no trace. -/
def AllOrNothing (statuses : MessageStatuses) (broadcasting : Bool) (database : SMSDatabase)
    (report : SmsPartialDeliveryReport) :
    SMSDatabase × List Event × Except Str ℕ → Prop
  | (database', events, .error _) =>
    database'.messages = database.messages ∧
      database'.deliveryReports = database.deliveryReports ∧ events = []
  | (database', events, .ok messageId) =>
    (∃ row ∈ database.messages,
      SMSDatabase.Awaits report.phoneNumber report.referenceId row ∧ row.messageId = messageId) ∧
    (∃ row : DeliveryReportRow, database'.deliveryReports = database.deliveryReports ++ [row] ∧
      row.messageId = messageId ∧ row.status = report.status ∧
      row.isFinal = statuses.isFinal report.status) ∧
    (∃ now : UnixTime, database'.messages = database.messages.map fun row =>
      if row.messageId = messageId then
        { row with
          status := some report.status
          completedAt := if statuses.isFinal report.status then some now else row.completedAt }
      else row) ∧
    events = if broadcasting then [.deliveryReport messageId report] else []

section

variable {statuses : MessageStatuses} {broadcasting : Bool} {calls : ReportCalls}
  {database : SMSDatabase} {report : SmsPartialDeliveryReport}

/-- A target is found among the rows that await the report, if there are any. -/
theorem findTarget_cases (lookup : Call) (database : SMSDatabase)
    (report : SmsPartialDeliveryReport) :
    ((∃ e, findTarget lookup database report = .error e) ∧
      (lookup.fails ∨ ∀ row ∈ database.messages,
        ¬ SMSDatabase.Awaits report.phoneNumber report.referenceId row)) ∨
    ∃ row ∈ database.messages, SMSDatabase.Awaits report.phoneNumber report.referenceId row ∧
      lookup.fails = false ∧ findTarget lookup database report = .ok row.messageId := by
  cases hlookup : lookup.fails with
  | true =>
    refine .inl ⟨⟨"Failed to query appropriate target message for delivery report".toList, ?_⟩,
      .inl rfl⟩
    rw [findTarget, SMSDatabase.getDeliveryReportTargetMessage, if_pos hlookup]
  | false =>
    cases htarget : findTarget lookup database report with
    | ok messageId =>
      obtain ⟨⟨row, hrow, hawaits, hid⟩, -⟩ := (findTarget_eq_ok_iff hlookup).mp htarget
      exact .inr ⟨row, hrow, hawaits, rfl, by rw [hid]⟩
    | error e =>
      refine .inl ⟨⟨e, rfl⟩, .inr fun row hrow hawaits => ?_⟩
      -- The rows that await the report have a newest one.
      have hne : (database.messages.filter fun row =>
          SMSDatabase.Awaits report.phoneNumber report.referenceId row).map (·.messageId) ≠ [] :=
        List.ne_nil_of_mem (List.mem_map_of_mem
          (List.mem_filter.mpr ⟨hrow, decide_eq_true hawaits⟩))
      obtain ⟨messageId, hmax⟩ := Option.ne_none_iff_exists'.mp (mt List.max?_eq_none_iff.mp hne)
      rw [findTarget, SMSDatabase.getDeliveryReportTargetMessage, if_neg (by simp [hlookup]),
        hmax] at htarget
      cases htarget

/-- A report for a message that is there is refused only if the statement fails. -/
theorem SMSDatabase.insertDeliveryReport_of_mem {row : MessageRow}
    (hrow : row ∈ database.messages) (call : Call) (status : UInt8) (isFinal : Bool) :
    database.insertDeliveryReport call row.messageId status isFinal =
      if call.fails then (database, .error "Failed to insert delivery report".toList)
      else ({ database with deliveryReports := database.deliveryReports ++
        [{ reportId := database.nextReportId, messageId := row.messageId, status, isFinal,
           createdAt := call.now }] }, .ok database.nextReportId) := by
  have hany : database.messages.any (·.messageId = row.messageId) = true :=
    List.any_eq_true.mpr ⟨row, hrow, decide_eq_true rfl⟩
  rw [insertDeliveryReport]
  cases call.fails with
  | true => exact if_pos (Bool.true_or _)
  | false => exact if_neg (by simp [hany])

/-- **All or nothing.** A report is handled completely or not at all, unless one of the writes
fails: after a failed update the report stays recorded, and after a failed insert it has been
announced already. -/
theorem handleDeliveryReport_allOrNothing_iff (statuses : MessageStatuses) (broadcasting : Bool)
    (calls : ReportCalls) (database : SMSDatabase) (report : SmsPartialDeliveryReport) :
    AllOrNothing statuses broadcasting database report
        (handleDeliveryReport statuses broadcasting calls database report) ↔
      calls.lookup.fails ∨
      (∀ row ∈ database.messages,
        ¬ SMSDatabase.Awaits report.phoneNumber report.referenceId row) ∨
      (calls.insert.fails = false ∧ calls.update.fails = false) ∨
      (calls.insert.fails ∧ broadcasting = false) := by
  rcases findTarget_cases calls.lookup database report with
    ⟨⟨e, htarget⟩, hnone⟩ | ⟨row, hrow, hawaits, hlookup, htarget⟩
  · rw [handleDeliveryReport, htarget]
    refine iff_of_true ⟨rfl, rfl, rfl⟩ ?_
    exact hnone.imp_right .inl
  · have hsome : ¬ ∀ row ∈ database.messages,
        ¬ SMSDatabase.Awaits report.phoneNumber report.referenceId row :=
      fun h => h row hrow hawaits
    rw [handleDeliveryReport, htarget]
    simp only [SMSDatabase.insertDeliveryReport_of_mem hrow, SMSDatabase.updateMessageStatus,
      hlookup, hsome, Bool.false_eq_true, false_or]
    cases hinsert : calls.insert.fails with
    | true =>
      cases broadcasting <;> simp [AllOrNothing]
    | false =>
      cases hupdate : calls.update.fails with
      | true =>
        refine iff_of_false ?_ (by simp)
        rintro ⟨-, hreports, -⟩
        simp at hreports
      | false =>
        refine iff_of_true ⟨⟨row, hrow, hawaits, rfl⟩, ⟨_, rfl, rfl, rfl, rfl⟩, ⟨_, rfl⟩, rfl⟩ ?_
        exact .inl ⟨rfl, rfl⟩

/-- The final report for a sent message; the status update fails, and the report is on record for
a message that still awaits it. -/
theorem handleDeliveryReport_halfway :
    let database : SMSDatabase :=
      { messages := [{ messageId := 1, phoneNumber := "+1".toList, messageContent := [],
                       messageReference := some 7, isOutgoing := true, status := none,
                       createdAt := 0, completedAt := none }]
        messageSequence := 1, deliveryReports := [], sendFailures := [] }
    let calls : ReportCalls := ⟨⟨9, false⟩, ⟨9, false⟩, ⟨9, true⟩⟩
    ¬ AllOrNothing .grouped true database ⟨0, "+1".toList, 7⟩
      (handleDeliveryReport .grouped true calls database ⟨0, "+1".toList, 7⟩) := by
  rintro _ _ ⟨-, hreports, -⟩
  revert hreports
  decide

end

end SmsServer
