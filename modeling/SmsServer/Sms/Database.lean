import Mathlib.Data.List.MinMax
import Mathlib.Data.List.Nodup
import SmsServer.Sms.Types

/-!
# The message database

`sms/database.rs`: the tables and the statements of `SMSDatabase`, with SQL read relationally. A
call carries what SQLite decides, the time of `unixepoch()` and whether the statement fails.
`messages.message_id` is an `AUTOINCREMENT` key and follows the largest id ever used;
`delivery_reports.report_id` is a plain integer key and follows the largest id in the table.
-/

namespace SmsServer

open RustStd

/-- `unixepoch()`, in seconds. -/
abbrev UnixTime := ℕ

structure MessageRow where
  messageId : ℕ
  phoneNumber : Str
  /-- Encrypted. -/
  messageContent : Str
  messageReference : Option UInt8
  isOutgoing : Bool
  status : Option UInt8
  createdAt : UnixTime
  completedAt : Option UnixTime
  deriving DecidableEq, Repr

structure DeliveryReportRow where
  reportId : ℕ
  messageId : ℕ
  status : UInt8
  isFinal : Bool
  createdAt : UnixTime
  deriving DecidableEq, Repr

structure SendFailureRow where
  messageId : ℕ
  errorMessage : Str
  createdAt : UnixTime
  deriving DecidableEq, Repr

structure SMSDatabase where
  messages : List MessageRow
  /-- The largest message id ever used, from `sqlite_sequence`. -/
  messageSequence : ℕ
  deliveryReports : List DeliveryReportRow
  sendFailures : List SendFailureRow
  deriving DecidableEq, Repr

/-- What SQLite decides about a statement. -/
structure Call where
  now : UnixTime
  fails : Bool
  deriving DecidableEq, Repr

namespace SMSDatabase

def empty : SMSDatabase :=
  { messages := [], messageSequence := 0, deliveryReports := [], sendFailures := [] }

/-- `insert_message`, with the encryption of the content. -/
def insertMessage (call : Call) (encrypt : Str → Except Str Str) (self : SMSDatabase)
    (message : SmsMessage) (isFinal : Bool) : SMSDatabase × Except Str ℕ :=
  match encrypt message.messageContent with
  | .error e => (self, .error e)
  | .ok encryptedContent =>
    if call.fails then (self, .error "Failed to insert SmsMessage".toList)
    else
      let messageId := self.messageSequence + 1
      let row : MessageRow :=
        { messageId
          phoneNumber := message.phoneNumber
          messageContent := encryptedContent
          messageReference := message.messageReference
          isOutgoing := message.isOutgoing
          status := message.status
          createdAt := call.now
          completedAt := if isFinal then some call.now else none }
      ({ self with messages := self.messages ++ [row], messageSequence := messageId },
        .ok messageId)

/-- `insert_send_failure`; the keys refuse a failure without a message and a second one. -/
def insertSendFailure (call : Call) (self : SMSDatabase) (messageId : ℕ) (errorMessage : Str) :
    SMSDatabase × Except Str ℕ :=
  if call.fails || ¬ self.messages.any (·.messageId = messageId) ||
      self.sendFailures.any (·.messageId = messageId) then
    (self, .error "Failed to insert send failure".toList)
  else
    let row : SendFailureRow := { messageId, errorMessage, createdAt := call.now }
    ({ self with sendFailures := self.sendFailures ++ [row] }, .ok messageId)

/-- The next `report_id`. -/
def nextReportId (self : SMSDatabase) : ℕ :=
  (self.deliveryReports.map (·.reportId)).foldr max 0 + 1

/-- `insert_delivery_report`; the foreign key refuses a report without a message. -/
def insertDeliveryReport (call : Call) (self : SMSDatabase) (messageId : ℕ) (status : UInt8)
    (isFinal : Bool) : SMSDatabase × Except Str ℕ :=
  if call.fails || ¬ self.messages.any (·.messageId = messageId) then
    (self, .error "Failed to insert delivery report".toList)
  else
    let row : DeliveryReportRow :=
      { reportId := self.nextReportId, messageId, status, isFinal, createdAt := call.now }
    ({ self with deliveryReports := self.deliveryReports ++ [row] }, .ok row.reportId)

/-- `completed_at IS NULL AND is_outgoing = 1 AND phone_number = ? AND message_reference = ?`. -/
def Awaits (phoneNumber : Str) (referenceId : UInt8) (row : MessageRow) : Prop :=
  row.completedAt = none ∧ row.isOutgoing = true ∧ row.phoneNumber = phoneNumber ∧
    row.messageReference = some referenceId

instance (phoneNumber : Str) (referenceId : UInt8) :
    DecidablePred (Awaits phoneNumber referenceId) :=
  fun _ => inferInstanceAs (Decidable (_ ∧ _ ∧ _ ∧ _))

/-- `get_delivery_report_target_message`: `ORDER BY message_id DESC LIMIT 1`. -/
def getDeliveryReportTargetMessage (call : Call) (self : SMSDatabase) (phoneNumber : Str)
    (referenceId : UInt8) : Except Str (Option ℕ) :=
  if call.fails then
    .error "Failed to query appropriate target message for delivery report".toList
  else
    .ok ((self.messages.filter fun row => Awaits phoneNumber referenceId row).map
      (·.messageId)).max?

/-- `update_message_status`. -/
def updateMessageStatus (call : Call) (self : SMSDatabase) (messageId : ℕ) (status : UInt8)
    (completed : Bool) : SMSDatabase × Except Str Unit :=
  if call.fails then (self, .error "Failed to update message status".toList)
  else
    ({ self with messages := self.messages.map fun row =>
        if row.messageId = messageId then
          { row with
            status := some status
            completedAt := if completed then some call.now else row.completedAt }
        else row }, .ok ())

/-! ### What the statements do -/

variable {self : SMSDatabase}

theorem reportId_lt_nextReportId {r : DeliveryReportRow} (h : r ∈ self.deliveryReports) :
    r.reportId < self.nextReportId := by
  -- the next id is one more than the maximum of the column
  have hmax : ∀ (ids : List ℕ) (id : ℕ), id ∈ ids → id ≤ ids.foldr max 0 := by
    intro ids id hid
    induction ids with
    | nil => cases hid
    | cons first ids ih =>
      rcases List.mem_cons.mp hid with rfl | hid
      · exact le_max_left _ _
      · exact (ih hid).trans (le_max_right _ _)
  exact Nat.lt_succ_of_le (hmax _ _ (List.mem_map_of_mem h))

/-- The target is the newest row that awaits a report. -/
theorem target_eq_some_iff {phoneNumber : Str} {referenceId : UInt8} {messageId : ℕ} {call : Call}
    (hcall : call.fails = false) :
    self.getDeliveryReportTargetMessage call phoneNumber referenceId = .ok (some messageId) ↔
      (∃ row ∈ self.messages, Awaits phoneNumber referenceId row ∧ row.messageId = messageId) ∧
      ∀ row ∈ self.messages, Awaits phoneNumber referenceId row → row.messageId ≤ messageId := by
  rw [getDeliveryReportTargetMessage, if_neg (by simp [hcall]), Except.ok.injEq,
    List.max?_eq_some_iff]
  simp only [List.mem_map, List.mem_filter, decide_eq_true_eq, forall_exists_index, and_imp,
    and_assoc]
  refine and_congr_right fun _ => ⟨fun h row hrow hawaits => h _ row hrow hawaits rfl, ?_⟩
  rintro h _ row hrow hawaits rfl
  exact h row hrow hawaits

/-! ### What the statements keep -/

/-- Row ids are unique and within what was used. -/
structure Keyed (db : SMSDatabase) : Prop where
  nodup : (db.messages.map (·.messageId)).Nodup
  bounded : ∀ row ∈ db.messages, row.messageId ≤ db.messageSequence

section Keyed

variable {db db' : SMSDatabase}

theorem Keyed.empty : Keyed .empty := by constructor <;> simp [SMSDatabase.empty]

theorem Keyed.eq_of_messageId (hkeyed : db.Keyed) {row other : MessageRow}
    (hrow : row ∈ db.messages) (hother : other ∈ db.messages)
    (hid : row.messageId = other.messageId) : row = other :=
  List.inj_on_of_nodup_map hkeyed.nodup hrow hother hid

/-- A row with the next id is stored. -/
theorem Keyed.append (hkeyed : db.Keyed) {row : MessageRow}
    (hrows : db'.messages = db.messages ++ [row]) (hid : row.messageId = db.messageSequence + 1)
    (hsequence : db'.messageSequence = db.messageSequence + 1) : db'.Keyed where
  nodup := by
    have hfresh : ∀ old ∈ db.messages, old.messageId ≠ db.messageSequence + 1 := by
      intro old hold heq
      have := hkeyed.bounded old hold
      omega
    simpa [hrows, hid, List.nodup_append, hkeyed.nodup] using hfresh
  bounded := by
    intro old hold
    rw [hrows, List.mem_append, List.mem_singleton] at hold
    rcases hold with hold | rfl
    · exact hsequence ▸ Nat.le_succ_of_le (hkeyed.bounded old hold)
    · exact (hid.trans hsequence.symm).le

/-- Rows are changed, but not their ids. -/
theorem Keyed.map (hkeyed : db.Keyed) {f : MessageRow → MessageRow}
    (hrows : db'.messages = db.messages.map f) (hid : ∀ row, (f row).messageId = row.messageId)
    (hsequence : db'.messageSequence = db.messageSequence) : db'.Keyed where
  nodup := by
    have hids : (fun row : MessageRow => row.messageId) ∘ f = (·.messageId) := funext hid
    rw [hrows, List.map_map, hids]
    exact hkeyed.nodup
  bounded := by
    intro row hrow
    rw [hrows, List.mem_map] at hrow
    obtain ⟨old, hold, rfl⟩ := hrow
    rw [hid, hsequence]
    exact hkeyed.bounded old hold

end Keyed

/-- What no statement undoes: rows keep their id, number, reference and direction, and reports
are kept as they are. -/
structure Evolves (db db' : SMSDatabase) : Prop where
  keyed : db.Keyed → db'.Keyed
  sequence_le : db.messageSequence ≤ db'.messageSequence
  rows : ∀ row ∈ db.messages, ∃ row' ∈ db'.messages, row'.messageId = row.messageId ∧
    row'.phoneNumber = row.phoneNumber ∧ row'.messageReference = row.messageReference ∧
    row'.isOutgoing = row.isOutgoing
  reports : ∀ report ∈ db.deliveryReports, report ∈ db'.deliveryReports

namespace Evolves

variable {db db' db'' : SMSDatabase}

theorem refl (db : SMSDatabase) : Evolves db db where
  keyed := id
  sequence_le := le_rfl
  rows row hrow := ⟨row, hrow, rfl, rfl, rfl, rfl⟩
  reports _ := id

theorem trans (h : Evolves db db') (h' : Evolves db' db'') : Evolves db db'' where
  keyed hkeyed := h'.keyed (h.keyed hkeyed)
  sequence_le := h.sequence_le.trans h'.sequence_le
  rows row hrow := by
    obtain ⟨row', hrow', hid, hnumber, hreference, hdirection⟩ := h.rows row hrow
    obtain ⟨row'', hrow'', hid', hnumber', hreference', hdirection'⟩ := h'.rows row' hrow'
    exact ⟨row'', hrow'', hid'.trans hid, hnumber'.trans hnumber, hreference'.trans hreference,
      hdirection'.trans hdirection⟩
  reports report hreport := h'.reports report (h.reports report hreport)

/-- A row with the next id is stored. -/
theorem append {row : MessageRow} (hid : row.messageId = db.messageSequence + 1)
    (hrows : db'.messages = db.messages ++ [row])
    (hsequence : db'.messageSequence = db.messageSequence + 1)
    (hreports : db'.deliveryReports = db.deliveryReports) : Evolves db db' where
  keyed hkeyed := hkeyed.append hrows hid hsequence
  sequence_le := hsequence ▸ Nat.le_succ _
  rows old hold := ⟨old, hrows ▸ List.mem_append_left _ hold, rfl, rfl, rfl, rfl⟩
  reports _ hreport := hreports ▸ hreport

end Evolves

/-- The two outcomes of an insert: nothing, or a row with the next id. -/
theorem insertMessage_cases (call : Call) (encrypt : Str → Except Str Str) (db : SMSDatabase)
    (message : SmsMessage) (isFinal : Bool) :
    (∃ e, db.insertMessage call encrypt message isFinal = (db, .error e)) ∨
      ∃ row : MessageRow, row.messageId = db.messageSequence + 1 ∧
        row.phoneNumber = message.phoneNumber ∧
        row.messageReference = message.messageReference ∧ row.isOutgoing = message.isOutgoing ∧
        db.insertMessage call encrypt message isFinal =
          ({ db with messages := db.messages ++ [row], messageSequence := db.messageSequence + 1 },
            .ok row.messageId) := by
  rw [insertMessage]
  cases encrypt message.messageContent with
  | error e => exact .inl ⟨e, rfl⟩
  | ok encryptedContent =>
    by_cases hfails : call.fails
    · exact .inl ⟨_, if_pos hfails⟩
    · exact .inr ⟨_, rfl, rfl, rfl, rfl, if_neg hfails⟩

theorem evolves_insertMessage (call : Call) (encrypt : Str → Except Str Str) (db : SMSDatabase)
    (message : SmsMessage) (isFinal : Bool) :
    Evolves db (db.insertMessage call encrypt message isFinal).1 := by
  rcases insertMessage_cases call encrypt db message isFinal with
    ⟨e, heq⟩ | ⟨row, hid, -, -, -, heq⟩ <;> rw [heq]
  · exact .refl db
  · exact .append hid rfl rfl rfl

theorem evolves_insertSendFailure (call : Call) (db : SMSDatabase) (messageId : ℕ)
    (errorMessage : Str) : Evolves db (db.insertSendFailure call messageId errorMessage).1 := by
  rw [insertSendFailure]
  split
  · exact .refl db
  · exact ⟨fun hkeyed => ⟨hkeyed.nodup, hkeyed.bounded⟩, le_rfl,
      fun row hrow => ⟨row, hrow, rfl, rfl, rfl, rfl⟩, fun _ => id⟩

/-- A report that is inserted is there, for its message. -/
theorem insertDeliveryReport_ok {call : Call} {db : SMSDatabase} {messageId reportId : ℕ}
    {status : UInt8} {isFinal : Bool}
    (h : (db.insertDeliveryReport call messageId status isFinal).2 = .ok reportId) :
    ∃ report ∈ (db.insertDeliveryReport call messageId status isFinal).1.deliveryReports,
      report.reportId = reportId ∧ report.messageId = messageId ∧ report.status = status := by
  unfold insertDeliveryReport at h ⊢
  split at h
  · cases h
  · next hinsert =>
    rw [if_neg hinsert]
    exact ⟨_, List.mem_append_right _ (List.mem_singleton_self _), Except.ok.inj h, rfl, rfl⟩

/-- A report is only refused without its message, if the statement does not fail. -/
theorem insertDeliveryReport_error {call : Call} {db : SMSDatabase} {messageId : ℕ}
    {status : UInt8} {isFinal : Bool} {e : Str} (hcall : call.fails = false)
    (h : (db.insertDeliveryReport call messageId status isFinal).2 = .error e) :
    ∀ row ∈ db.messages, row.messageId ≠ messageId := by
  unfold insertDeliveryReport at h
  split at h
  · next hrefused => simpa [hcall] using hrefused
  · cases h

theorem evolves_insertDeliveryReport (call : Call) (db : SMSDatabase) (messageId : ℕ)
    (status : UInt8) (isFinal : Bool) :
    Evolves db (db.insertDeliveryReport call messageId status isFinal).1 := by
  rw [insertDeliveryReport]
  split
  · exact .refl db
  · exact ⟨fun hkeyed => ⟨hkeyed.nodup, hkeyed.bounded⟩, le_rfl,
      fun row hrow => ⟨row, hrow, rfl, rfl, rfl, rfl⟩, fun _ => List.mem_append_left _⟩

theorem evolves_updateMessageStatus (call : Call) (db : SMSDatabase) (messageId : ℕ)
    (status : UInt8) (completed : Bool) :
    Evolves db (db.updateMessageStatus call messageId status completed).1 := by
  rw [updateMessageStatus]
  split
  · exact .refl db
  · exact
      { keyed := fun hkeyed => hkeyed.map rfl (fun row => by split <;> rfl) rfl
        sequence_le := le_rfl
        rows := fun row hrow =>
          ⟨_, List.mem_map_of_mem hrow, by split <;> exact ⟨rfl, rfl, rfl, rfl⟩⟩
        reports := fun _ => id }

end SMSDatabase

end SmsServer
