import SmsServer.Library.Machine
import SmsServer.Sms.Delivery

/-!
# Delivery bookkeeping

What holds between the tables of messages and delivery reports when messages are stored and
reports handled one at a time and no statement fails. A report is recorded for an outgoing
message that is not completed; a final one completes it. So a message has at most one final
report, is completed exactly if it has one, carries the status of its newest report
(`Bookkept`), and never changes again once it is completed (`bookkeeping`).
-/

namespace SmsServer

open RustStd Machine

namespace SMSDatabase

/-- The bookkeeping invariant. -/
structure Bookkept (db : SMSDatabase) : Prop where
  outgoing : ∀ report ∈ db.deliveryReports, ∃ row ∈ db.messages,
    row.messageId = report.messageId ∧ row.isOutgoing = true
  oneFinal : ∀ row ∈ db.messages,
    (db.deliveryReports.filter fun report =>
      report.messageId = row.messageId && report.isFinal).length ≤ 1
  completed : ∀ row ∈ db.messages, row.completedAt.isSome ↔
    ∃ report ∈ db.deliveryReports, report.messageId = row.messageId ∧ report.isFinal = true
  newest : ∀ row ∈ db.messages, ∀ report ∈ db.deliveryReports, report.messageId = row.messageId →
    (∀ other ∈ db.deliveryReports, other.messageId = row.messageId →
      other.reportId ≤ report.reportId) → row.status = some report.status

end SMSDatabase

/-- What is done to the database. -/
inductive Operation
  /-- A message is stored, sent or received, and not completed. -/
  | insertMessage (call : Call) (encrypt : Str → Except Str Str) (message : SmsMessage)
  | handleDeliveryReport (calls : ReportCalls) (report : SmsPartialDeliveryReport)

namespace Operation

/-- No statement fails. -/
def Succeeds : Operation → Prop
  | insertMessage call _ _ => call.fails = false
  | handleDeliveryReport calls _ =>
    calls.lookup.fails = false ∧ calls.insert.fails = false ∧ calls.update.fails = false

instance : DecidablePred Succeeds
  | insertMessage call _ _ => inferInstanceAs (Decidable (call.fails = false))
  | handleDeliveryReport calls _ => inferInstanceAs (Decidable
      (calls.lookup.fails = false ∧ calls.insert.fails = false ∧ calls.update.fails = false))

/-- The database after an operation, and the events it broadcasts. -/
def perform (statuses : MessageStatuses) (broadcasting : Bool) (db : SMSDatabase) :
    Operation → SMSDatabase × List Event
  | insertMessage call encrypt message => ((db.insertMessage call encrypt message false).1, [])
  | handleDeliveryReport calls report =>
    let handled := SmsServer.handleDeliveryReport statuses broadcasting calls db report
    (handled.1, handled.2.1)

end Operation

/-! ### What an operation does -/

/-- The row of a message that is not completed when it is stored. -/
def openRow (db : SMSDatabase) (now : UnixTime) (encryptedContent : Str) (message : SmsMessage) :
    MessageRow where
  messageId := db.messageSequence + 1
  phoneNumber := message.phoneNumber
  messageContent := encryptedContent
  messageReference := message.messageReference
  isOutgoing := message.isOutgoing
  status := message.status
  createdAt := now
  completedAt := none

/-- A row after a report. -/
def reported (now : UnixTime) (status : UInt8) (isFinal : Bool) (row : MessageRow) : MessageRow :=
  { row with
    status := some status
    completedAt := if isFinal then some now else row.completedAt }

/-- The database after a report for a message. -/
def recorded (db : SMSDatabase) (calls : ReportCalls) (messageId : ℕ) (status : UInt8)
    (isFinal : Bool) : SMSDatabase :=
  { db with
    messages := db.messages.map fun row =>
      if row.messageId = messageId then reported calls.update.now status isFinal row else row
    deliveryReports := db.deliveryReports ++
      [{ reportId := db.nextReportId, messageId, status, isFinal, createdAt := calls.insert.now }] }

/-- **Case analysis.** An operation that succeeds changes nothing, stores an open row, or records
a report for an open outgoing row. -/
theorem perform_cases {statuses : MessageStatuses} {broadcasting : Bool} {db : SMSDatabase}
    {operation : Operation} (h : operation.Succeeds) :
    (operation.perform statuses broadcasting db).1 = db ∨
      (∃ now encryptedContent message, (operation.perform statuses broadcasting db).1 =
        { db with
          messages := db.messages ++ [openRow db now encryptedContent message]
          messageSequence := db.messageSequence + 1 }) ∨
      ∃ calls status isFinal row, row ∈ db.messages ∧ row.isOutgoing = true ∧
        row.completedAt = none ∧ (operation.perform statuses broadcasting db).1 =
          recorded db calls row.messageId status isFinal := by
  cases operation with
  | insertMessage call encrypt message =>
    simp only [Operation.perform, SMSDatabase.insertMessage]
    cases encrypt message.messageContent with
    | error e => exact .inl rfl
    | ok encryptedContent =>
      have hcall : call.fails = false := h
      refine .inr (.inl ⟨call.now, encryptedContent, message, ?_⟩)
      simp only [hcall]
      rfl
  | handleDeliveryReport calls report =>
    obtain ⟨hlookup, hinsert, hupdate⟩ := h
    simp only [Operation.perform, handleDeliveryReport]
    cases htarget : findTarget calls.lookup db report with
    | error e => exact .inl rfl
    | ok messageId =>
      obtain ⟨⟨row, hrow, ⟨hopen, houtgoing, -⟩, rfl⟩, -⟩ :=
        (findTarget_eq_ok_iff hlookup).mp htarget
      refine .inr (.inr ⟨calls, report.status, statuses.isFinal report.status, row, hrow,
        houtgoing, hopen, ?_⟩)
      have hany : db.messages.any (fun other => other.messageId = row.messageId) = true := by
        rw [List.any_eq_true]
        exact ⟨row, hrow, by simp⟩
      simp only [SMSDatabase.insertDeliveryReport, hinsert, hany,
        SMSDatabase.updateMessageStatus, hupdate]
      rfl

/-! ### One operation -/

namespace SMSDatabase

variable {db : SMSDatabase}

/-- A new row has no reports yet. -/
theorem Bookkept.insert (hbook : db.Bookkept) (hkeyed : db.Keyed) (now : UnixTime)
    (encryptedContent : Str) (message : SmsMessage) :
    Bookkept { db with
      messages := db.messages ++ [openRow db now encryptedContent message]
      messageSequence := db.messageSequence + 1 } := by
  -- a report for the new id would be one for a row beyond the sequence
  have hnone : ∀ report ∈ db.deliveryReports, report.messageId ≠ db.messageSequence + 1 := by
    intro report hreport heq
    obtain ⟨row, hrow, hid, -⟩ := hbook.outgoing report hreport
    have := hkeyed.bounded row hrow
    omega
  refine ⟨?_, ?_, ?_, ?_⟩
  · intro report hreport
    obtain ⟨row, hrow, h⟩ := hbook.outgoing report hreport
    exact ⟨row, List.mem_append_left _ hrow, h⟩
  all_goals
    intro row hrow
    rcases List.mem_append.mp hrow with hrow | hrow
  · exact hbook.oneFinal row hrow
  · obtain rfl := List.mem_singleton.mp hrow
    have hempty : (db.deliveryReports.filter fun report =>
        report.messageId = db.messageSequence + 1 && report.isFinal) = [] := by
      rw [List.filter_eq_nil_iff]
      intro report hreport
      simp [hnone report hreport]
    exact (congrArg List.length hempty).trans_le (Nat.zero_le 1)
  · exact hbook.completed row hrow
  · obtain rfl := List.mem_singleton.mp hrow
    refine iff_of_false (by simp [openRow]) ?_
    rintro ⟨report, hreport, hid, -⟩
    exact hnone report hreport hid
  · exact hbook.newest row hrow
  · obtain rfl := List.mem_singleton.mp hrow
    exact fun report hreport hid => absurd hid (hnone report hreport)

variable {calls : ReportCalls} {status : UInt8} {isFinal : Bool} {target : MessageRow}

theorem Keyed.record (hkeyed : db.Keyed) (calls : ReportCalls) (status : UInt8) (isFinal : Bool)
    (messageId : ℕ) : (recorded db calls messageId status isFinal).Keyed :=
  hkeyed.map rfl (fun row => by dsimp only [reported]; split <;> rfl) rfl

/-- What a report leaves in the table of messages: the target as reported, and the other rows. -/
private theorem mem_recorded (hkeyed : db.Keyed) (htarget : target ∈ db.messages)
    {row : MessageRow} :
    row ∈ (recorded db calls target.messageId status isFinal).messages ↔
      row = reported calls.update.now status isFinal target ∨
        row ∈ db.messages ∧ row.messageId ≠ target.messageId := by
  simp only [recorded, List.mem_map]
  constructor
  · rintro ⟨old, hold, rfl⟩
    by_cases hid : old.messageId = target.messageId
    · exact .inl (by rw [if_pos hid, hkeyed.eq_of_messageId hold htarget hid])
    · exact .inr (by rw [if_neg hid]; exact ⟨hold, hid⟩)
  · rintro (rfl | ⟨hrow, hid⟩)
    · exact ⟨target, htarget, if_pos rfl⟩
    · exact ⟨row, hrow, if_neg hid⟩

/-- A report for an open outgoing row, with everything that is joined by the two tables. -/
theorem Bookkept.record (hbook : db.Bookkept) (hkeyed : db.Keyed) (htarget : target ∈ db.messages)
    (houtgoing : target.isOutgoing = true) (hopen : target.completedAt = none) :
    (recorded db calls target.messageId status isFinal).Bookkept := by
  -- The target has no final report yet, since it would be completed.
  have hnotFinal : ∀ report ∈ db.deliveryReports, report.messageId = target.messageId →
      report.isFinal = false := by
    intro report hreport hid
    by_contra hfinal
    have := (hbook.completed target htarget).mpr ⟨report, hreport, hid, by simpa using hfinal⟩
    simp [hopen] at this
  refine ⟨?_, ?_, ?_, ?_⟩
  · intro report hreport
    rcases List.mem_append.mp hreport with hreport | hreport
    · obtain ⟨row, hrow, hid, hrowOutgoing⟩ := hbook.outgoing report hreport
      by_cases hsame : row.messageId = target.messageId
      · exact ⟨_, (mem_recorded hkeyed htarget).mpr (.inl rfl), hsame.symm.trans hid, houtgoing⟩
      · exact ⟨row, (mem_recorded hkeyed htarget).mpr (.inr ⟨hrow, hsame⟩), hid, hrowOutgoing⟩
    · obtain rfl := List.mem_singleton.mp hreport
      exact ⟨_, (mem_recorded hkeyed htarget).mpr (.inl rfl), rfl, houtgoing⟩
  all_goals
    intro row hrow
    rcases (mem_recorded hkeyed htarget).mp hrow with rfl | ⟨hrow, hid⟩
  · have hempty : (db.deliveryReports.filter fun report =>
        report.messageId = target.messageId && report.isFinal) = [] := by
      rw [List.filter_eq_nil_iff]
      intro report hreport
      by_cases hid : report.messageId = target.messageId
      · simp [hnotFinal report hreport hid]
      · simp [hid]
    -- the new report is the only one that can be final
    change (List.filter (fun report => report.messageId = target.messageId && report.isFinal)
      (db.deliveryReports ++ [_])).length ≤ 1
    rw [List.filter_append, hempty, List.nil_append]
    exact List.length_filter_le _ _
  · simpa [recorded, List.filter_append, Ne.symm hid] using hbook.oneFinal row hrow
  · constructor
    · intro hcompleted
      refine ⟨_, List.mem_append_right _ (List.mem_singleton_self _), rfl, ?_⟩
      by_contra hfinal
      simp [reported, hfinal, hopen] at hcompleted
    · rintro ⟨report, hreport, hid, hfinal⟩
      rcases List.mem_append.mp hreport with hreport | hreport
      · simp [hnotFinal report hreport hid] at hfinal
      · obtain rfl := List.mem_singleton.mp hreport
        simp [reported, show isFinal = true from hfinal]
  · rw [hbook.completed row hrow]
    constructor
    · rintro ⟨report, hreport, h⟩
      exact ⟨report, List.mem_append_left _ hreport, h⟩
    · rintro ⟨report, hreport, hsame, hfinal⟩
      rcases List.mem_append.mp hreport with hreport | hreport
      · exact ⟨report, hreport, hsame, hfinal⟩
      · obtain rfl := List.mem_singleton.mp hreport
        exact absurd hsame.symm hid
  · intro report hreport hsame hnewest
    rcases List.mem_append.mp hreport with hreport | hreport
    · -- The new report has a larger id than every earlier one.
      have hle := hnewest _ (List.mem_append_right _ (List.mem_singleton_self _)) rfl
      exact absurd (reportId_lt_nextReportId hreport) hle.not_gt
    · obtain rfl := List.mem_singleton.mp hreport
      rfl
  · intro report hreport hsame hnewest
    rcases List.mem_append.mp hreport with hreport | hreport
    · exact hbook.newest row hrow report hreport hsame fun other hother =>
        hnewest other (List.mem_append_left _ hother)
    · obtain rfl := List.mem_singleton.mp hreport
      exact absurd hsame.symm hid

/-- A completed row is no target. -/
private theorem completed_mem_recorded (hkeyed : db.Keyed) (htarget : target ∈ db.messages)
    (hopen : target.completedAt = none) {row : MessageRow} (hrow : row ∈ db.messages)
    (hcompleted : row.completedAt.isSome) :
    row ∈ (recorded db calls target.messageId status isFinal).messages := by
  refine (mem_recorded hkeyed htarget).mpr (.inr ⟨hrow, fun hid => ?_⟩)
  obtain rfl := hkeyed.eq_of_messageId hrow htarget hid
  simp [hopen] at hcompleted

/-- The invariant of the two tables. -/
structure Sound (db : SMSDatabase) : Prop where
  keyed : db.Keyed
  bookkept : db.Bookkept

theorem Sound.empty : Sound .empty where
  keyed := .empty
  bookkept := by constructor <;> simp [SMSDatabase.empty]

/-- **Step lemma.** An operation keeps the invariant and every completed row. -/
theorem Sound.perform {statuses : MessageStatuses} {broadcasting : Bool} {operation : Operation}
    (hsound : db.Sound) (hsucceeds : operation.Succeeds) :
    (operation.perform statuses broadcasting db).1.Sound ∧
      ∀ row ∈ db.messages, row.completedAt.isSome →
        row ∈ (operation.perform statuses broadcasting db).1.messages := by
  obtain ⟨hkeyed, hbook⟩ := hsound
  rcases perform_cases hsucceeds with heq | ⟨now, encryptedContent, message, heq⟩ |
    ⟨calls, status, isFinal, target, htarget, houtgoing, hopen, heq⟩ <;> rw [heq]
  · exact ⟨⟨hkeyed, hbook⟩, fun row hrow _ => hrow⟩
  · exact ⟨⟨hkeyed.append rfl rfl rfl, hbook.insert hkeyed _ _ _⟩,
      fun row hrow _ => List.mem_append_left _ hrow⟩
  · exact ⟨⟨hkeyed.record _ _ _ _, hbook.record hkeyed htarget houtgoing hopen⟩,
      fun row hrow => completed_mem_recorded hkeyed htarget hopen hrow⟩

end SMSDatabase

/-! ### Histories -/

/-- The database after a history of operations, starting with no rows. -/
def reached (statuses : MessageStatuses) (broadcasting : Bool) (operations : List Operation) :
    SMSDatabase :=
  (Transducer.run (Operation.perform statuses broadcasting) .empty operations).1

variable {statuses : MessageStatuses} {broadcasting : Bool}

private theorem run_sound {db : SMSDatabase} (hsound : db.Sound) {operations : List Operation}
    (hsucceed : ∀ operation ∈ operations, operation.Succeeds) :
    (Transducer.run (Operation.perform statuses broadcasting) db operations).1.Sound :=
  Transducer.run_invariant_of_guard (fun _ _ hok hsound => (hsound.perform hok).1) hsound hsucceed

/-- A completed row is kept, by every history from a sound database. -/
private theorem run_completed {db : SMSDatabase} (hsound : db.Sound) {operations : List Operation}
    (hsucceed : ∀ operation ∈ operations, operation.Succeeds) {row : MessageRow}
    (hrow : row ∈ db.messages) (hcompleted : row.completedAt.isSome) :
    row ∈ (Transducer.run (Operation.perform statuses broadcasting) db operations).1.messages := by
  refine (Transducer.run_invariant_of_guard (P := fun db : SMSDatabase =>
    db.Sound ∧ row ∈ db.messages) ?_ ⟨hsound, hrow⟩ hsucceed).2
  rintro db operation hok ⟨hsound, hrow⟩
  obtain ⟨hnext, hkept⟩ := hsound.perform hok
  exact ⟨hnext, hkept row hrow hcompleted⟩

/-- **Delivery bookkeeping.** After any history of stored messages and handled reports in which
no statement fails, the two tables are `Bookkept`, under unique message ids; and a message that
was completed at some point of the history is, from there on, as it was then. -/
theorem bookkeeping {operations : List Operation}
    (hsucceed : ∀ operation ∈ operations, operation.Succeeds) :
    (reached statuses broadcasting operations).Keyed ∧
      (reached statuses broadcasting operations).Bookkept ∧
      ∀ before after, operations = before ++ after →
        ∀ row ∈ (reached statuses broadcasting before).messages, row.completedAt.isSome →
          row ∈ (reached statuses broadcasting operations).messages := by
  have hsound : (reached statuses broadcasting operations).Sound :=
    run_sound SMSDatabase.Sound.empty hsucceed
  refine ⟨hsound.keyed, hsound.bookkept, ?_⟩
  rintro before after rfl row hrow hcompleted
  obtain ⟨hbefore, hafter⟩ := List.forall_mem_append.mp hsucceed
  simp only [reached, Transducer.run_append]
  exact run_completed (run_sound SMSDatabase.Sound.empty hbefore) hafter hrow hcompleted

/-- The statements of a call at one time. -/
def ReportCalls.at (now : UnixTime) : ReportCalls :=
  { lookup := ⟨now, false⟩, insert := ⟨now, false⟩, update := ⟨now, false⟩ }

/-- Two messages to one number with the same reference; a temporary and a final report for the
second, a final one for the first, and one too many. -/
def reusedReference : List Operation :=
  let message (reference : UInt8) : SmsMessage :=
    { phoneNumber := "+1".toList, messageContent := [], messageReference := some reference,
      isOutgoing := true, status := some 0 }
  let report (status : UInt8) : SmsPartialDeliveryReport :=
    { status, phoneNumber := "+1".toList, referenceId := 7 }
  [.insertMessage ⟨1, false⟩ .ok (message 7), .insertMessage ⟨2, false⟩ .ok (message 7),
    .handleDeliveryReport (.at 3) (report 48), .handleDeliveryReport (.at 4) (report 0),
    .handleDeliveryReport (.at 5) (report 70), .handleDeliveryReport (.at 6) (report 0)]

/-- The second message, completed by the fourth operation, is kept by the rest. -/
theorem bookkeeping_reusedReference :
    (reached .grouped true reusedReference).Keyed ∧
      (reached .grouped true reusedReference).Bookkept ∧
      ({ messageId := 2, phoneNumber := "+1".toList, messageContent := [],
         messageReference := some 7, isOutgoing := true, status := some 0, createdAt := 2,
         completedAt := some 4 } : MessageRow) ∈
        (reached .grouped true reusedReference).messages := by
  obtain ⟨hkeyed, hbook, hkept⟩ :=
    bookkeeping (show ∀ operation ∈ reusedReference, operation.Succeeds by decide)
  refine ⟨hkeyed, hbook, hkept (reusedReference.take 4) (reusedReference.drop 4) rfl _ ?_ rfl⟩
  decide +kernel

end SmsServer
