import SmsServer.Sms.Encryption
import SmsServer.Sms.Pagination

/-!
# The message store

A message that `insert_message` has stored, as `get_messages` reads it back: the content through
the encryption, the other fields through their columns. The status column may be `NULL`, and is
read as a number all the same, so that `insertMessage_readBack_iff` holds of the messages with a
status only.
-/

namespace SmsServer

open RustStd Paging

/-- What `get_messages` reads rows with. -/
def SMSEncryption.reader (self : SMSEncryption) (getStatus : Option UInt8 → UInt8) : RowReader where
  decrypt := self.decrypt
  getStatus := getStatus

namespace RowReader

variable {reader : RowReader}

/-- The message that a row is read as. -/
def entry (reader : RowReader) (row : MessageRow) : StoredMessage where
  messageId := row.messageId
  phoneNumber := row.phoneNumber
  messageContent := (reader.decrypt row.messageContent).toOption.getD []
  messageReference := row.messageReference
  isOutgoing := row.isOutgoing
  createdAt := row.createdAt
  completedAt := row.completedAt
  status := some (reader.getStatus row.status)

theorem toSmsMessage_entry {row : MessageRow} {content : Str}
    (h : reader.decrypt row.messageContent = .ok content) :
    (reader.entry row).toSmsMessage =
      { phoneNumber := row.phoneNumber, messageContent := content,
        messageReference := row.messageReference, isOutgoing := row.isOutgoing,
        status := some (reader.getStatus row.status) } := by
  rw [entry, h]
  rfl

theorem Reads.read_eq {row : MessageRow} (h : reader.Reads row) :
    reader.read row = .ok (reader.entry row) := by
  obtain ⟨content, hdecrypt⟩ := h
  rw [RowReader.read, entry, hdecrypt]
  rfl

theorem mapM_read {rows : List MessageRow} (h : ∀ row ∈ rows, reader.Reads row) :
    rows.mapM reader.read = .ok (rows.map reader.entry) := by
  refine mapM_eq_ok_iff.mpr (List.forall₂_map_right_iff.mpr (List.forall₂_same.mpr ?_))
  exact fun row hrow => (h row hrow).read_eq

end RowReader

namespace SMSDatabase

/-- The rows of the messages were written with this key. -/
structure Written (encryption : SMSEncryption) (db : SMSDatabase) : Prop extends Keyed db where
  contents : ∀ row ∈ db.messages, ∃ nonce content,
    encryption.encrypt nonce content = .ok row.messageContent

variable {encryption : SMSEncryption} {getStatus : Option UInt8 → UInt8} {db db' : SMSDatabase}
  {reverse : Bool}

theorem Written.empty : Written encryption .empty where
  toKeyed := .empty
  contents _ hrow := nomatch hrow

theorem Written.reads (hwritten : db.Written encryption) {row : MessageRow}
    (hrow : row ∈ db.messages) : (encryption.reader getStatus).Reads row := by
  obtain ⟨nonce, content, hencrypt⟩ := hwritten.contents row hrow
  exact ⟨content, SMSEncryption.decrypt_of_encrypt hencrypt⟩

/-- All messages of a number are read. -/
theorem Written.getMessages_eq (hwritten : db.Written encryption)
    (order : OrderByCreatedAt reverse) (phoneNumber : Str) :
    db.getMessages (encryption.reader getStatus) order phoneNumber none none =
      .ok ((order.arrange (db.messagesOf phoneNumber)).map
        (encryption.reader getStatus).entry) := by
  refine RowReader.mapM_read fun row hrow => hwritten.reads ?_
  exact mem_messagesOf ((order.perm _).mem_iff.mp hrow)

/-! ### Storing -/

/-- The row of a stored message. -/
theorem insertMessage_eq_ok {call : Call} {encrypt : Str → Except Str Str} {message : SmsMessage}
    {isFinal : Bool} {id : ℕ}
    (h : db.insertMessage call encrypt message isFinal = (db', .ok id)) :
    ∃ content, encrypt message.messageContent = .ok content ∧ id = db.messageSequence + 1 ∧
      db'.messageSequence = db.messageSequence + 1 ∧
      db'.messages = db.messages ++
        [{ messageId := id, phoneNumber := message.phoneNumber, messageContent := content,
           messageReference := message.messageReference, isOutgoing := message.isOutgoing,
           status := message.status, createdAt := call.now,
           completedAt := if isFinal then some call.now else none }] := by
  unfold insertMessage at h
  cases hencrypt : encrypt message.messageContent with
  | error e => simp [hencrypt] at h
  | ok content =>
    simp only [hencrypt] at h
    split at h
    · cases h
    · obtain ⟨rfl, hid⟩ := Prod.mk.inj h
      obtain rfl := Except.ok.inj hid
      exact ⟨content, rfl, rfl, rfl, rfl⟩

/-- A message that is stored is written with the key. -/
theorem Written.insertMessage (hwritten : db.Written encryption) {call : Call} {nonce : Nonce}
    {message : SmsMessage} {isFinal : Bool} {id : ℕ}
    (h : db.insertMessage call (encryption.encrypt nonce) message isFinal = (db', .ok id)) :
    db'.Written encryption := by
  obtain ⟨content, hencrypt, hid, hsequence, hmessages⟩ := insertMessage_eq_ok h
  refine ⟨hwritten.toKeyed.append hmessages hid hsequence, ?_⟩
  rw [hmessages, List.forall_mem_append, List.forall_mem_singleton]
  exact ⟨hwritten.contents, nonce, message.messageContent, hencrypt⟩

/-- A change of the status leaves the contents as they were written. -/
theorem Written.updateMessageStatus (hwritten : db.Written encryption) (call : Call)
    (messageId : ℕ) (status : UInt8) (completed : Bool) :
    (db.updateMessageStatus call messageId status completed).1.Written encryption := by
  refine ⟨(evolves_updateMessageStatus call db messageId status completed).keyed hwritten.toKeyed,
    ?_⟩
  unfold SMSDatabase.updateMessageStatus
  split
  · exact hwritten.contents
  · refine List.forall_mem_map.mpr fun row hrow => ?_
    split <;> exact hwritten.contents row hrow

/-- Before and after a message was stored under an id, its number can be read; afterwards there is
one entry with the id, which has the fields of the message, and the others are as before. -/
def ReadBack (reader : RowReader) (before after : OrderByCreatedAt reverse)
    (db db' : SMSDatabase) (message : SmsMessage) (id : ℕ) : Prop :=
  ∃ old new, db.getMessages reader before message.phoneNumber none none = .ok old ∧
    db'.getMessages reader after message.phoneNumber none none = .ok new ∧
    (new.filter (·.messageId = id)).map (·.toSmsMessage) = [message] ∧
    (new.filter (·.messageId ≠ id)).Perm old

/-- A message is only read back if it has a status: every message is read with one. -/
theorem ReadBack.isSome_status {reader : RowReader} {before after : OrderByCreatedAt reverse}
    {message : SmsMessage} {id : ℕ} (h : ReadBack reader before after db db' message id) :
    message.status.isSome := by
  obtain ⟨_, new, -, hnew, hread, -⟩ := h
  have hmem : message ∈ (new.filter (·.messageId = id)).map (·.toSmsMessage) := by
    rw [hread]
    exact List.mem_singleton_self message
  obtain ⟨stored, hstored, rfl⟩ := List.mem_map.mp hmem
  have hrows : ((after.arrange (db'.messagesOf stored.phoneNumber)).mapM reader.read) = .ok new :=
    hnew
  obtain ⟨row, -, hrow⟩ :=
    exists_of_forall₂ (mapM_eq_ok_iff.mp hrows) (List.mem_filter.mp hstored).1
  have hreads := (RowReader.read_eq_ok hrow).1.read_eq
  rw [← Except.ok.inj (hreads.symm.trans hrow)]
  rfl

/-- **Round trip of the store.** Whatever is in the database, a message that was stored is read
back as it was, in any order of the rows, if and only if it has a status. -/
theorem insertMessage_readBack_iff (hstatus : ∀ status, getStatus (some status) = status)
    (hwritten : db.Written encryption) {call : Call} {nonce : Nonce} {message : SmsMessage}
    {isFinal : Bool} {id : ℕ}
    (hinsert : db.insertMessage call (encryption.encrypt nonce) message isFinal = (db', .ok id))
    (before after : OrderByCreatedAt reverse) :
    ReadBack (encryption.reader getStatus) before after db db' message id ↔
      message.status.isSome := by
  have hwritten' := hwritten.insertMessage hinsert
  obtain ⟨content, hencrypt, hid, -, hmessages⟩ := insertMessage_eq_ok hinsert
  set row : MessageRow := { messageId := id, .. } with hrow
  set reader := encryption.reader getStatus
  set old := (before.arrange (db.messagesOf message.phoneNumber)).map reader.entry
  set new := (after.arrange (db'.messagesOf message.phoneNumber)).map reader.entry
  have hentry : (reader.entry row).toSmsMessage =
      { message with status := some (getStatus message.status) } :=
    RowReader.toSmsMessage_entry (SMSEncryption.decrypt_of_encrypt hencrypt)
  have hperm : new.Perm (old ++ [reader.entry row]) := by
    have hrows : db'.messagesOf message.phoneNumber =
        db.messagesOf message.phoneNumber ++ [row] := by
      rw [messagesOf, hmessages, List.filter_append, messagesOf]
      simp [hrow]
    have hnew : new.Perm ((db'.messagesOf message.phoneNumber).map reader.entry) :=
      (after.perm _).map _
    rw [hrows, List.map_append] at hnew
    exact hnew.trans (((before.perm _).map reader.entry).symm.append_right _)
  have hfresh : ∀ entry ∈ old, entry.messageId ≠ id := by
    refine List.forall_mem_map.mpr fun other hother hsame => ?_
    have hbound := hwritten.bounded other (mem_messagesOf ((before.perm _).mem_iff.mp hother))
    have hsame' : other.messageId = id := hsame
    omega
  have hone : new.filter (·.messageId = id) = [reader.entry row] := by
    refine List.perm_singleton.mp ((hperm.filter _).trans (.of_eq ?_))
    rw [List.filter_append, List.filter_eq_nil_iff.mpr (by simpa using hfresh)]
    simp [hrow, RowReader.entry]
  have hothers : (new.filter (·.messageId ≠ id)).Perm old := by
    refine (hperm.filter _).trans (.of_eq ?_)
    rw [List.filter_append, List.filter_eq_self.mpr (by simpa using hfresh)]
    simp [hrow, RowReader.entry]
  refine ⟨fun h => h.isSome_status, fun hsome => ?_⟩
  obtain ⟨status, hsome⟩ := Option.isSome_iff_exists.mp hsome
  have hmessage : (reader.entry row).toSmsMessage = message := by
    rw [hentry, hsome, hstatus, ← hsome]
  exact ⟨old, new, hwritten.getMessages_eq before _, hwritten'.getMessages_eq after _,
    by rw [hone, List.map_singleton, hmessage], hothers⟩

/-- A message with a status, stored after another one of its number. -/
theorem insertMessage_readBack_hi :
    let earlier : SmsMessage := ⟨"+1".toList, "Hi".toList, some 7, true, some 32⟩
    let message : SmsMessage := ⟨"+1".toList, "Hi".toList, none, false, some 0⟩
    let store := fun (db : SMSDatabase) =>
      db.insertMessage ⟨9, false⟩ (SMSEncryption.ofZeros.encrypt .zeros)
    let first := store .empty earlier false
    let second := store first.1 message false
    first.2 = .ok 1 ∧ second.2 = .ok 2 ∧
      ReadBack (SMSEncryption.ofZeros.reader (·.getD 0)) (.insertion : OrderByCreatedAt true)
        .insertion first.1 second.1 message 2 := by
  intro earlier message store first second
  have hfirst : first.2 = .ok 1 := by decide +kernel
  have hsecond : second.2 = .ok 2 := by decide +kernel
  have hwritten : first.1.Written .ofZeros := Written.empty.insertMessage (Prod.ext rfl hfirst)
  exact ⟨hfirst, hsecond, (insertMessage_readBack_iff (fun _ => rfl) hwritten
    (Prod.ext rfl hsecond) _ _).mpr rfl⟩

/-- The same without a status: it is read back with the status 0. -/
theorem insertMessage_readBack_null :
    let message : SmsMessage := ⟨"+1".toList, "Hi".toList, none, false, none⟩
    let inserted := SMSDatabase.empty.insertMessage ⟨9, false⟩
      (SMSEncryption.ofZeros.encrypt .zeros) message false
    inserted.2 = .ok 1 ∧
      ¬ ReadBack (SMSEncryption.ofZeros.reader (·.getD 0)) (.insertion : OrderByCreatedAt true)
        .insertion .empty inserted.1 message 1 := by
  exact ⟨by decide +kernel, fun h => absurd h.isSome_status (by decide)⟩

end SMSDatabase

end SmsServer
