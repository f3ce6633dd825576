import SmsServer.Sms.Reassembly

/-!
# Pending groups

What the fields of a group say about each other. `total_size` and the number of slots,
`received_count` and the filled slots, `text_len` and the texts in them are kept in step by
`add_message`, and a group is left in the map only while a part is missing. A group that is
compiled has just been given a part, so that it has a first message.
-/

namespace SmsServer

open RustStd Machine

namespace SMSMultipartMessages

/-- The redundant fields of a group agree. -/
structure Consistent (group : SMSMultipartMessages) : Prop where
  length_textParts : group.textParts.length = group.totalSize
  receivedCount : group.receivedCount = Slots.filled group.textParts
  textLen : group.textLen = Slots.measure (fun text => (encodeUtf8 text).length) group.textParts

/-- A group that waits for a part. -/
structure Pending (group : SMSMultipartMessages) : Prop extends Consistent group where
  incomplete : group.receivedCount < group.totalSize
  firstMessage : group.firstMessage.isSome

theorem Consistent.withCapacity (now : Millis) (totalSize : ℕ) :
    (SMSMultipartMessages.withCapacity now totalSize).Consistent where
  length_textParts := List.length_replicate
  receivedCount := by
    simp [SMSMultipartMessages.withCapacity, Slots.filled, List.countP_replicate]
  textLen := by simp [SMSMultipartMessages.withCapacity, Slots.measure]

variable {group : SMSMultipartMessages}

/-- Whatever the index of the part. -/
theorem Consistent.addMessage (h : group.Consistent) (now : Millis) (message : SmsIncomingMessage)
    (index : UInt8) : (group.addMessage now message index).1.Consistent := by
  by_cases hslot : group.textParts[index.toNat - 1]? = some none
  · have hfill := Slots.fill_of_empty hslot (removeSeparator message.content)
    have hfilled := Slots.filled_fill hslot (removeSeparator message.content)
    have hmeasure := Slots.measure_fill hslot (fun text => (encodeUtf8 text).length)
      (removeSeparator message.content)
    rw [hfill, ← h.receivedCount] at hfilled
    rw [hfill, ← h.textLen] at hmeasure
    simp only [SMSMultipartMessages.addMessage, hslot, if_true]
    split <;> exact ⟨List.length_set.trans h.length_textParts, hfilled.symm, hmeasure.symm⟩
  · simp only [SMSMultipartMessages.addMessage, hslot, if_false]
    split <;> exact ⟨h.length_textParts, h.receivedCount, h.textLen⟩

/-- A group that is not complete with a part waits for another. -/
theorem Consistent.pending (h : group.Consistent) {now : Millis} {message : SmsIncomingMessage}
    {index : UInt8} (hcomplete : (group.addMessage now message index).2 = false) :
    (group.addMessage now message index).1.Pending where
  toConsistent := h.addMessage now message index
  incomplete := by
    have htotal : (group.addMessage now message index).2 =
        decide ((group.addMessage now message index).1.totalSize ≤
          (group.addMessage now message index).1.receivedCount) := rfl
    rw [htotal] at hcomplete
    exact not_le.mp (of_decide_eq_false hcomplete)
  firstMessage := isSome_firstMessage_addMessage now group message index

theorem Pending.none_mem (h : group.Pending) : none ∈ group.textParts := by
  refine Slots.none_mem_of_filled_lt ?_
  rw [← h.receivedCount, h.length_textParts]
  exact h.incomplete

end SMSMultipartMessages

namespace SMSReceiver

/-- Every group in the map waits for a part. -/
def AllPending (receiver : SMSReceiver) : Prop :=
  ∀ reference group, receiver.multipart reference = some group → group.Pending

/-- The group a part is added to: the one in the map, or a new one. -/
def groupFor (now : Millis) (receiver : SMSReceiver) (message : SmsIncomingMessage)
    (header : SmsMultipartHeader) : SMSMultipartMessages :=
  (receiver.multipart (message.phoneNumber, header.messageReference)).getD
    (.withCapacity now header.total.toNat)

variable {receiver : SMSReceiver}

theorem allPending_new : AllPending .new := fun _ _ hgroup => nomatch hgroup

theorem AllPending.groupFor (h : AllPending receiver) (now : Millis) (message : SmsIncomingMessage)
    (header : SmsMultipartHeader) : (receiver.groupFor now message header).Consistent := by
  rw [SMSReceiver.groupFor]
  cases hgroup : receiver.multipart (message.phoneNumber, header.messageReference) with
  | none => exact .withCapacity now _
  | some group => exact (h _ group hgroup).toConsistent

/-- Every input keeps the groups in the map pending. -/
theorem AllPending.receive (smsMessage : FromIncoming) (h : AllPending receiver) (input : Input) :
    AllPending (receiver.receive smsMessage input).1 := by
  cases input with
  | cleanup now =>
    exact fun reference group hgroup => h reference group (Option.filter_eq_some_iff.mp hgroup).1
  | incoming now message =>
    cases hheader : message.userDataHeader with
    | none =>
      simp only [SMSReceiver.receive, getIncomingSmsMessage, hheader]
      exact h
    | some header =>
      intro reference group hgroup
      rw [SMSReceiver.receive, getIncomingSmsMessage_part hheader] at hgroup
      simp only at hgroup
      by_cases hreference : reference = (message.phoneNumber, header.messageReference)
      · subst hreference
        split at hgroup
        · simp only [multipart_remove, reduceCtorEq] at hgroup
        · next hcomplete =>
          simp only [multipart_insert, Option.some_inj] at hgroup
          rw [← hgroup]
          exact (h.groupFor now message header).pending (Bool.not_eq_true _ ▸ hcomplete)
      · refine h reference group ?_
        split at hgroup
        · simpa only [multipart_remove_of_ne hreference] using hgroup
        · simpa only [multipart_insert_of_ne hreference] using hgroup

theorem allPending_after (smsMessage : FromIncoming) (inputs : List Input) :
    AllPending (after smsMessage inputs) :=
  Transducer.run_invariant (P := AllPending)
    (fun _ input h => h.receive smsMessage input) allPending_new inputs

/-- The error of `compile` does not reach the caller. -/
theorem getIncomingSmsMessage_ne_error (smsMessage : FromIncoming) (now : Millis)
    (receiver : SMSReceiver) (message : SmsIncomingMessage) (e : Str) :
    (receiver.getIncomingSmsMessage smsMessage now message).2 ≠ some (.error e) := by
  cases hheader : message.userDataHeader with
  | none => simp [getIncomingSmsMessage, hheader]
  | some header =>
    have hfirst := SMSMultipartMessages.isSome_firstMessage_addMessage now
      (receiver.groupFor now message header) message header.index
    obtain ⟨first, hfirst⟩ := Option.isSome_iff_exists.mp hfirst
    rw [groupFor] at hfirst
    rw [getIncomingSmsMessage_part hheader]
    simp only
    split
    · simp [SMSMultipartMessages.compile, hfirst]
    · simp

/-- **Pending groups.** After any messages and cleanups every group in the map waits for a part,
with its fields in agreement; the group of the next part has a first message once the part is
added, and what the receiver returns for it is no error. -/
theorem pending_after (smsMessage : FromIncoming) (inputs : List Input) :
    (∀ reference group, (after smsMessage inputs).multipart reference = some group →
      group.textParts.length = group.totalSize ∧
      group.receivedCount = Slots.filled group.textParts ∧ group.receivedCount < group.totalSize ∧
      group.textLen =
        (group.textParts.reduceOption.map fun text => (encodeUtf8 text).length).sum ∧
      group.firstMessage.isSome ∧ none ∈ group.textParts) ∧
    ∀ now message,
      (∀ header, message.userDataHeader = some header →
        (((after smsMessage inputs).groupFor now message header).addMessage now message
          header.index).1.firstMessage.isSome) ∧
      ∀ e, ((after smsMessage inputs).getIncomingSmsMessage smsMessage now message).2 ≠
        some (.error e) := by
  refine ⟨fun reference group hgroup => ?_, fun now message => ⟨fun header _ => ?_, ?_⟩⟩
  · have hpending := allPending_after smsMessage inputs reference group hgroup
    exact ⟨hpending.length_textParts, hpending.receivedCount, hpending.incomplete,
      hpending.textLen, hpending.firstMessage, hpending.none_mem⟩
  · exact SMSMultipartMessages.isSome_firstMessage_addMessage ..
  · exact getIncomingSmsMessage_ne_error smsMessage now _ message

/-- After the first of two parts. -/
theorem pending_after_waiting :
    ∃ group, (after .copying
        [.incoming 0 ⟨"+1".toList, some ⟨7, 2, 1⟩, "Hello ".toList⟩]).multipart
          ("+1".toList, 7) = some group ∧ group.receivedCount < group.totalSize :=
  ⟨_, rfl, ((pending_after .copying
    [.incoming 0 ⟨"+1".toList, some ⟨7, 2, 1⟩, "Hello ".toList⟩]).1 ("+1".toList, 7) _ rfl).2.2.1⟩

end SMSReceiver

end SmsServer
