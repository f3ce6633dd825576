import SmsServer.Sms.Reassembly

/-!
# What becomes of the text of a part

The header of a part comes from the network and is used as it is: the total of the first part is
the number of slots of its group, and the index is the number of a slot, counted from 1, with 0
taken for 1. `text_retained` says where the text of a part is after it was received, whatever the
header says and whatever was received before.
-/

namespace SmsServer

open RustStd Machine

/-- The text in a slot is part of the compiled text. -/
theorem infix_flatMap_of_getElem? {slots : List (Option Str)} {i : ℕ} {text : Str}
    (h : slots[i]? = some (some text)) : text <:+: slots.flatMap (·.getD []) := by
  obtain ⟨before, after, rfl⟩ := List.append_of_mem (List.mem_of_getElem? h)
  rw [List.flatMap_append, List.flatMap_cons, Option.getD_some]
  exact ⟨_, _, List.append_assoc ..⟩

namespace SMSMultipartMessages

variable {index : UInt8} {group : SMSMultipartMessages}

/-- A group with a part compiles. -/
theorem compile_addMessage (now : Millis) (group : SMSMultipartMessages)
    (message : SmsIncomingMessage) (index : UInt8) (smsMessage : FromIncoming) :
    ∃ whole, (group.addMessage now message index).1.compile smsMessage = .ok whole ∧
      whole.messageContent =
        (group.addMessage now message index).1.textParts.flatMap (·.getD []) := by
  obtain ⟨first, hfirst⟩ :=
    Option.isSome_iff_exists.mp (isSome_firstMessage_addMessage now group message index)
  rw [compile, hfirst]
  exact ⟨_, rfl, rfl⟩

/-- The text of a part goes to its slot if that is empty. -/
theorem getElem?_addMessage (now : Millis) (message : SmsIncomingMessage)
    (h : group.textParts[index.toNat - 1]? = some none) :
    (group.addMessage now message index).1.textParts[index.toNat - 1]? =
      some (some (message.partText)) := by
  have hlt := (List.getElem?_eq_some_iff.mp h).1
  have htexts : (group.addMessage now message index).1.textParts =
      group.textParts.set (index.toNat - 1) (some (message.partText)) := by
    simp only [addMessage, h, if_true, removeSeparator_eq_partText]
    split <;> rfl
  rw [htexts, List.getElem?_set_self hlt]

end SMSMultipartMessages

/-- A text in a group was brought by one of its parts. -/
theorem Collected.exists_part {total : ℕ} {parts : List Part} {group : SMSMultipartMessages}
    (h : Collected total parts group) {i : ℕ} {text : Str}
    (hslot : group.textParts[i]? = some (some text)) : ∃ part ∈ parts, part.slot = (i, text) := by
  rw [h.textParts, Slots.fillAll_replicate, List.getElem?_map] at hslot
  obtain ⟨j, hj, hfind⟩ := Option.map_eq_some_iff.mp hslot
  obtain rfl : j = i := by
    obtain ⟨_, hget⟩ := List.getElem?_eq_some_iff.mp hj
    simpa using hget.symm
  obtain ⟨p, hp, rfl⟩ := Option.map_eq_some_iff.mp hfind
  obtain ⟨part, hpart, rfl⟩ := List.mem_map.mp (List.mem_of_find?_eq_some hp)
  have hi : part.slot.1 = j := by simpa using List.find?_some hp
  exact ⟨part, hpart, Prod.ext hi rfl⟩

theorem Collected.length_textParts {total : ℕ} {parts : List Part} {group : SMSMultipartMessages}
    (h : Collected total parts group) : group.textParts.length = total := by
  rw [h.textParts, Slots.fillAll_replicate, List.length_map, List.length_range]

namespace SMSReceiver

/-- The groups of the map consist of parts that arrived for them, and have as many slots as the
first of these said. -/
def Gathered (inputs : List Input) (receiver : SMSReceiver) : Prop :=
  ∀ reference group, receiver.multipart reference = some group →
    ∃ parts first opener, Collected opener.total.toNat parts group ∧
      (∀ part ∈ parts, part ∈ partsOf reference inputs) ∧ parts.head? = some first ∧
      first.message.userDataHeader = some opener

/-- Where the text of a part is after it was received: in the message returned, in its slot of the
pending group; or it was dropped, because an earlier part was stored in that slot, or because the
group, which has as many slots as the part that opened it says, has no such slot. -/
inductive Retained (smsMessage : FromIncoming) (inputs : List Input) (now : Millis)
    (message : SmsIncomingMessage) (header : SmsMultipartHeader) : Prop
  | returned (whole : SmsMessage)
      (hresult : ((after smsMessage inputs).getIncomingSmsMessage smsMessage now message).2 =
        some (.ok whole))
      (hcontains : message.partText <:+: whole.messageContent)
  | stored (group : SMSMultipartMessages)
      (hresult : ((after smsMessage inputs).getIncomingSmsMessage smsMessage now message).2 = none)
      (hgroup : ((after smsMessage inputs).getIncomingSmsMessage smsMessage now message).1.multipart
        (message.phoneNumber, header.messageReference) = some group)
      (hslot : group.textParts[header.index.toNat - 1]? =
        some (some (message.partText)))
  | repeated (group : SMSMultipartMessages) (earlier : Part)
      (hgroup : (after smsMessage inputs).multipart
        (message.phoneNumber, header.messageReference) = some group)
      (hearlier : earlier ∈ partsOf (message.phoneNumber, header.messageReference) inputs)
      (hindex : earlier.index.toNat - 1 = header.index.toNat - 1)
      (hslot : group.textParts[header.index.toNat - 1]? =
        some (some (earlier.message.partText)))
  | outside (opener : SmsMultipartHeader)
      (hopener : ((after smsMessage inputs).multipart
          (message.phoneNumber, header.messageReference) = none ∧ opener = header) ∨
        ∃ group first, (after smsMessage inputs).multipart
            (message.phoneNumber, header.messageReference) = some group ∧
          first ∈ partsOf (message.phoneNumber, header.messageReference) inputs ∧
          group.firstMessage = some first.message ∧
          first.message.userDataHeader = some opener)
      (hslot : opener.total.toNat ≤ header.index.toNat - 1)

variable {smsMessage : FromIncoming} {inputs : List Input} {receiver : SMSReceiver}

theorem Gathered.mono (h : Gathered inputs receiver) (input : Input) :
    Gathered (inputs ++ [input]) receiver := by
  intro reference group hgroup
  obtain ⟨parts, first, opener, hcollected, hparts, hrest⟩ := h reference group hgroup
  refine ⟨parts, first, opener, hcollected, fun part hpart => ?_, hrest⟩
  rw [partsOf_concat]
  exact List.mem_append_left _ (hparts part hpart)

/-- The group of a part, once the part was added. -/
theorem Gathered.added (h : Gathered inputs receiver) {now : Millis} {message : SmsIncomingMessage}
    {header : SmsMultipartHeader} (hheader : message.userDataHeader = some header) :
    ∃ parts first opener, Collected opener.total.toNat parts
        (((receiver.multipart (message.phoneNumber, header.messageReference)).getD
          (.withCapacity now header.total.toNat)).addMessage now message header.index).1 ∧
      (∀ part ∈ parts, part ∈ partsOf (message.phoneNumber, header.messageReference)
        (inputs ++ [.incoming now message])) ∧ parts.head? = some first ∧
      first.message.userDataHeader = some opener := by
  let part : Part := { receivedAt := now, index := header.index, message }
  have hparts : partsOf (message.phoneNumber, header.messageReference)
      (inputs ++ [.incoming now message]) =
        partsOf (message.phoneNumber, header.messageReference) inputs ++ [part] := by
    rw [partsOf_concat, partOf_incoming hheader now, Option.toList_some]
  rw [hparts]
  cases hgroup : receiver.multipart (message.phoneNumber, header.messageReference) with
  | none =>
    exact ⟨[part], part, header, (Collected.withCapacity now _).addMessage part,
      fun p hp => List.mem_append_right _ hp, rfl, hheader⟩
  | some group =>
    obtain ⟨parts, first, opener, hcollected, hmem, hfirst, hopener⟩ := h _ group hgroup
    refine ⟨parts ++ [part], first, opener, hcollected.addMessage part, fun p hp => ?_, ?_, hopener⟩
    · exact List.mem_append.mpr ((List.mem_append.mp hp).imp_left (hmem p))
    · rw [List.head?_append, hfirst, Option.some_or]

/-- Every input keeps the groups what they are. -/
theorem Gathered.receive (smsMessage : FromIncoming) (h : Gathered inputs receiver)
    (input : Input) : Gathered (inputs ++ [input]) (receiver.receive smsMessage input).1 := by
  cases input with
  | cleanup now =>
    intro reference group hgroup
    exact h.mono _ reference group (Option.filter_eq_some_iff.mp hgroup).1
  | incoming now message =>
    cases hheader : message.userDataHeader with
    | none =>
      have hsame : (receiver.receive smsMessage (.incoming now message)).1 = receiver := by
        simp only [SMSReceiver.receive, getIncomingSmsMessage, hheader]
      rw [hsame]
      exact h.mono _
    | some header =>
      intro reference group hgroup
      rw [SMSReceiver.receive, getIncomingSmsMessage_part hheader] at hgroup
      by_cases hreference : reference = (message.phoneNumber, header.messageReference)
      · subst hreference
        simp only at hgroup
        split at hgroup
        · simp only [multipart_remove, reduceCtorEq] at hgroup
        · simp only [multipart_insert, Option.some_inj] at hgroup
          rw [← hgroup]
          exact h.added hheader
      · refine h.mono _ reference group ?_
        simp only at hgroup
        split at hgroup
        · simpa only [multipart_remove_of_ne hreference] using hgroup
        · simpa only [multipart_insert_of_ne hreference] using hgroup

theorem gathered_after (smsMessage : FromIncoming) (inputs : List Input) :
    Gathered inputs (after smsMessage inputs) := by
  induction inputs using List.reverseRecOn with
  | nil => exact fun _ _ hgroup => nomatch hgroup
  | append_singleton inputs input ih =>
    rw [after_concat]
    exact ih.receive smsMessage input

/-- A part whose slot is empty is stored, and returned if that completes the group. -/
theorem Retained.of_empty {now : Millis} {message : SmsIncomingMessage}
    {header : SmsMultipartHeader} {group : SMSMultipartMessages}
    (hresult : (after smsMessage inputs).getIncomingSmsMessage smsMessage now message =
      if (group.addMessage now message header.index).2 then
        ((after smsMessage inputs).remove (message.phoneNumber, header.messageReference),
          some ((group.addMessage now message header.index).1.compile smsMessage))
      else ((after smsMessage inputs).insert (message.phoneNumber, header.messageReference)
        (group.addMessage now message header.index).1, none))
    (hslot : group.textParts[header.index.toNat - 1]? = some none) :
    Retained smsMessage inputs now message header := by
  have hstored := SMSMultipartMessages.getElem?_addMessage now message hslot
  split at hresult
  · obtain ⟨whole, hwhole, hcontent⟩ :=
      SMSMultipartMessages.compile_addMessage now group message header.index smsMessage
    refine .returned whole (by rw [hresult, hwhole]) ?_
    rw [hcontent]
    exact infix_flatMap_of_getElem? hstored
  · refine .stored _ (by rw [hresult]) ?_ hstored
    rw [hresult]
    exact multipart_insert _

/-- **Retention.** After any inputs, the text of a part is in the message returned or in its slot,
unless an earlier part had taken the slot or the group has no such slot. -/
theorem text_retained (smsMessage : FromIncoming) (inputs : List Input) (now : Millis)
    {message : SmsIncomingMessage} {header : SmsMultipartHeader}
    (hheader : message.userDataHeader = some header) :
    Retained smsMessage inputs now message header := by
  have hresult : (after smsMessage inputs).getIncomingSmsMessage smsMessage now message = _ :=
    getIncomingSmsMessage_part hheader now
  simp only at hresult
  cases hgroup : (after smsMessage inputs).multipart
      (message.phoneNumber, header.messageReference) with
  | none =>
    rw [hgroup, Option.getD_none] at hresult
    by_cases hslot : header.index.toNat - 1 < header.total.toNat
    · refine .of_empty hresult ?_
      rw [SMSMultipartMessages.withCapacity, List.getElem?_replicate, if_pos hslot]
    · exact .outside header (.inl ⟨hgroup, rfl⟩) (not_lt.mp hslot)
  | some group =>
    rw [hgroup, Option.getD_some] at hresult
    obtain ⟨parts, first, opener, hcollected, hparts, hfirst, hopener⟩ :=
      gathered_after smsMessage inputs _ group hgroup
    cases hslot : group.textParts[header.index.toNat - 1]? with
    | none =>
      rw [List.getElem?_eq_none_iff, hcollected.length_textParts] at hslot
      have hmessage : group.firstMessage = some first.message := by
        rw [hcollected.firstMessage, hfirst, Option.map_some]
      exact .outside opener (.inr ⟨group, first, hgroup,
        hparts first (List.mem_of_mem_head? hfirst), hmessage, hopener⟩) hslot
    | some slot =>
      cases slot with
      | none => exact .of_empty hresult hslot
      | some text =>
        obtain ⟨earlier, hearlier, hpart⟩ := hcollected.exists_part hslot
        obtain ⟨hindex, rfl⟩ := Prod.mk.inj hpart
        exact .repeated group earlier hgroup (hparts earlier hearlier) hindex hslot

/-- The last part of a message of two. -/
theorem text_retained_last :
    let inputs := [Input.incoming 0 ⟨"+1".toList, some ⟨7, 2, 1⟩, "Hello @".toList⟩]
    let message : SmsIncomingMessage := ⟨"+1".toList, some ⟨7, 2, 2⟩, "World@".toList⟩
    message.partText = "World".toList ∧
      ((after .copying inputs).getIncomingSmsMessage .copying 1000 message).2.map
          (Except.map (·.messageContent)) = some (.ok "Hello World".toList) ∧
      Retained .copying inputs 1000 message ⟨7, 2, 2⟩ :=
  ⟨by decide, by decide +kernel, text_retained .copying _ 1000 rfl⟩

/-- The third part of a message of two, the first to arrive: its text is neither returned nor
stored, and no part with that index had arrived. -/
theorem text_dropped :
    let message : SmsIncomingMessage := ⟨"+1".toList, some ⟨7, 2, 3⟩, "Hello".toList⟩
    let received := (after .copying []).getIncomingSmsMessage .copying 0 message
    ¬ (∃ whole, received.2 = some (.ok whole) ∧
        message.partText <:+: whole.messageContent) ∧
      ¬ (∃ group, received.1.multipart ("+1".toList, 7) = some group ∧
        ∃ slot ∈ group.textParts, slot = some (message.partText)) ∧
      ¬ ∃ earlier ∈ partsOf ("+1".toList, 7) [], earlier.index = 3 := by
  intro message received
  have hresult : received.2 = none := rfl
  refine ⟨?_, ?_, ?_⟩
  · rintro ⟨whole, hwhole, -⟩
    rw [hresult] at hwhole
    cases hwhole
  · rintro ⟨group, hgroup, slot, hslot, rfl⟩
    have htexts : (received.1.multipart ("+1".toList, 7)).map (·.textParts) =
        some [none, none] := by decide +kernel
    rw [hgroup, Option.map_some, Option.some_inj] at htexts
    rw [htexts] at hslot
    simp at hslot
  · rintro ⟨earlier, hearlier, -⟩
    cases hearlier

end SMSReceiver

end SmsServer
