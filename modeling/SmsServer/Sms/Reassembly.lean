import SmsServer.Library.Machine
import SmsServer.Sms.Multipart

/-!
# Reassembly of concatenated messages

`SMSReceiver::get_incoming_sms_message` and the cleanup task share a map from phone number and
message reference to the group being collected. `reassembled` says what a receiver does with any
interleaving of parts, repeated parts, other messages and cleanups: a group is returned once, by
the part that completes it, and is gone from the map from then on.

The specification looks at the inputs only: `partsOf` are the parts of a group that have
arrived, and `Complete` that none is missing. `Tracks` connects it with the map.
-/

namespace SmsServer

open RustStd Machine

/-- The multipart key: phone number and message reference. -/
abbrev MultipartReference := Str × UInt8

structure SMSReceiver where
  multipart : MultipartReference → Option SMSMultipartMessages

namespace SMSReceiver

def new : SMSReceiver := { multipart := fun _ => none }

/-- `HashMap::insert`, and the update through an occupied entry. -/
def insert (self : SMSReceiver) (reference : MultipartReference) (group : SMSMultipartMessages) :
    SMSReceiver :=
  { self with multipart := Function.update self.multipart reference (some group) }

/-- `HashMap::remove`. -/
def remove (self : SMSReceiver) (reference : MultipartReference) : SMSReceiver :=
  { self with multipart := Function.update self.multipart reference none }

section

variable {self : SMSReceiver} {reference other : MultipartReference}

@[simp] theorem multipart_insert (group : SMSMultipartMessages) :
    (self.insert reference group).multipart reference = some group := Function.update_self ..

@[simp] theorem multipart_remove : (self.remove reference).multipart reference = none :=
  Function.update_self ..

theorem multipart_insert_of_ne (h : other ≠ reference) (group : SMSMultipartMessages) :
    (self.insert reference group).multipart other = self.multipart other :=
  Function.update_of_ne h ..

theorem multipart_remove_of_ne (h : other ≠ reference) :
    (self.remove reference).multipart other = self.multipart other := Function.update_of_ne h ..

end

/-- `get_incoming_sms_message`: `none` while parts are missing. -/
def getIncomingSmsMessage (smsMessage : FromIncoming) (now : Millis) (self : SMSReceiver)
    (incomingMessage : SmsIncomingMessage) : SMSReceiver × Option (Except Str SmsMessage) :=
  match incomingMessage.userDataHeader with
  | none => (self, some (.ok (smsMessage.convert incomingMessage)))
  | some header =>
    let multipartRef := (incomingMessage.phoneNumber, header.messageReference)
    match self.multipart multipartRef with
    | none =>
      let (multipart, complete) := (SMSMultipartMessages.withCapacity now
        header.total.toNat).addMessage now incomingMessage header.index
      -- a group of one part is complete and never inserted
      if complete then (self, some (multipart.compile smsMessage))
      else (self.insert multipartRef multipart, none)
    | some multipart =>
      let (multipart, complete) := multipart.addMessage now incomingMessage header.index
      if complete then (self.remove multipartRef, some (multipart.compile smsMessage))
      else (self.insert multipartRef multipart, none)

/-- `cleanup_stalled_multipart`: removes the stalled groups. -/
def cleanupStalledMultipart (now : Millis) (self : SMSReceiver) : SMSReceiver :=
  { self with multipart := fun reference =>
      (self.multipart reference).filter fun messages => !messages.isStalled now }

/-- What the message handling task and the cleanup task do to the map, one at a time under its
lock. -/
inductive Input
  | incoming (now : Millis) (message : SmsIncomingMessage)
  | cleanup (now : Millis)

/-- One input, with the result for an incoming message. -/
def receive (smsMessage : FromIncoming) (self : SMSReceiver) :
    Input → SMSReceiver × List (SmsIncomingMessage × Option (Except Str SmsMessage))
  | .incoming now message =>
    let received := self.getIncomingSmsMessage smsMessage now message
    (received.1, [(message, received.2)])
  | .cleanup now => (self.cleanupStalledMultipart now, [])

/-! ### Groups of parts -/

/-- The group a message belongs to. -/
def referenceOf (message : SmsIncomingMessage) : Option MultipartReference :=
  message.userDataHeader.map fun header => (message.phoneNumber, header.messageReference)

/-- The part of a group that an input delivers. -/
def partOf (reference : MultipartReference) : Input → Option Part
  | .incoming now message =>
    message.userDataHeader.bind fun header =>
      if (message.phoneNumber, header.messageReference) = reference then
        some { receivedAt := now, index := header.index, message }
      else none
  | .cleanup _ => none

/-- The parts of a group, in their order of arrival. -/
def partsOf (reference : MultipartReference) (inputs : List Input) : List Part :=
  inputs.filterMap (partOf reference)

/-- Every part of the group has arrived. -/
def Complete (totals : MultipartReference → UInt8) (reference : MultipartReference)
    (inputs : List Input) : Prop :=
  partsOf reference inputs ≠ [] ∧
    AllReceived (totals reference).toNat (partsOf reference inputs)

instance (totals : MultipartReference → UInt8) (reference : MultipartReference)
    (inputs : List Input) : Decidable (Complete totals reference inputs) :=
  inferInstanceAs (Decidable (_ ∧ _))

/-- The next input may be: any message that is not multipart; a part of a group that is not yet
complete, numbered from 1 to the total of its group; a cleanup while no group has waited more
than 30 minutes for a part. -/
def Admissible (totals : MultipartReference → UInt8) (before : List Input) : Input → Prop
  | .incoming _ message => ∀ header, message.userDataHeader = some header →
    header.total = totals (message.phoneNumber, header.messageReference) ∧
      1 ≤ header.index ∧ header.index ≤ header.total ∧
      ¬ Complete totals (message.phoneNumber, header.messageReference) before
  | .cleanup now => ∀ reference part, (partsOf reference before).getLast? = some part →
    ¬ Complete totals reference before → now - part.receivedAt ≤ multipartMessagesStalledDuration

/-- Every input is admissible after those before it. -/
def Orderly (totals : MultipartReference → UInt8) (inputs : List Input) : Prop :=
  ∀ before input after, inputs = before ++ input :: after → Admissible totals before input

/-- What the receiver owes for a message: a message that is not multipart as it is; for a part,
the whole message if it completes the group and nothing otherwise. -/
def Owed (smsMessage : FromIncoming) (totals : MultipartReference → UInt8) (before : List Input)
    (now : Millis) (message : SmsIncomingMessage) (result : Option (Except Str SmsMessage)) :
    Prop :=
  match message.userDataHeader with
  | none => ∃ whole, result = some (.ok whole) ∧ whole = smsMessage.convert message ∧
    whole.phoneNumber = message.phoneNumber ∧ whole.messageContent = message.content
  | some header =>
    let reference := (message.phoneNumber, header.messageReference)
    let inputs := before ++ [.incoming now message]
    (Complete totals reference inputs → ∃ whole, result = some (.ok whole) ∧
      whole.phoneNumber = message.phoneNumber ∧
      whole.messageContent = assembledText header.total.toNat (partsOf reference inputs)) ∧
    (¬ Complete totals reference inputs → result = none)

/-! ### The map tracks the groups -/

/-- The map holds the groups that have started and are not complete. -/
structure Tracks (totals : MultipartReference → UInt8) (inputs : List Input)
    (receiver : SMSReceiver) : Prop where
  numbered : ∀ reference, Numbered (partsOf reference inputs)
  absent : ∀ reference, partsOf reference inputs = [] ∨ Complete totals reference inputs →
    receiver.multipart reference = none
  present : ∀ reference, partsOf reference inputs ≠ [] → ¬ Complete totals reference inputs →
    ∃ group, receiver.multipart reference = some group ∧
      Collected (totals reference).toNat (partsOf reference inputs) group

section

variable {smsMessage : FromIncoming} {totals : MultipartReference → UInt8}
  {before inputs : List Input} {receiver : SMSReceiver}

theorem partsOf_concat (reference : MultipartReference) (inputs : List Input) (input : Input) :
    partsOf reference (inputs ++ [input]) =
      partsOf reference inputs ++ (partOf reference input).toList := by
  rw [partsOf, List.filterMap_append, partsOf]
  cases h : partOf reference input <;> simp [h]

/-- An input that delivers no part of a group leaves the group as it is. -/
theorem partsOf_other {reference : MultipartReference} {input : Input}
    (h : partOf reference input = none) (inputs : List Input) :
    partsOf reference (inputs ++ [input]) = partsOf reference inputs := by
  rw [partsOf_concat, h, Option.toList_none, List.append_nil]

/-- The part that a message with a header delivers to its group. -/
theorem partOf_incoming {message : SmsIncomingMessage} {header : SmsMultipartHeader}
    (hheader : message.userDataHeader = some header) (now : Millis) :
    partOf (message.phoneNumber, header.messageReference) (.incoming now message) =
      some { receivedAt := now, index := header.index, message } := by
  rw [partOf, hheader, Option.bind_some, if_pos rfl]

theorem partOf_incoming_of_ne {message : SmsIncomingMessage} {header : SmsMultipartHeader}
    (hheader : message.userDataHeader = some header) (now : Millis)
    {reference : MultipartReference}
    (hne : reference ≠ (message.phoneNumber, header.messageReference)) :
    partOf reference (.incoming now message) = none := by
  rw [partOf, hheader, Option.bind_some, if_neg hne.symm]

theorem tracks_new : Tracks totals [] .new :=
  ⟨fun _ => by simp [Numbered, partsOf], fun _ _ => rfl, fun _ h => absurd rfl h⟩

/-- All parts of a group come from its phone number. -/
theorem phoneNumber_of_mem {reference : MultipartReference} {part : Part}
    (h : part ∈ partsOf reference inputs) : part.message.phoneNumber = reference.1 := by
  obtain ⟨input, -, hpart⟩ := List.mem_filterMap.mp h
  cases input with
  | cleanup now => cases hpart
  | incoming now message =>
    obtain ⟨header, -, hsome⟩ := Option.bind_eq_some_iff.mp hpart
    obtain ⟨rfl, heq⟩ := Option.ite_none_right_eq_some.mp hsome
    obtain rfl := Option.some_inj.mp heq
    rfl

/-- A cleanup removes nothing. -/
theorem cleanup_eq (h : Tracks totals before receiver) {now : Millis}
    (hadmissible : Admissible totals before (.cleanup now)) :
    receiver.cleanupStalledMultipart now = receiver := by
  have hkeep : ∀ reference, ((receiver.multipart reference).filter fun g => !g.isStalled now) =
      receiver.multipart reference := by
    intro reference
    by_cases habsent : partsOf reference before = [] ∨ Complete totals reference before
    · rw [h.absent reference habsent]
      rfl
    · rw [not_or] at habsent
      obtain ⟨group, hgroup, hcollected⟩ := h.present reference habsent.1 habsent.2
      have hlast := List.getLast?_eq_some_getLast habsent.1
      have hrecent := hadmissible reference _ hlast habsent.2
      have hstalled : group.isStalled now = false := by
        rw [SMSMultipartMessages.isStalled, hcollected.lastUpdated _ hlast]
        exact decide_eq_false (not_lt.mpr hrecent)
      rw [hgroup, Option.filter_some, hstalled]
      rfl
  rw [cleanupStalledMultipart]
  exact congrArg SMSReceiver.mk (funext hkeep)

theorem complete_other {reference : MultipartReference} {input : Input}
    (h : partOf reference input = none) (inputs : List Input) :
    Complete totals reference (inputs ++ [input]) ↔ Complete totals reference inputs := by
  rw [Complete, Complete, partsOf_other h]

theorem tracks_other (h : Tracks totals before receiver) {input : Input} {receiver' : SMSReceiver}
    (reference : MultipartReference)
    (hother : ∀ other, other ≠ reference → partOf other input = none ∧
      receiver'.multipart other = receiver.multipart other)
    (hnumbered : Numbered (partsOf reference (before ++ [input])))
    (hcomplete : partsOf reference (before ++ [input]) = [] ∨
      Complete totals reference (before ++ [input]) → receiver'.multipart reference = none)
    (hmissing : partsOf reference (before ++ [input]) ≠ [] →
      ¬ Complete totals reference (before ++ [input]) →
      ∃ group, receiver'.multipart reference = some group ∧
        Collected (totals reference).toNat (partsOf reference (before ++ [input])) group) :
    Tracks totals (before ++ [input]) receiver' := by
  refine ⟨fun other => ?_, fun other => ?_, fun other => ?_⟩ <;>
  rcases eq_or_ne other reference with rfl | hne
  · exact hnumbered
  · rw [partsOf_other (hother other hne).1]
    exact h.numbered other
  · exact hcomplete
  · rw [partsOf_other (hother other hne).1, complete_other (hother other hne).1,
      (hother other hne).2]
    exact h.absent other
  · exact hmissing
  · rw [partsOf_other (hother other hne).1, complete_other (hother other hne).1,
      (hother other hne).2]
    exact h.present other

/-- A part is added to its group, which is new if the map does not have it, and the group is
removed once it is complete. -/
theorem getIncomingSmsMessage_part {message : SmsIncomingMessage} {header : SmsMultipartHeader}
    (hheader : message.userDataHeader = some header) (now : Millis) :
    receiver.getIncomingSmsMessage smsMessage now message =
      let reference := (message.phoneNumber, header.messageReference)
      let added := ((receiver.multipart reference).getD
        (.withCapacity now header.total.toNat)).addMessage now message header.index
      if added.2 then (receiver.remove reference, some (added.1.compile smsMessage))
      else (receiver.insert reference added.1, none) := by
  unfold getIncomingSmsMessage
  rw [hheader]
  simp only
  cases hgroup : receiver.multipart (message.phoneNumber, header.messageReference) with
  | some group => rfl
  | none =>
    have hremove : receiver.remove (message.phoneNumber, header.messageReference) = receiver := by
      rw [remove, ← hgroup, Function.update_eq_self]
    rw [hremove]
    rfl

/-- The parts of a group so far, whether it is in the map or new. -/
theorem collected_getD (h : Tracks totals before receiver) {reference : MultipartReference}
    (hmissing : ¬ Complete totals reference before) (now : Millis) :
    Collected (totals reference).toNat (partsOf reference before)
      ((receiver.multipart reference).getD (.withCapacity now (totals reference).toNat)) := by
  by_cases hnil : partsOf reference before = []
  · rw [h.absent reference (.inl hnil), hnil]
    exact .withCapacity now _
  · obtain ⟨group, hgroup, hcollected⟩ := h.present reference hnil hmissing
    rw [hgroup]
    exact hcollected

/-- **One part.** -/
theorem part_step (smsMessage : FromIncoming) (h : Tracks totals before receiver) {now : Millis}
    {message : SmsIncomingMessage} {header : SmsMultipartHeader}
    (hheader : message.userDataHeader = some header)
    (hadmissible : Admissible totals before (.incoming now message)) :
    Tracks totals (before ++ [.incoming now message])
        (receiver.getIncomingSmsMessage smsMessage now message).1 ∧
      Owed smsMessage totals before now message
        (receiver.getIncomingSmsMessage smsMessage now message).2 := by
  obtain ⟨htotal, hindex, -, hmissing⟩ := hadmissible header hheader
  rw [Owed, hheader]
  simp only
  rw [getIncomingSmsMessage_part hheader]
  simp only
  generalize hreference : (message.phoneNumber, header.messageReference) = reference
    at htotal hmissing ⊢
  have hphone : message.phoneNumber = reference.1 := by rw [← hreference]
  let part : Part := { receivedAt := now, index := header.index, message }
  have hpart : partOf reference (.incoming now message) = some part :=
    hreference ▸ partOf_incoming hheader now
  have hother : ∀ other, other ≠ reference → partOf other (.incoming now message) = none :=
    fun other hne => partOf_incoming_of_ne hheader now (hreference ▸ hne)
  have hparts : partsOf reference (before ++ [.incoming now message]) =
      partsOf reference before ++ [part] := by
    rw [partsOf_concat, hpart, Option.toList_some]
  have hcollected := collected_getD h hmissing now
  rw [← htotal] at hcollected
  have hnumbered : Numbered (partsOf reference before ++ [part]) := by
    refine List.forall_mem_append.mpr ⟨h.numbered reference, fun p hp => ?_⟩
    obtain rfl := List.mem_singleton.mp hp
    exact hindex
  have hadded := hcollected.addMessage part
  have hfull := hcollected.addMessage_snd hnumbered
  have hcomplete : Complete totals reference (before ++ [.incoming now message]) ↔
      AllReceived header.total.toNat (partsOf reference before ++ [part]) := by
    rw [Complete, hparts, htotal]
    exact and_iff_right (by simp)
  rw [← hcomplete] at hfull
  generalize hgroup : ((receiver.multipart reference).getD
    (.withCapacity now header.total.toNat)).addMessage now message header.index = added
    at hadded hfull ⊢
  by_cases hdone : Complete totals reference (before ++ [.incoming now message])
  · rw [if_pos (hfull.mpr hdone)]
    refine ⟨tracks_other h reference (fun other hne => ⟨hother other hne, ?_⟩) ?_ ?_
      (fun _ hnot => absurd hdone hnot), fun _ => ?_, fun hnot => absurd hdone hnot⟩
    · exact multipart_remove_of_ne hne
    · rwa [hparts]
    · exact fun _ => multipart_remove
    · obtain ⟨first, hfirst⟩ : ∃ first, (partsOf reference before ++ [part]).head? = some first :=
        ⟨_, List.head?_eq_some_head (by simp)⟩
      refine ⟨_, congrArg some (hadded.compile hnumbered smsMessage hfirst), ?_, ?_⟩
      · have hmem : first ∈ partsOf reference (before ++ [.incoming now message]) := by
          rw [hparts]
          exact List.mem_of_mem_head? hfirst
        rw [hphone, ← phoneNumber_of_mem hmem]
        exact smsMessage.phoneNumber first.message
      · rw [hparts]
  · rw [if_neg fun htrue => hdone (hfull.mp htrue)]
    refine ⟨tracks_other h reference (fun other hne => ⟨hother other hne, ?_⟩) ?_ ?_
      (fun _ _ => ?_), fun hnot => absurd hnot hdone, fun _ => rfl⟩
    · exact multipart_insert_of_ne hne _
    · rwa [hparts]
    · rintro (hnil | hdone')
      · rw [hparts] at hnil
        simp at hnil
      · exact absurd hdone' hdone
    · rw [hparts, ← htotal]
      exact ⟨added.1, multipart_insert _, hadded⟩

/-- **One input.** -/
theorem receive_step (smsMessage : FromIncoming) (h : Tracks totals before receiver) {input : Input}
    (hadmissible : Admissible totals before input) :
    Tracks totals (before ++ [input]) (receiver.receive smsMessage input).1 ∧
      ∀ now message, input = .incoming now message →
        Owed smsMessage totals before now message
          (receiver.getIncomingSmsMessage smsMessage now message).2 := by
  have hkept : ∀ {receiver' : SMSReceiver}, (∀ reference, partOf reference input = none) →
      receiver' = receiver → Tracks totals (before ++ [input]) receiver' := by
    rintro _ hnone rfl
    refine ⟨fun r => ?_, fun r => ?_, fun r => ?_⟩
    · rw [partsOf_other (hnone r)]
      exact h.numbered r
    · rw [partsOf_other (hnone r), complete_other (hnone r)]
      exact h.absent r
    · rw [partsOf_other (hnone r), complete_other (hnone r)]
      exact h.present r
  cases input with
  | cleanup now => exact ⟨hkept (fun _ => rfl) (cleanup_eq h hadmissible), by simp⟩
  | incoming now message =>
    cases hheader : message.userDataHeader with
    | none =>
      have hreturned : receiver.getIncomingSmsMessage smsMessage now message =
          (receiver, some (.ok (smsMessage.convert message))) := by
        rw [getIncomingSmsMessage, hheader]
      refine ⟨hkept (fun r => by rw [partOf, hheader]; rfl) (by rw [receive, hreturned]), ?_⟩
      rintro _ _ ⟨⟩
      rw [Owed, hheader, hreturned]
      exact ⟨_, rfl, rfl, smsMessage.phoneNumber message, smsMessage.content message⟩
    | some header =>
      obtain ⟨htracks, howed⟩ := part_step smsMessage h hheader hadmissible
      refine ⟨htracks, ?_⟩
      rintro _ _ ⟨⟩
      exact howed

end

/-! ### Runs -/

/-- The receiver after some inputs. -/
def after (smsMessage : FromIncoming) (inputs : List Input) : SMSReceiver :=
  (Transducer.run (receive smsMessage) .new inputs).1

/-- The whole messages returned for a group. -/
def returned (smsMessage : FromIncoming) (reference : MultipartReference) (inputs : List Input) :
    List (SmsIncomingMessage × Option (Except Str SmsMessage)) :=
  (Transducer.run (receive smsMessage) .new inputs).2.filter fun r =>
    referenceOf r.1 = some reference && r.2.isSome

section

variable {smsMessage : FromIncoming} {totals : MultipartReference → UInt8} {inputs : List Input}

theorem after_concat (inputs : List Input) (input : Input) :
    after smsMessage (inputs ++ [input]) =
      ((after smsMessage inputs).receive smsMessage input).1 := by
  rw [after, Transducer.run_append]
  rfl

theorem returned_concat (reference : MultipartReference) (inputs : List Input) (input : Input) :
    returned smsMessage reference (inputs ++ [input]) =
      returned smsMessage reference inputs ++
        ((after smsMessage inputs).receive smsMessage input).2.filter fun r =>
          referenceOf r.1 = some reference && r.2.isSome := by
  rw [returned, Transducer.run_append, List.filter_append]
  simp only [Transducer.run_cons, Transducer.run_nil, List.append_nil]
  rfl

theorem Orderly.concat {input : Input} (h : Orderly totals (inputs ++ [input])) :
    Orderly totals inputs ∧ Admissible totals inputs input := by
  refine ⟨fun before i rest hsplit => h before i (rest ++ [input]) ?_, h inputs input [] rfl⟩
  rw [hsplit, List.append_assoc, List.cons_append]

theorem Orderly.nil : Orderly totals [] := by
  intro before input rest hsplit
  simp at hsplit

/-- Orderly sequences are built input by input. -/
theorem Orderly.snoc (h : Orderly totals inputs) (input : Input)
    (hadmissible : Admissible totals inputs input) : Orderly totals (inputs ++ [input]) := by
  intro before i rest hsplit
  rcases List.eq_nil_or_concat rest with rfl | ⟨rest, last, rfl⟩
  · obtain ⟨rfl, heq⟩ := List.append_inj' hsplit rfl
    obtain rfl := List.singleton_inj.mp heq
    exact hadmissible
  · have hsplit' : inputs ++ [input] = (before ++ i :: rest) ++ [last] := by
      simpa using hsplit
    exact h before i rest (List.append_inj' hsplit' rfl).1

theorem Orderly.split {before rest : List Input} (h : Orderly totals (before ++ rest)) :
    Orderly totals before := by
  intro first i last hsplit
  refine h first i (last ++ rest) ?_
  rw [hsplit, List.append_assoc, List.cons_append]

/-- Along an orderly sequence of inputs the map tracks the groups. -/
theorem Orderly.tracks (smsMessage : FromIncoming) (h : Orderly totals inputs) :
    Tracks totals inputs (after smsMessage inputs) := by
  induction inputs using List.reverseRecOn with
  | nil => exact tracks_new
  | append_singleton inputs input ih =>
    obtain ⟨horderly, hadmissible⟩ := h.concat
    rw [after_concat]
    exact (receive_step smsMessage (ih horderly) hadmissible).1

/-- A group is returned when it is complete, and not before. -/
theorem Orderly.returned_length (smsMessage : FromIncoming) (h : Orderly totals inputs)
    (reference : MultipartReference) :
    (Complete totals reference inputs → (returned smsMessage reference inputs).length = 1) ∧
      (¬ Complete totals reference inputs → returned smsMessage reference inputs = []) := by
  induction inputs using List.reverseRecOn with
  | nil => exact ⟨fun hcomplete => absurd rfl hcomplete.1, fun _ => rfl⟩
  | append_singleton inputs input ih =>
    obtain ⟨horderly, hadmissible⟩ := h.concat
    obtain ⟨hone, hzero⟩ := ih horderly
    have howed := (receive_step smsMessage (horderly.tracks smsMessage)
      hadmissible).2
    rw [returned_concat]
    cases input with
    | cleanup now =>
      rw [complete_other rfl]
      exact ⟨fun hcomplete => by simpa [receive] using hone hcomplete,
        fun hcomplete => by simpa [receive] using hzero hcomplete⟩
    | incoming now message =>
      rw [receive]
      by_cases hreference : referenceOf message = some reference
      · -- the group was not complete before this part
        obtain ⟨header, hheader, rfl⟩ := Option.map_eq_some_iff.mp hreference
        obtain ⟨-, -, -, hmissing⟩ := hadmissible header hheader
        obtain ⟨hwhole, hnothing⟩ := by
          simpa only [Owed, hheader] using howed now message rfl
        rw [hzero hmissing, List.nil_append]
        refine ⟨fun hcomplete => ?_, fun hcomplete => ?_⟩
        · obtain ⟨whole, hresult, -⟩ := hwhole hcomplete
          simp [hreference, hresult]
        · simp [hnothing hcomplete]
      · have hnone : partOf reference (.incoming now message) = none := by
          refine Option.bind_eq_none_iff.mpr fun header hheader => if_neg fun heq => ?_
          exact hreference (by rw [referenceOf, hheader, Option.map_some, heq])
        rw [complete_other hnone]
        simpa [hreference] using ⟨hone, hzero⟩

/-- **Reassembly.** For any orderly interleaving of inputs: each message is answered as it is
owed; a group is returned exactly once if it is complete and never otherwise; and no complete
group is left in the map. -/
theorem reassembled (smsMessage : FromIncoming) (h : Orderly totals inputs) :
    (∀ before now message rest, inputs = before ++ .incoming now message :: rest →
      Owed smsMessage totals before now message
        ((after smsMessage before).getIncomingSmsMessage smsMessage now message).2) ∧
    (∀ reference, (Complete totals reference inputs →
        (returned smsMessage reference inputs).length = 1) ∧
      (¬ Complete totals reference inputs → returned smsMessage reference inputs = [])) ∧
    ∀ reference, Complete totals reference inputs →
      (after smsMessage inputs).multipart reference = none := by
  refine ⟨?_, h.returned_length smsMessage,
    fun reference hcomplete => (h.tracks smsMessage).absent reference (.inr hcomplete)⟩
  intro before now message rest hsplit
  subst hsplit
  exact (receive_step smsMessage (h.split.tracks smsMessage) (h before _ rest rfl)).2 now message
    rfl

/-- Two parts in the wrong order, with a cleanup between them. -/
theorem reassembled_outOfOrder :
    let reference : MultipartReference := ("+1".toList, 7)
    let second : SmsIncomingMessage := ⟨"+1".toList, some ⟨7, 2, 2⟩, "World".toList⟩
    let first : SmsIncomingMessage := ⟨"+1".toList, some ⟨7, 2, 1⟩, "Hello @".toList⟩
    let inputs := [.incoming 0 second, .cleanup 500, .incoming 1000 first]
    (∃ whole, ((after .copying [.incoming 0 second, .cleanup 500]).getIncomingSmsMessage .copying
        1000 first).2 = some (.ok whole) ∧ whole.messageContent = "Hello World".toList) ∧
      (returned .copying reference inputs).length = 1 ∧
      (after .copying inputs).multipart reference = none := by
  intro reference second first inputs
  have horderly : Orderly (fun _ => 2) inputs := by
    refine ((Orderly.nil.snoc (.incoming 0 second) ?_).snoc (.cleanup 500) ?_).snoc
      (.incoming 1000 first) ?_
    · rintro _ ⟨⟩
      decide +kernel
    · intro r part _ _
      exact (Nat.sub_le 500 part.receivedAt).trans (by decide)
    · rintro _ ⟨⟩
      decide +kernel
  obtain ⟨howed, hreturned, hgone⟩ := reassembled .copying horderly
  have hcomplete : Complete (fun _ => 2) reference inputs := by decide +kernel
  obtain ⟨whole, hresult, -, hcontent⟩ :=
    (howed [.incoming 0 second, .cleanup 500] 1000 first [] rfl).1 hcomplete
  have htext : assembledText 2 (partsOf reference inputs) = "Hello World".toList := by
    decide +kernel
  exact ⟨⟨whole, hresult, hcontent.trans htext⟩, (hreturned reference).1 hcomplete,
    hgone reference hcomplete⟩

end

end SMSReceiver

end SmsServer
