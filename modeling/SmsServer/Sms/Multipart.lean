import Mathlib.Data.List.Find
import SmsServer.Library.Slots
import SmsServer.Library.Utf8
import SmsServer.Modem.Types

/-!
# Multipart messages

`sms/multipart.rs`: the parts of one concatenated message, collected until every part has
arrived. `Collected` relates a group to the parts that were added to it: a slot holds the first
part of its index, and the group is complete when every index from 1 to the total has arrived.
-/

namespace SmsServer

open RustStd

/-- `MULTIPART_MESSAGES_STALLED_DURATION`: 30 minutes. -/
def multipartMessagesStalledDuration : Millis := fromSecs (30 * 60)

structure SMSMultipartMessages where
  totalSize : ℕ
  lastUpdated : Millis
  firstMessage : Option SmsIncomingMessage
  textLen : ℕ
  textParts : List (Option Str)
  receivedCount : ℕ
  deriving DecidableEq, Repr

/-- The text of a part without the message separator at its end. -/
def removeSeparator (content : Str) : Str :=
  if endsWith content "@".toList then (stripSuffix content "@".toList).getD content else content

/-- At most one trailing `@` is removed. -/
theorem removeSeparator_concat (content : Str) : removeSeparator (content ++ ['@']) = content := by
  have hends : endsWith (content ++ ['@']) "@".toList := by
    rw [endsWith, List.isSuffixOf_iff_suffix]
    exact List.suffix_append _ _
  rw [removeSeparator, if_pos hends, stripSuffix, if_pos hends]
  simp

theorem removeSeparator_of_getLast? {content : Str} (h : content.getLast? ≠ some '@') :
    removeSeparator content = content := by
  refine if_neg fun hends => h ?_
  obtain ⟨init, rfl⟩ := List.isSuffixOf_iff_suffix.mp hends
  simp

/-- The text that a part brings: its content less one last `@`. -/
def SmsIncomingMessage.partText (self : SmsIncomingMessage) : Str :=
  if self.content.getLast? = some '@' then self.content.dropLast else self.content

theorem removeSeparator_eq_partText (message : SmsIncomingMessage) :
    removeSeparator message.content = message.partText := by
  rw [SmsIncomingMessage.partText]
  split
  · next hlast =>
    obtain ⟨init, hcontent⟩ := List.getLast?_eq_some_iff.mp hlast
    rw [hcontent, removeSeparator_concat, List.dropLast_concat]
  · next hlast => exact removeSeparator_of_getLast? hlast

namespace SMSMultipartMessages

def withCapacity (now : Millis) (totalSize : ℕ) : SMSMultipartMessages where
  totalSize := totalSize
  lastUpdated := now
  firstMessage := none
  textLen := 0
  textParts := List.replicate totalSize none
  receivedCount := 0

/-- `add_message`, `true` when the group is complete. -/
def addMessage (now : Millis) (self : SMSMultipartMessages) (message : SmsIncomingMessage)
    (index : UInt8) : SMSMultipartMessages × Bool :=
  let self := { self with lastUpdated := now }
  let idx := index.toNat - 1
  let self :=
    if self.textParts[idx]? = some none then
      let content := removeSeparator message.content
      { self with
        textLen := self.textLen + (encodeUtf8 content).length
        textParts := self.textParts.set idx (some content)
        receivedCount := self.receivedCount + 1 }
    else self
  let self :=
    if self.firstMessage.isNone then { self with firstMessage := some message } else self
  (self, self.totalSize ≤ self.receivedCount)

/-- `compile`: the parts that have arrived, in order. -/
def compile (smsMessage : FromIncoming) (self : SMSMultipartMessages) : Except Str SmsMessage :=
  match self.firstMessage with
  | some firstMessage =>
    .ok { smsMessage.convert firstMessage with
      messageContent := self.textParts.flatMap (·.getD []) }
  | none => .error "Missing required first message to convert into SMSMessage!".toList

def isStalled (now : Millis) (self : SMSMultipartMessages) : Bool :=
  multipartMessagesStalledDuration < now - self.lastUpdated

/-- A group with a part has a first message. -/
theorem isSome_firstMessage_addMessage (now : Millis) (group : SMSMultipartMessages)
    (message : SmsIncomingMessage) (index : UInt8) :
    (group.addMessage now message index).1.firstMessage.isSome := by
  simp only [addMessage]
  cases group.firstMessage <;> split <;> simp

end SMSMultipartMessages

/-! ### What a group has collected -/

/-- A part as it arrives. -/
structure Part where
  receivedAt : Millis
  index : UInt8
  message : SmsIncomingMessage
  deriving DecidableEq, Repr

namespace Part

/-- The slot of a part, and the text for it. -/
def slot (self : Part) : ℕ × Str := (self.index.toNat - 1, self.message.partText)

end Part

/-- The text that was received first for an index. -/
def firstText (parts : List Part) (index : ℕ) : Option Str :=
  (parts.find? (·.index.toNat = index)).map fun part => part.message.partText

/-- The first texts of the indices 1 to `total`, in order. -/
def assembledText (total : ℕ) (parts : List Part) : Str :=
  (List.range total).flatMap fun i => (firstText parts (i + 1)).getD []

/-- The parts are numbered from 1 on. -/
def Numbered (parts : List Part) : Prop := ∀ part ∈ parts, 1 ≤ part.index.toNat

/-- Every index from 1 to `total` has arrived. -/
def AllReceived (total : ℕ) (parts : List Part) : Prop :=
  ∀ index, 1 ≤ index → index ≤ total → ∃ part ∈ parts, part.index.toNat = index

instance (total : ℕ) (parts : List Part) : Decidable (AllReceived total parts) :=
  decidable_of_iff (∀ i < total, ∃ part ∈ parts, part.index.toNat = i + 1)
    ⟨fun h index hpos hle => by
      obtain ⟨part, hpart, hindex⟩ := h (index - 1) (by omega)
      exact ⟨part, hpart, by omega⟩,
    fun h i hi => h (i + 1) (by omega) (by omega)⟩

/-- A group to which the parts were added, in their order. -/
structure Collected (total : ℕ) (parts : List Part) (group : SMSMultipartMessages) : Prop where
  totalSize : group.totalSize = total
  textParts : group.textParts =
    Slots.fillAll (List.replicate total none) (parts.map Part.slot)
  receivedCount : group.receivedCount = Slots.filled group.textParts
  firstMessage : group.firstMessage = parts.head?.map (·.message)
  lastUpdated : ∀ part, parts.getLast? = some part → group.lastUpdated = part.receivedAt

namespace Collected

variable {total : ℕ} {parts : List Part} {group : SMSMultipartMessages}

theorem withCapacity (now : Millis) (total : ℕ) :
    Collected total [] (.withCapacity now total) :=
  ⟨rfl, rfl, by simp [SMSMultipartMessages.withCapacity, Slots.filled, List.countP_replicate], rfl,
    by simp⟩

/-- Adding a part keeps the group and its parts in step. -/
theorem addMessage (h : Collected total parts group) (part : Part) :
    Collected total (parts ++ [part])
      (group.addMessage part.receivedAt part.message part.index).1 := by
  have hslots : Slots.fillAll (List.replicate total none) ((parts ++ [part]).map Part.slot) =
      Slots.fill group.textParts part.slot.1 part.slot.2 := by
    rw [List.map_append, List.map_singleton, Slots.fillAll_concat, ← h.textParts]
  have hfirst : (parts ++ [part]).head?.map (·.message) =
      some (group.firstMessage.getD part.message) := by
    rw [h.firstMessage]
    cases parts <;> rfl
  refine ⟨?_, ?_, ?_, ?_, ?_⟩
  · rw [← h.totalSize]
    simp only [SMSMultipartMessages.addMessage]
    split <;> split <;> rfl
  · rw [hslots]
    simp only [SMSMultipartMessages.addMessage]
    split
    · next hempty =>
      rw [show part.slot.1 = part.index.toNat - 1 from rfl, Slots.fill_of_empty hempty,
        removeSeparator_eq_partText]
      split <;> rfl
    · next hfull =>
      rw [show part.slot.1 = part.index.toNat - 1 from rfl, Slots.fill_of_not_empty hfull]
      split <;> rfl
  · simp only [SMSMultipartMessages.addMessage]
    split
    · next hempty =>
      have hfilled := Slots.filled_fill hempty (removeSeparator part.message.content)
      rw [Slots.fill_of_empty hempty, ← h.receivedCount] at hfilled
      split <;> exact hfilled.symm
    · split <;> exact h.receivedCount
  · rw [hfirst]
    simp only [SMSMultipartMessages.addMessage]
    cases hnone : group.firstMessage <;> split <;> simp_all
  · intro last hlast
    obtain rfl : part = last := by simpa using hlast
    simp only [SMSMultipartMessages.addMessage]
    split <;> split <;> rfl

/-- Adding a part tells whether all parts have arrived. -/
theorem addMessage_snd (h : Collected total parts group) {part : Part}
    (hnumbered : Numbered (parts ++ [part])) :
    (group.addMessage part.receivedAt part.message part.index).2 = true ↔
      AllReceived total (parts ++ [part]) := by
  have hadded := h.addMessage part
  have hcomplete : (group.addMessage part.receivedAt part.message part.index).2 = true ↔
      total ≤ Slots.filled (Slots.fillAll (List.replicate total none)
        ((parts ++ [part]).map Part.slot)) := by
    rw [← hadded.textParts, ← hadded.receivedCount]
    conv_rhs => rw [← hadded.totalSize]
    exact decide_eq_true_iff
  rw [hcomplete, Slots.filled_fillAll_eq_iff]
  constructor
  · intro hall index hpos hle
    obtain ⟨_, hmem, hslot⟩ := hall (index - 1) (by omega)
    obtain ⟨p, hp, rfl⟩ := List.mem_map.mp hmem
    have hindex := hnumbered p hp
    have hslot' : p.index.toNat - 1 = index - 1 := hslot
    exact ⟨p, hp, by omega⟩
  · intro hall i hi
    obtain ⟨p, hp, hindex⟩ := hall (i + 1) (by omega) (by omega)
    refine ⟨p.slot, List.mem_map_of_mem hp, ?_⟩
    rw [Part.slot, hindex, Nat.add_sub_cancel]

/-- The compiled message: from the first part, with the texts in the order of their indices. -/
theorem compile (h : Collected total parts group) (hnumbered : Numbered parts)
    (smsMessage : FromIncoming) {first : Part} (hfirst : parts.head? = some first) :
    group.compile smsMessage =
      .ok { smsMessage.convert first.message with
        messageContent := assembledText total parts } := by
  have htext : ∀ i, ((parts.map Part.slot).find? (·.1 = i)).map Prod.snd =
      firstText parts (i + 1) := by
    intro i
    rw [firstText, List.find?_map, Option.map_map]
    have hsame : ∀ part ∈ parts, ((fun p : ℕ × Str => decide (p.1 = i)) ∘ Part.slot) part =
        decide (part.index.toNat = i + 1) := by
      intro part hpart
      have hindex := hnumbered part hpart
      have hiff : part.index.toNat - 1 = i ↔ part.index.toNat = i + 1 := by omega
      exact decide_eq_decide.mpr hiff
    rw [List.find?_congr hsame]
    rfl
  have hcontent : group.textParts.flatMap (·.getD []) = assembledText total parts := by
    rw [h.textParts, Slots.fillAll_replicate, List.flatMap_map, assembledText]
    simp only [htext]
  have hgroup : group.firstMessage = some first.message := by
    rw [h.firstMessage, hfirst]
    rfl
  rw [SMSMultipartMessages.compile, hgroup, hcontent]

end Collected

end SmsServer
