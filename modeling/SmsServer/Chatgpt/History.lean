import Mathlib.Data.List.AList
import Mathlib.Data.List.DropRight
import SmsServer.Library.Decimal
import SmsServer.Library.Str

/-!
# Message histories of the ChatGPT example

The histories that `examples/chatgpt-sms` keeps, one for each number, of at most twenty messages. A
history is never read but as a whole, and what is pushed out of it does not come back: it is the end
of the transcript of all that was noted for its number since it was last cleared
(`lookup_addMessageAndGetHistory` and the lemmas after it).
-/

namespace SmsServer.Chatgpt

open RustStd

structure ChatMessage where
  role : Str
  content : Str
  deriving DecidableEq, Repr

/-- `HISTORY_LIMIT`. -/
def historyLimit : ℕ := 20

/-- `message_history`. -/
abbrev MessageHistory := AList fun _ : Str => List ChatMessage

/-- `trim_history`. -/
def trimHistory : List ChatMessage → List ChatMessage
  | [] => []
  | message :: messages =>
    if historyLimit < (message :: messages).length then trimHistory messages
    else message :: messages

theorem trimHistory_eq (messages : List ChatMessage) :
    trimHistory messages = messages.rtake historyLimit := by
  induction messages with
  | nil => rfl
  | cons message messages ih =>
    rw [trimHistory]
    split
    · next hlong =>
      rw [List.length_cons] at hlong
      rw [ih, List.rtake, List.rtake, List.length_cons,
        show messages.length + 1 - historyLimit = (messages.length - historyLimit) + 1 by omega,
        List.drop_succ_cons]
    · next hshort =>
      rw [List.rtake, Nat.sub_eq_zero_of_le (not_lt.mp hshort), List.drop_zero]

/-- Trimming before a message is added makes no difference. -/
theorem rtake_rtake_append (n : ℕ) (messages : List ChatMessage) (message : ChatMessage) :
    (messages.rtake n ++ [message]).rtake n = (messages ++ [message]).rtake n := by
  rw [List.rtake_eq_reverse_take_reverse, List.rtake_eq_reverse_take_reverse,
    List.rtake_eq_reverse_take_reverse]
  simp only [List.reverse_append, List.reverse_reverse, List.reverse_singleton,
    List.singleton_append]
  cases n with
  | zero => rfl
  | succ n => rw [List.take_succ_cons, List.take_succ_cons, List.take_take, min_eq_left (by omega)]

namespace MessageHistory

/-- `add_message_and_get_history`. -/
def addMessageAndGetHistory (self : MessageHistory) (phoneNumber : Str) (message : ChatMessage) :
    MessageHistory × List ChatMessage :=
  let messages := trimHistory ((self.lookup phoneNumber).getD [] ++ [message])
  (self.insert phoneNumber messages, messages)

/-- `add_message`. -/
def addMessage (self : MessageHistory) (phoneNumber : Str) (message : ChatMessage) :
    MessageHistory :=
  match self.lookup phoneNumber with
  | some messages => self.insert phoneNumber (trimHistory (messages ++ [message]))
  | none => self

/-- `clear_history`. -/
def clearHistory (self : MessageHistory) (phoneNumber : Str) : MessageHistory × ℕ :=
  (self.erase phoneNumber, ((self.lookup phoneNumber).map List.length).getD 0)

end MessageHistory

/-! ### Transcripts -/

/-- All that was noted for each number since it was last cleared, `none` if nothing was. -/
abbrev Transcripts := Str → Option (List ChatMessage)

namespace Transcripts

/-- A message that starts a transcript if there is none. -/
def note (self : Transcripts) (phoneNumber : Str) (message : ChatMessage) : Transcripts :=
  Function.update self phoneNumber (some ((self phoneNumber).getD [] ++ [message]))

/-- A message that is left out if there is no transcript. -/
def noteReply (self : Transcripts) (phoneNumber : Str) (message : ChatMessage) : Transcripts :=
  Function.update self phoneNumber ((self phoneNumber).map (· ++ [message]))

def clear (self : Transcripts) (phoneNumber : Str) : Transcripts :=
  Function.update self phoneNumber none

/-- The end of a transcript that a history has. -/
def recent (self : Transcripts) : Str → Option (List ChatMessage) :=
  fun phoneNumber => (self phoneNumber).map (·.rtake historyLimit)

end Transcripts

namespace MessageHistory

variable {self : MessageHistory} {transcripts : Transcripts} {phoneNumber : Str}
  {message : ChatMessage}

theorem lookup_insert_eq (messages : List ChatMessage) :
    (AList.insert phoneNumber messages self).lookup =
      Function.update self.lookup phoneNumber (some messages) := by
  funext other
  by_cases h : other = phoneNumber
  · rw [h, AList.lookup_insert, Function.update_self]
  · rw [AList.lookup_insert_ne h, Function.update_of_ne h]

theorem recent_update (messages : Option (List ChatMessage)) :
    Transcripts.recent (Function.update transcripts phoneNumber messages) =
      Function.update transcripts.recent phoneNumber (messages.map (·.rtake historyLimit)) := by
  funext other
  by_cases h : other = phoneNumber
  · rw [h, Transcripts.recent, Function.update_self, Function.update_self]
  · rw [Transcripts.recent, Function.update_of_ne h, Function.update_of_ne h, Transcripts.recent]

theorem lookup_eq_recent (h : self.lookup = transcripts.recent) :
    self.lookup phoneNumber = (transcripts phoneNumber).map (·.rtake historyLimit) :=
  congrFun h phoneNumber

/-- The history after a message, and the copy of it that is returned. -/
theorem lookup_addMessageAndGetHistory (h : self.lookup = transcripts.recent) :
    (self.addMessageAndGetHistory phoneNumber message).1.lookup =
        (transcripts.note phoneNumber message).recent ∧
      (self.addMessageAndGetHistory phoneNumber message).2 =
        ((transcripts phoneNumber).getD [] ++ [message]).rtake historyLimit := by
  have hmessages : trimHistory ((self.lookup phoneNumber).getD [] ++ [message]) =
      ((transcripts phoneNumber).getD [] ++ [message]).rtake historyLimit := by
    rw [trimHistory_eq, lookup_eq_recent h]
    cases transcripts phoneNumber with
    | none => rfl
    | some messages => exact rtake_rtake_append historyLimit messages message
  refine ⟨?_, hmessages⟩
  rw [addMessageAndGetHistory, hmessages, lookup_insert_eq, Transcripts.note, recent_update, h]
  rfl

theorem lookup_addMessage (h : self.lookup = transcripts.recent) :
    (self.addMessage phoneNumber message).lookup =
      (transcripts.noteReply phoneNumber message).recent := by
  have hlookup := (lookup_eq_recent h : self.lookup phoneNumber = _)
  rw [addMessage, Transcripts.noteReply, recent_update, ← h]
  cases hnumber : transcripts phoneNumber with
  | none =>
    rw [hnumber] at hlookup
    rw [hlookup]
    exact (Function.update_eq_self_iff.mpr hlookup.symm).symm
  | some messages =>
    rw [hnumber] at hlookup
    rw [hlookup]
    show (AList.insert _ _ self).lookup = _
    rw [lookup_insert_eq, trimHistory_eq, rtake_rtake_append]
    rfl

theorem lookup_clearHistory (h : self.lookup = transcripts.recent) :
    (self.clearHistory phoneNumber).1.lookup = (transcripts.clear phoneNumber).recent := by
  rw [Transcripts.clear, recent_update, ← h]
  funext other
  by_cases heq : other = phoneNumber
  · rw [heq, Function.update_self]
    exact AList.lookup_erase phoneNumber self
  · rw [Function.update_of_ne heq]
    exact AList.lookup_erase_ne heq

end MessageHistory

end SmsServer.Chatgpt
