import SmsServer.Modem.Requests
import SmsServer.Modem.Sender
import SmsServer.Sms.Delivery

/-!
# Sending in order

`ModemSender::send_sms` with the record of what it queues and what comes back, and
`SMSManager::send_sms` on its result. The parts are queued one after the other, each when the one
before has been taken, and the message is stored when the last one has been.
-/

namespace SmsServer

open RustStd

variable {X : Crates}

namespace ModemSender

/-- What becomes of a call of `send_request`: its command does not get into the queue, or the
response comes, or the wait for it ends without one. -/
inductive RequestOutcome (X : Crates)
  | full
  | closed
  | responded (response : ModemResponse X)
  | channelClosed
  | timedOut

inductive SendEvent (X : Crates)
  | queued (request : ModemRequest)
  | answered (response : ModemResponse X)
  | failed (error : Str)

namespace SendEvent

/-- A response that is an error, or none. -/
def IsFailure : SendEvent X → Prop
  | queued _ => False
  | answered response => response.IsError
  | failed _ => True

/-- The requests that were queued. -/
def queuedOf : List (SendEvent X) → List ModemRequest :=
  List.filterMap fun
    | queued request => some request
    | _ => none

end SendEvent

open SendEvent

def queueClosed : Str := "Command queue is closed".toList

/-- `send_request`, by the outcome of the call. -/
def sendRequest (sequence : UInt32) (request : ModemRequest) :
    RequestOutcome X → List (SendEvent X) × Except Str (ModemResponse X)
  | .full => ([.failed queueFull], .error queueFull)
  | .closed => ([.failed queueClosed], .error queueClosed)
  | .responded response => ([.queued request, .answered response], .ok response)
  | .channelClosed =>
    ([.queued request, .failed (responseChannelClosed sequence)],
      .error (responseChannelClosed sequence))
  | .timedOut =>
    ([.queued request, .failed (timedOutWaiting sequence)], .error (timedOutWaiting sequence))

/-- The sequence numbers and the outcomes of the calls. -/
structure Calls (X : Crates) where
  sequence : ℕ → UInt32
  outcome : ℕ → ModemRequest → Option UInt32 → RequestOutcome X

def Calls.sendRequest (calls : Calls X) (timeout : Option UInt32) (i : ℕ) (request : ModemRequest) :
    List (SendEvent X) × Except Str (ModemResponse X) :=
  ModemSender.sendRequest (calls.sequence i) request (calls.outcome i request timeout)

variable {calls : Calls X} {timeout : Option UInt32}

/-- The record of sending parts: each is queued and taken, up to one that is not. -/
inductive Recorded : List ModemRequest → List (SendEvent X) → Prop
  | done : Recorded [] []
  | taken (request : ModemRequest) {requests : List ModemRequest} {response : ModemResponse X}
      {record : List (SendEvent X)} (hresponse : ¬ response.IsError)
      (hrecord : Recorded requests record) :
    Recorded (request :: requests) (.queued request :: .answered response :: record)
  | refused (request : ModemRequest) (requests : List ModemRequest) {event : SendEvent X}
      (hevent : event.IsFailure) : Recorded (request :: requests) [.queued request, event]
  | notQueued (request : ModemRequest) (requests : List ModemRequest) (error : Str) :
    Recorded (request :: requests) [.failed error]

namespace Recorded

variable {parts : List ModemRequest} {record : List (SendEvent X)}

/-- What is recorded first is that a part is queued, if any is. -/
theorem eq_nil (h : Recorded parts record) {earlier later : List (SendEvent X)}
    {request : ModemRequest} (heq : record = earlier ++ .queued request :: later)
    (hearlier : queuedOf earlier = []) : earlier = [] := by
  cases earlier with
  | nil => rfl
  | cons event earlier =>
    cases event with
    | queued request => nomatch hearlier
    | answered response => cases h <;> cases heq
    | failed error => cases h <;> simp at heq

/-- A part that is queued after others comes right after the answer to the one before. -/
theorem follows (h : Recorded parts record) {earlier later : List (SendEvent X)}
    {request : ModemRequest} {i : ℕ} (heq : record = earlier ++ .queued request :: later)
    (hi : (queuedOf earlier).length = i + 1) :
    ∃ earlier' part response, parts[i]? = some part ∧
      earlier = earlier' ++ [.queued part, .answered response] ∧ ¬ response.IsError := by
  induction h generalizing earlier i with
  | done => simp at heq
  | notQueued request requests error => cases earlier <;> simp at heq
  | refused request requests hevent =>
    match earlier, heq with
    | [], _ => nomatch hi
    | [first], heq =>
      obtain rfl := (List.cons.inj (List.cons.inj heq).2).1
      exact hevent.elim
    | _ :: _ :: _, heq => simp at heq
  | taken part hresponse hrecord ih =>
    rename_i parts response record
    match earlier, heq with
    | [], _ => nomatch hi
    | [first], heq => simp at heq
    | _ :: _ :: earlier, heq =>
      obtain ⟨rfl, htail⟩ := List.cons.inj heq
      obtain ⟨rfl, hrest⟩ := List.cons.inj htail
      have hlength : (queuedOf earlier).length = i := Nat.succ.inj hi
      cases i with
      | zero =>
        obtain rfl := hrecord.eq_nil hrest (List.length_eq_zero_iff.mp hlength)
        exact ⟨[], part, response, rfl, rfl, hresponse⟩
      | succ i =>
        obtain ⟨earlier', part', response', hpart, rfl, hresponse'⟩ := ih hrest hlength
        exact ⟨_ :: _ :: earlier', part', response', hpart, rfl, hresponse'⟩

end Recorded

/-! ### Messages that are sent -/

end ModemSender

section

variable (smsMessage : FromOutgoing) (broadcasting : Bool) (insert failure : Call)
  (encrypt : Str → Except Str Str) (database : SMSDatabase) (message : SmsOutgoingMessage)

variable {smsMessage broadcasting insert failure encrypt database message}
  {sent : Except Str (Bool × Option (ModemResponse X))}

end

end SmsServer
