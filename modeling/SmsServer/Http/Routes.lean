import SmsServer.Modem.Sender
import SmsServer.Sms.Delivery

/-!
# Sending over HTTP

The handler `sms_send` of `http/routes.rs`, down to the parts that are sent. A message that the
modem refuses comes back from `ModemSender::send_sms` as not sent, and `SMSManager::send_sms`
returns that without a row; so its branch for a refused message is not reached, and the handler
misses the row before it looks at the response. `smsSend_of_firstError` says what is left of it.
-/

namespace SmsServer

open RustStd ModemSender

variable {X : Crates}

/-- `HttpError`, with the code of the status. -/
structure HttpError where
  status : ℕ
  message : Str
  deriving DecidableEq, Repr

/-- `StatusCode::BAD_REQUEST`. -/
def badRequest : ℕ := 400

/-- `StatusCode::INTERNAL_SERVER_ERROR`. -/
def internalServerError : ℕ := 500

structure SendSmsRequest where
  toNumber : Str
  content : Str
  flash : Option Bool
  validityPeriod : Option UInt8
  timeout : Option UInt32
  deriving DecidableEq, Repr

/-- `HttpSmsSendResponse` of `sms-types`. -/
structure HttpSmsSendResponse where
  messageId : ℕ
  referenceId : UInt8
  deriving DecidableEq, Repr

/-- `modem_extract!(response => SendResult)`, given how responses are printed for debugging. -/
def extractSendResult (debug : ModemResponse X → Str) : ModemResponse X → Except HttpError UInt8
  | .sendResult data => .ok data
  | .error message => .error ⟨internalServerError, message⟩
  | other => .error ⟨internalServerError,
      "Unexpected response: expected SendResult, got ".toList ++ debug other⟩

/-- The checks of `sms_send`, and the message they let through. -/
def outgoingMessage (codec : SmsCodec) (sendInternationalFormatOnly : Bool)
    (payload : SendSmsRequest) : Except HttpError (SmsOutgoingMessage × SendOptions) := do
  let address ← (codec.pduAddressFromStr payload.toNumber).mapError (HttpError.mk badRequest)
  if sendInternationalFormatOnly && !codec.isInternational address then
    throw ⟨badRequest, "Sending phone number must be in international format!".toList⟩
  let toNumber := codec.pduAddressToString address
  if toNumber = "+".toList ∨ toNumber = [] then
    throw ⟨badRequest, "Invalid phone number!".toList⟩
  return ({ toNumber, content := payload.content },
    { flash := payload.flash, validityPeriod := payload.validityPeriod,
      timeout := payload.timeout })

/-- The response of `sms_send` for what `SMSManager::send_sms` returned. -/
def sendResponse (debug : ModemResponse X → Str)
    (sent : Except Str (Option ℕ × ModemResponse X)) : Except HttpError HttpSmsSendResponse := do
  let (messageIdOpt, response) ← sent.mapError (HttpError.mk internalServerError)
  let messageId ← messageIdOpt.elim
    (.error ⟨internalServerError, "Message sent but no message ID returned".toList⟩) .ok
  let referenceId ← extractSendResult debug response
  return { messageId, referenceId }

/-- What the handler is configured and connected with. -/
structure HttpState (X : Crates) where
  codec : SmsCodec
  smsMessage : FromOutgoing
  sendInternationalFormatOnly : Bool
  broadcasting : Bool
  encrypt : Str → Except Str Str
  debug : ModemResponse X → Str

/-- `sms_send`: the database, the events broadcast, and the response. -/
def smsSend (state : HttpState X) (insert failure : Call) (sendRequest : SendRequest X)
    (database : SMSDatabase) (payload : SendSmsRequest) :
    SMSDatabase × List Event × Except HttpError HttpSmsSendResponse :=
  match outgoingMessage state.codec state.sendInternationalFormatOnly payload with
  | .error e => (database, [], .error e)
  | .ok (message, options) =>
    let (database, events, sent) := sendSms state.smsMessage state.broadcasting insert failure
      state.encrypt database message (ModemSender.sendSms state.codec sendRequest message options)
    (database, events, sendResponse state.debug sent)

/-- What a refused message is owed: a row that is complete and has no status, its send failure
with the modem's error, the event for the row if events are broadcast, and that error for the
client. -/
structure RecordedAndReported (broadcasting : Bool) (error : Str) (before after : SMSDatabase)
    (events : List Event) (response : Except HttpError HttpSmsSendResponse) : Prop where
  stored : ∃ row failure, after.messages = before.messages ++ [row] ∧ row.completedAt.isSome ∧
    row.status = none ∧ after.sendFailures = before.sendFailures ++ [failure] ∧
    failure.messageId = row.messageId ∧ failure.errorMessage = error
  broadcast : broadcasting → ∃ message, events =
    [.outgoingMessage message (after.messages.getLast?.map (·.messageId))]
  reported : ∃ e, response = .error e ∧ error <:+: e.message

section

variable {sendRequest : SendRequest X} {payload : SendSmsRequest}
  {message : SmsOutgoingMessage} {options : SendOptions} {requests : List ModemRequest} {k : ℕ}
  {error : Str}

/-- What a refused message comes to: nothing is stored, nothing is broadcast, and the client is
told that the message was sent. -/
theorem smsSend_of_firstError (state : HttpState X) (insert failure : Call)
    (database : SMSDatabase)
    (hmessage : outgoingMessage state.codec state.sendInternationalFormatOnly payload =
      .ok (message, options))
    (hrequests : createSmsRequests state.codec message options = .ok requests)
    (herror : FirstError sendRequest options.timeout requests k error) :
    smsSend state insert failure sendRequest database payload = (database, [],
      .error ⟨internalServerError, "Message sent but no message ID returned".toList⟩) := by
  have hsent : ModemSender.sendSms state.codec sendRequest message options =
      .ok (false, some (.error error)) := by
    rw [ModemSender.sendSms, hrequests]
    exact herror.sendParts
  rw [smsSend, hmessage]
  simp only [hsent]
  rfl

/-- **Refused messages.** Wherever among the parts the first error comes, and whatever it is, the
message is not recorded and reported as it should be. -/
theorem refused_not_recorded (state : HttpState X) (insert failure : Call)
    (database : SMSDatabase)
    (hmessage : outgoingMessage state.codec state.sendInternationalFormatOnly payload =
      .ok (message, options))
    (hrequests : createSmsRequests state.codec message options = .ok requests)
    (herror : FirstError sendRequest options.timeout requests k error) :
    ¬ RecordedAndReported state.broadcasting error database
      (smsSend state insert failure sendRequest database payload).1
      (smsSend state insert failure sendRequest database payload).2.1
      (smsSend state insert failure sendRequest database payload).2.2 := by
  rw [smsSend_of_firstError state insert failure database hmessage hrequests herror]
  rintro ⟨⟨row, -, hrows, -⟩, -, -⟩
  -- a row would have been added
  have hlength := congrArg List.length hrows
  simp at hlength

end

/-- A handler that encrypts nothing and broadcasts. -/
def HttpState.plain (X : Crates) : HttpState X where
  codec := .plain
  smsMessage := .copying
  sendInternationalFormatOnly := true
  broadcasting := true
  encrypt := .ok
  debug _ := []

/-- The second of two parts is refused. -/
theorem refused_not_recorded_second :
    let sendRequest : SendRequest .rejecting := fun i _ _ =>
      .ok (if i = 0 then .sendResult 1 else .error "+CMS ERROR: 500".toList)
    let sent := smsSend (.plain .rejecting) ⟨0, false⟩ ⟨0, false⟩ sendRequest .empty
      ⟨"+1".toList, "Hi".toList, none, none, none⟩
    ¬ RecordedAndReported true "+CMS ERROR: 500".toList .empty sent.1 sent.2.1 sent.2.2 := by
  intro sendRequest sent
  have herror : FirstError sendRequest none
      [.sendSms 1 "48".toList, .sendSms 1 "69".toList] 1 "+CMS ERROR: 500".toList := by
    refine ⟨fun j hj => ?_, _, rfl, rfl⟩
    obtain rfl : j = 0 := by omega
    exact ⟨_, _, rfl, rfl, id⟩
  exact refused_not_recorded (.plain .rejecting) ⟨0, false⟩ ⟨0, false⟩ .empty rfl rfl herror

/-- A message of one part that the network refuses: the client is told that it was sent. -/
theorem refused_reported_as_sent :
    let sendRequest : SendRequest .rejecting := fun _ _ _ => .ok (.error "+CMS ERROR: 38".toList)
    let sent := smsSend (.plain .rejecting) ⟨0, false⟩ ⟨0, false⟩ sendRequest .empty
      ⟨"+1".toList, "A".toList, none, none, none⟩
    sent = (.empty, [], .error ⟨500, "Message sent but no message ID returned".toList⟩) ∧
      ¬ RecordedAndReported true "+CMS ERROR: 38".toList .empty sent.1 sent.2.1 sent.2.2 := by
  intro sendRequest sent
  refine ⟨rfl, ?_⟩
  rintro ⟨⟨row, -, hrows, -⟩, -, -⟩
  cases hrows

end SmsServer
