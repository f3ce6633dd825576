import SmsServer.Modem.Types

/-!
# Sending a message in parts

`modem/sender.rs`: a message is encoded into one request for each part, and the requests are sent
one after the other until the modem refuses one.
-/

namespace SmsServer

open RustStd

/-- `GsmMessageData` of `sms-pdu`: the data of one part. -/
structure GsmMessageData (Encoding : Type) where
  /-- Whether there is a user data header. -/
  udh : Bool
  encoding : Encoding
  bytes : List UInt8
  userDataLen : ℕ

/-- `SubmitPdu` of `sms-pdu`, with the fields that `create_sms_requests` does not fix: it is an
`SmsSubmit` without service centre, with message id 0, a relative validity period and a request
for a status report, and not compressed. -/
structure SubmitPdu (PduAddress Encoding : Type) where
  udhi : Bool
  destination : PduAddress
  /-- The message class is `Silent`, else there is none. -/
  silent : Bool
  encoding : Encoding
  validityPeriod : UInt8
  userData : List UInt8
  userDataLen : ℕ

/-- The fields of `SmsOutgoingMessage` that are only read when it is encoded and sent. -/
structure SendOptions where
  flash : Option Bool
  validityPeriod : Option UInt8
  timeout : Option UInt32
  deriving DecidableEq, Repr

/-- What sending calls in crates whose source is not part of the repository: addresses and PDUs
of `sms-pdu`, the default validity period of `sms-types`, and `hex`. -/
structure SmsCodec where
  PduAddress : Type
  pduAddressFromStr : Str → Except Str PduAddress
  pduAddressToString : PduAddress → Str
  /-- The type of number is `International`. -/
  isInternational : PduAddress → Bool
  Encoding : Type
  encodeMessage : Str → List (GsmMessageData Encoding)
  /-- `SmsOutgoingMessage::get_validity_period`, which also reads the flash flag. -/
  getValidityPeriod : SmsOutgoingMessage → SendOptions → UInt8
  /-- The bytes of the PDU and the length for the modem. -/
  submitPduAsBytes : SubmitPdu PduAddress Encoding → List UInt8 × ℕ
  hexEncode : List UInt8 → Str

/-- A codec for concrete runs, which takes any address and makes a part of each character. -/
def SmsCodec.plain : SmsCodec where
  PduAddress := Str
  pduAddressFromStr := .ok
  pduAddressToString := id
  isInternational address := startsWith address "+".toList
  Encoding := Unit
  encodeMessage content := content.map fun c =>
    { udh := false, encoding := (), bytes := [c.toNat.toUInt8], userDataLen := 1 }
  getValidityPeriod _ options := options.validityPeriod.getD 0
  submitPduAsBytes pdu := (pdu.userData, pdu.userDataLen)
  hexEncode bytes :=
    bytes.flatMap fun b => [Nat.digitChar (b.toNat / 16), Nat.digitChar (b.toNat % 16)]

def createSmsRequests (codec : SmsCodec) (message : SmsOutgoingMessage) (options : SendOptions) :
    Except Str (List ModemRequest) := do
  let destination ← codec.pduAddressFromStr message.toNumber
  let validityPeriod := codec.getValidityPeriod message options
  return (codec.encodeMessage message.content).map fun data =>
    let (bytes, size) := codec.submitPduAsBytes
      { udhi := data.udh, destination, silent := options.flash.getD false,
        encoding := data.encoding, validityPeriod, userData := data.bytes,
        userDataLen := data.userDataLen }
    .sendSms size (codec.hexEncode bytes)

namespace ModemSender

variable {X : Crates}

/-- What `send_request` returns, by the number of the call. -/
abbrev SendRequest (X : Crates) := ℕ → ModemRequest → Option UInt32 → Except Str (ModemResponse X)

/-- The loop of `send_sms`, from call `i` on. -/
def sendParts (sendRequest : SendRequest X) (timeout : Option UInt32) :
    ℕ → Option (ModemResponse X) → List ModemRequest →
      Except Str (Bool × Option (ModemResponse X))
  | _, lastResponse, [] => .ok (true, lastResponse)
  | i, _, request :: requests =>
    match sendRequest i request timeout with
    | .error e => .error e
    -- no use in sending the parts that are left of a broken concatenation
    | .ok (.error message) => .ok (false, some (.error message))
    | .ok response => sendParts sendRequest timeout (i + 1) (some response) requests

/-- `ModemSender::send_sms`: whether all parts were sent, and the last response. -/
def sendSms (codec : SmsCodec) (sendRequest : SendRequest X) (message : SmsOutgoingMessage)
    (options : SendOptions) : Except Str (Bool × Option (ModemResponse X)) := do
  let requests ← createSmsRequests codec message options
  sendParts sendRequest options.timeout 0 none requests

/-- The parts before number `k` are taken by the modem, and part `k` is refused with `message`. -/
structure FirstError (sendRequest : SendRequest X) (timeout : Option UInt32)
    (requests : List ModemRequest) (k : ℕ) (message : Str) : Prop where
  taken : ∀ j < k, ∃ request response, requests[j]? = some request ∧
    sendRequest j request timeout = .ok response ∧ ¬ response.IsError
  refused : ∃ request, requests[k]? = some request ∧
    sendRequest k request timeout = .ok (.error message)

variable {sendRequest : SendRequest X} {timeout : Option UInt32}

theorem sendParts_of_not_isError {request : ModemRequest} {response : ModemResponse X} {i : ℕ}
    (h : sendRequest i request timeout = .ok response) (hresponse : ¬ response.IsError)
    (last : Option (ModemResponse X)) (requests : List ModemRequest) :
    sendParts sendRequest timeout i last (request :: requests) =
      sendParts sendRequest timeout (i + 1) (some response) requests := by
  rw [sendParts, h]
  cases response with
  | error message => exact absurd trivial hresponse
  | _ => rfl

/-- Sending stops at the first error, which is the response returned. -/
theorem FirstError.sendParts {requests : List ModemRequest} {k : ℕ} {message : Str}
    (h : FirstError sendRequest timeout requests k message) :
    sendParts sendRequest timeout 0 none requests = .ok (false, some (.error message)) := by
  -- after `j` parts the error is still ahead
  have hfrom : ∀ (d j : ℕ) (last : Option (ModemResponse X)), j + d = k →
      ModemSender.sendParts sendRequest timeout j last (requests.drop j) =
        .ok (false, some (.error message)) := by
    intro d
    induction d with
    | zero =>
      intro j last hj
      obtain rfl : j = k := hj
      obtain ⟨request, hget, hrefused⟩ := h.refused
      rw [List.drop_eq_getElem?_toList_append, hget, Option.toList_some, List.singleton_append,
        ModemSender.sendParts, hrefused]
    | succ d ih =>
      intro j last hj
      obtain ⟨request, response, hget, htaken, hresponse⟩ := h.taken j (by omega)
      rw [List.drop_eq_getElem?_toList_append, hget, Option.toList_some, List.singleton_append,
        sendParts_of_not_isError htaken hresponse]
      exact ih (j + 1) (some response) (by omega)
  exact hfrom k 0 none (Nat.zero_add k)

end ModemSender

end SmsServer
