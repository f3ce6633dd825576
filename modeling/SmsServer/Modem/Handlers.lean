import SmsServer.Library.Utf8
import SmsServer.Modem.Commands
import SmsServer.Modem.Parsers

/-!
# Command and message handlers

`modem/handlers.rs`: what is written to the modem when a command starts and when a prompt
arrives, how an unsolicited message is decoded, and how a finished response buffer becomes a
`ModemResponse`. Writes and status changes are queued as worker events.
-/

namespace SmsServer

open RustStd

variable {X : Crates}

/-- Certain carriers answer automated test numbers with an alphanumeric sender. -/
def getRealNumber (phoneNumber : Str) : Str :=
  if phoneNumber = "ASDAmobile".toList then "2732".toList else phoneNumber

namespace ModemEventHandlers

/-- `worker_event_tx.send`, which fails when the worker is gone. -/
def send (peers : Peers) (event : WorkerEvent) (context : String) : Outcome X Str Unit :=
  if peers.eventRx then ⟨[.workerEvent event], .ok ()⟩ else ⟨[], .error context.toList⟩

def write (peers : Peers) (data : List UInt8) : Outcome X Str Unit :=
  send peers (.writeCommand data) "Failed to send write command event"

def setStatus (peers : Peers) (status : ModemStatus) : Outcome X Str Unit :=
  send peers (.setStatus status) "Failed to send status change event"

/-- The AT command of a request, with its terminator. -/
def atCommand : ModemRequest → Str
  | .sendSms len _ => "AT+CMGS=".toList ++ showNat len ++ "\r\n".toList
  | .getNetworkStatus => "AT+CREG?\r\n".toList
  | .getSignalStrength => "AT+CSQ\r\n".toList
  | .getNetworkOperator => "AT+COPS?\r\n".toList
  | .getServiceProvider => "AT+CSPN?\r\n".toList
  | .getBatteryLevel => "AT+CBC\r\n".toList
  | .getGnssStatus => "AT+CGPSSTATUS?\r\n".toList
  | .getGnssLocation => "AT+CGNSINF\r\n".toList

/-- The state a request is in once its AT command is queued. -/
def initialState : ModemRequest → CommandState
  | .sendSms .. => .waitingForPrompt
  | _ => .waitingForData

def commandSender (peers : Peers) (request : ModemRequest) : Outcome X Str CommandState :=
  let written := write peers (encodeUtf8 (atCommand request))
  ⟨written.effects, written.result.map fun _ => initialState request⟩

/-- The bytes that submit a PDU: the PDU and CTRL+Z. -/
def pduBytes (pdu : Str) : List UInt8 := encodeUtf8 pdu ++ [0x1A]

def promptHandler (peers : Peers) (request : ModemRequest) :
    Outcome X Str (Option CommandState) :=
  match request with
  | .sendSms _ pdu =>
    let written := write peers (pduBytes pdu)
    ⟨written.effects, written.result.map fun _ => some .waitingForOk⟩
  | _ => ⟨[], .ok none⟩

/-- The decoding of a delivered message. -/
def decodeIncomingSms (content : Str) : Except Str (ModemIncomingMessage X) := do
  let contentHex ← X.hexDecode content
  let deliverPdu ← X.deliverPduTryFrom contentHex
  let msg ← X.decodeMessage deliverPdu
  -- The multipart component of the user data header has id 0x00.
  let component := msg.udh.bind fun components => components.find? fun c => c.1 == 0x00
  let userDataHeader ←
    match component with
    | some c => (X.multipartHeaderTryFrom c.2).map some
    | none => .ok none
  return .incomingSms
    { phoneNumber := getRealNumber (X.originatingAddress deliverPdu), userDataHeader,
      content := msg.text }

/-- The decoding of a status report. -/
def decodeDeliveryReport (content : Str) : Except Str (ModemIncomingMessage X) := do
  let contentHex ← X.hexDecode content
  let statusReportPdu ← X.statusReportPduTryFrom contentHex
  return .deliveryReport
    { status := X.reportStatus statusReportPdu,
      phoneNumber := getRealNumber (X.recipientAddress statusReportPdu),
      referenceId := X.messageReference statusReportPdu }

def handleUnsolicitedMessage (peers : Peers) (messageKind : UnsolicitedMessageKind)
    (content : Str) : Outcome X Str (Option (ModemIncomingMessage X)) :=
  match messageKind with
  | .incomingSms => ⟨[], (decodeIncomingSms content).map some⟩
  | .deliveryReport => ⟨[], (decodeDeliveryReport content).map some⟩
  | .networkStatusChange => ⟨[], .ok (some (.networkStatusChange 0))⟩
  | .shuttingDown =>
    let sent := setStatus peers .shuttingDown
    ⟨sent.effects, sent.result.map fun _ => none⟩
  | .gnssPositionReport =>
    ⟨[], (parseCgnsinfResponse content true).map fun report => some (.gnssPositionReport report)⟩

def commandResponder (request : ModemRequest) (response : Str) : Except Str (ModemResponse X) :=
  if ¬ endsWith (trimEnd response) "OK".toList then
    .error "Modem response does not end with OK".toList
  else
    match request with
    | .sendSms .. => do
      let reference ← parseCmgsResult response
      return .sendResult reference
    | .getNetworkStatus => do
      let (registration, technology) ← parseCregResponse response
      return .networkStatus registration technology
    | .getSignalStrength => do
      let (rssi, ber) ← parseCsqResponse response
      return .signalStrength rssi ber
    | .getNetworkOperator => do
      let (status, format, operator) ← parseCopsResponse response
      return .networkOperator status format operator
    | .getServiceProvider => do
      let operator ← parseCspnResponse response
      return .serviceProvider operator
    | .getBatteryLevel => do
      let (status, charge, voltage) ← parseCbcResponse response
      return .batteryLevel status charge voltage
    | .getGnssStatus => do
      let status ← parseCgpsstatusResponse response
      return .gnssStatus status
    | .getGnssLocation => do
      let location ← parseCgnsinfResponse response false
      return .gnssLocation location

end ModemEventHandlers

end SmsServer
