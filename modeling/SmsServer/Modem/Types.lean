import SmsServer.Sms.Types

/-!
# Requests, responses and events of the modem

The data of `modem/types.rs`, with what the modem code needs of crates outside the repository
collected in one parameter record `Crates`.
-/

namespace SmsServer

open RustStd

/-- A decoded SMS-DELIVER message: the user data header components `(id, data)` and the text. -/
structure DecodedMessage where
  udh : Option (List (UInt8 × List UInt8))
  text : Str

/-- What the modem code calls in crates whose source is not part of the repository: the GNSS
records and the multipart header of `sms-types`, the PDU decoder of `sms-pdu`, and `hex`.
Errors are their `Display` texts. -/
structure Crates where
  /-- `sms_types::gnss::FixStatus`. -/
  FixStatus : Type
  fixStatusTryFrom : Str → Except Str FixStatus
  /-- `sms_types::gnss::PositionReport`. -/
  PositionReport : Type
  /-- `PositionReport::try_from`, `none` where it panics. -/
  positionReportTryFrom : List Str → Option (Except Str PositionReport)
  /-- It is a fallible conversion, and is taken not to panic. -/
  positionReportTryFrom_returns : ∀ fields, (positionReportTryFrom fields).isSome
  hexDecode : Str → Except Str (List UInt8)
  /-- `sms_pdu::pdu::DeliverPdu`. -/
  DeliverPdu : Type
  deliverPduTryFrom : List UInt8 → Except Str DeliverPdu
  originatingAddress : DeliverPdu → Str
  decodeMessage : DeliverPdu → Except Str DecodedMessage
  multipartHeaderTryFrom : List UInt8 → Except Str SmsMultipartHeader
  /-- `sms_pdu::pdu::StatusReportPdu`. -/
  StatusReportPdu : Type
  statusReportPduTryFrom : List UInt8 → Except Str StatusReportPdu
  reportStatus : StatusReportPdu → UInt8
  recipientAddress : StatusReportPdu → Str
  messageReference : StatusReportPdu → UInt8

/-- What `PositionReport::try_from` returns. -/
def Crates.positionReport (X : Crates) (fields : List Str) : Except Str X.PositionReport :=
  (X.positionReportTryFrom fields).get (X.positionReportTryFrom_returns fields)

/-- Decoders that accept nothing, for runs in which nothing has to be decoded. -/
def Crates.rejecting : Crates where
  FixStatus := Unit
  fixStatusTryFrom _ := .error "Invalid fix status".toList
  PositionReport := Unit
  positionReportTryFrom _ := some (.error "Invalid position report".toList)
  positionReportTryFrom_returns _ := rfl
  hexDecode _ := .error "Invalid hex".toList
  DeliverPdu := Unit
  deliverPduTryFrom _ := .error "Invalid PDU".toList
  originatingAddress _ := []
  decodeMessage _ := .error "Invalid message".toList
  multipartHeaderTryFrom _ := .error "Invalid header".toList
  StatusReportPdu := Unit
  statusReportPduTryFrom _ := .error "Invalid PDU".toList
  reportStatus _ := 0
  recipientAddress _ := []
  messageReference _ := 0

/-- A duration or an instant of the monotonic clock, in milliseconds. -/
abbrev Millis := ℕ

/-- `Duration::from_secs`. -/
def fromSecs (secs : ℕ) : Millis := secs * 1000

/-! ### Requests and responses -/

inductive ModemRequest
  | sendSms (len : ℕ) (pdu : Str)
  | getNetworkStatus
  | getSignalStrength
  | getNetworkOperator
  | getServiceProvider
  | getBatteryLevel
  | getGnssStatus
  | getGnssLocation
  deriving DecidableEq, Repr

namespace ModemRequest

def timeoutSms : Millis := fromSecs 30

def timeoutDefault : Millis := fromSecs 5

def getDefaultTimeout : ModemRequest → Millis
  | sendSms .. => timeoutSms
  | _ => timeoutDefault

def expectedResponsePrefix : ModemRequest → Str
  | sendSms .. => "+CMGS:".toList
  | getNetworkStatus => "+CREG:".toList
  | getSignalStrength => "+CSQ:".toList
  | getNetworkOperator => "+COPS:".toList
  | getServiceProvider => "+CSPN:".toList
  | getBatteryLevel => "+CBC:".toList
  | getGnssStatus => "+CGPSSTATUS:".toList
  | getGnssLocation => "+CGNSINF:".toList

end ModemRequest

inductive ModemResponse (X : Crates)
  | sendResult (reference : UInt8)
  | networkStatus (registration technology : UInt8)
  | signalStrength (rssi ber : Int32)
  | networkOperator (status format : UInt8) (operator : Str)
  | serviceProvider (operator : Str)
  | batteryLevel (status charge : UInt8) (voltage : Float32)
  | gnssStatus (status : X.FixStatus)
  | gnssLocation (location : X.PositionReport)
  | error (message : Str)

namespace ModemResponse

variable {X : Crates}

/-- The response is a `ModemResponse::Error`. -/
def IsError : ModemResponse X → Prop
  | error _ => True
  | _ => False

end ModemResponse

inductive ModemStatus
  | startup
  | online
  | shuttingDown
  | offline
  deriving DecidableEq, Repr

/-! ### Unsolicited messages -/

inductive UnsolicitedMessageKind
  | incomingSms
  | deliveryReport
  | networkStatusChange
  | shuttingDown
  | gnssPositionReport
  deriving DecidableEq, Repr

namespace UnsolicitedMessageKind

def fromHeader (header : Str) : Option UnsolicitedMessageKind :=
  if startsWith header "+CMT".toList then some incomingSms
  else if startsWith header "+CDS".toList then some deliveryReport
  else if startsWith header "+CGREG:".toList then some networkStatusChange
  else if startsWith header "+UGNSINF".toList then some gnssPositionReport
  else if header = "NORMAL POWER DOWN".toList ∨ header = "POWER DOWN".toList ∨
      header = "SHUTDOWN".toList ∨ header = "POWERING DOWN".toList then some shuttingDown
  else none

/-- Whether the notification carries its data on a line of its own. -/
def hasNextLine : UnsolicitedMessageKind → Bool
  | shuttingDown => false
  | gnssPositionReport => false
  | _ => true

end UnsolicitedMessageKind

/-- A classified line or prompt, as the state machine consumes it. -/
inductive ModemEvent
  | unsolicitedMessage (messageKind : UnsolicitedMessageKind) (header : Str)
  | commandResponse (content : Str)
  | data (content : Str)
  | prompt (content : Str)
  deriving DecidableEq, Repr

/-- What the modem task sends to the rest of the application. -/
inductive ModemIncomingMessage (X : Crates)
  | incomingSms (message : SmsIncomingMessage)
  | deliveryReport (report : SmsPartialDeliveryReport)
  | modemStatusUpdate (previous current : ModemStatus)
  | networkStatusChange (status : UInt8)
  | gnssPositionReport (report : X.PositionReport)

end SmsServer
