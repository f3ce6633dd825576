import SmsServer.Library.Str

/-!
# Message records

The records of the `sms-types` crate that the modem and the message store exchange, with the
fields the repository reads or writes.
-/

namespace SmsServer

open RustStd

/-- `SmsMultipartHeader`: one part of a concatenated message. -/
structure SmsMultipartHeader where
  messageReference : UInt8
  total : UInt8
  index : UInt8
  deriving DecidableEq, Repr

/-- `SmsIncomingMessage`: a message as the modem delivers it. -/
structure SmsIncomingMessage where
  phoneNumber : Str
  userDataHeader : Option SmsMultipartHeader
  content : Str
  deriving DecidableEq, Repr

/-- `SmsPartialDeliveryReport`: a delivery report as the modem delivers it. -/
structure SmsPartialDeliveryReport where
  status : UInt8
  phoneNumber : Str
  referenceId : UInt8
  deriving DecidableEq, Repr

/-- `SmsMessage`: a message as it is stored. -/
structure SmsMessage where
  phoneNumber : Str
  messageContent : Str
  messageReference : Option UInt8
  isOutgoing : Bool
  status : Option UInt8
  deriving DecidableEq, Repr

/-- `SmsOutgoingMessage`: a message to send. -/
structure SmsOutgoingMessage where
  toNumber : Str
  content : Str
  deriving DecidableEq, Repr

/-- `SmsMessage::from(&SmsOutgoingMessage)`, whose source is not part of the repository: it
copies the number and marks the message as outgoing. -/
structure FromOutgoing where
  convert : SmsOutgoingMessage → SmsMessage
  phoneNumber : ∀ m, (convert m).phoneNumber = m.toNumber
  isOutgoing : ∀ m, (convert m).isOutgoing = true

/-- The conversion that sets nothing else. -/
def FromOutgoing.copying : FromOutgoing where
  convert m :=
    { phoneNumber := m.toNumber, messageContent := m.content, messageReference := none,
      isOutgoing := true, status := none }
  phoneNumber _ := rfl
  isOutgoing _ := rfl

/-- `SmsMessage::from(&SmsIncomingMessage)`, whose source is not part of the repository: it
copies the phone number and the content. -/
structure FromIncoming where
  convert : SmsIncomingMessage → SmsMessage
  phoneNumber : ∀ m, (convert m).phoneNumber = m.phoneNumber
  content : ∀ m, (convert m).messageContent = m.content

/-- The conversion that sets nothing else. -/
def FromIncoming.copying : FromIncoming where
  convert m :=
    { phoneNumber := m.phoneNumber, messageContent := m.content, messageReference := none,
      isOutgoing := false, status := none }
  phoneNumber _ := rfl
  content _ := rfl

end SmsServer
