import SmsServer.Http.Routes
import SmsServer.Library.Client
import SmsServer.Modem.ResponseKinds

/-!
# The routes that ask the modem

The handlers of `http/routes.rs` under `/sms` and `/gnss` that send commands, built by
`modem_extract!`. A handler is a `Client` of `send_request`: it makes a request, waits, and goes on
with what the call returned. `Handlers` runs any number of them beside the worker and all its other
requesters, in any order of steps, and ties what a handler responds to the calls it made
(`run_dialogue`).

The macro's `?` leaves the whole handler. So `sms_get_device_info`, which makes five requests and
drops the errors the modem responds with, still fails as a whole as soon as a call fails
(`deviceInfo_answered`).
-/

namespace SmsServer

open RustStd Machine Client

variable {X : Crates} {A B : Type}

/-! ### What the routes respond with -/

/-- `HttpModemNetworkStatusResponse` of `sms-types`. -/
structure HttpModemNetworkStatusResponse where
  registration : UInt8
  technology : UInt8

/-- `HttpModemSignalStrengthResponse` of `sms-types`. -/
structure HttpModemSignalStrengthResponse where
  rssi : Int32
  ber : Int32

/-- `HttpModemNetworkOperatorResponse` of `sms-types`. -/
structure HttpModemNetworkOperatorResponse where
  status : UInt8
  format : UInt8
  operator : Str

/-- `HttpModemBatteryLevelResponse` of `sms-types`. -/
structure HttpModemBatteryLevelResponse where
  status : UInt8
  charge : UInt8
  voltage : Float32

/-- `HttpSmsDeviceInfoResponse` of `sms-types`. -/
structure HttpSmsDeviceInfoResponse where
  version : Str
  phoneNumber : Option Str
  serviceProvider : Option Str
  networkOperator : Option HttpModemNetworkOperatorResponse
  networkStatus : Option HttpModemNetworkStatusResponse
  battery : Option HttpModemBatteryLevelResponse
  signal : Option HttpModemSignalStrengthResponse

/-- A variant of `ModemResponse`: its name, its data as the routes give them on, and the request
that is answered with it. -/
structure ResponseVariant (X : Crates) (A : Type) where
  name : Str
  data? : ModemResponse X → Option A
  request : ModemRequest
  isSome_data? : ∀ {response : ModemResponse X}, response.IsFor request → ¬ response.IsError →
      (data? response).isSome := by
    intro response hfor herror
    cases response <;> first | rfl | exact absurd trivial herror | exact False.elim hfor
  data?_error : ∀ message, data? (.error message) = none := by
    intro message
    rfl

namespace ResponseVariant

def networkStatus : ResponseVariant X HttpModemNetworkStatusResponse where
  name := "NetworkStatus".toList
  data?
    | .networkStatus registration technology => some { registration, technology }
    | _ => none
  request := .getNetworkStatus

def signalStrength : ResponseVariant X HttpModemSignalStrengthResponse where
  name := "SignalStrength".toList
  data?
    | .signalStrength rssi ber => some { rssi, ber }
    | _ => none
  request := .getSignalStrength

def networkOperator : ResponseVariant X HttpModemNetworkOperatorResponse where
  name := "NetworkOperator".toList
  data?
    | .networkOperator status format operator => some { status, format, operator }
    | _ => none
  request := .getNetworkOperator

def serviceProvider : ResponseVariant X Str where
  name := "ServiceProvider".toList
  data?
    | .serviceProvider operator => some operator
    | _ => none
  request := .getServiceProvider

def batteryLevel : ResponseVariant X HttpModemBatteryLevelResponse where
  name := "BatteryLevel".toList
  data?
    | .batteryLevel status charge voltage => some { status, charge, voltage }
    | _ => none
  request := .getBatteryLevel

def gnssStatus : ResponseVariant X X.FixStatus where
  name := "GNSSStatus".toList
  data?
    | .gnssStatus status => some status
    | _ => none
  request := .getGnssStatus

def gnssLocation : ResponseVariant X X.PositionReport where
  name := "GNSSLocation".toList
  data?
    | .gnssLocation location => some location
    | _ => none
  request := .getGnssLocation

/-- `modem_extract!(response => variant)`. -/
def extract (debug : ModemResponse X → Str) (self : ResponseVariant X A)
    (response : ModemResponse X) : Except HttpError A :=
  match self.data? response, response with
  | some data, _ => .ok data
  | none, .error message => .error ⟨internalServerError, message⟩
  | none, other => .error ⟨internalServerError,
      "Unexpected response: expected ".toList ++ self.name ++ ", got ".toList ++ debug other⟩

/-- A response to the request of the variant is never an unexpected one: what is extracted are its
data, or the error it is. -/
theorem extract_cases (self : ResponseVariant X A) (debug : ModemResponse X → Str)
    {response : ModemResponse X} (h : response.IsFor self.request) :
    (∃ data, self.data? response = some data ∧ self.extract debug response = .ok data) ∨
      ∃ message, response = .error message ∧
        self.extract debug response = .error ⟨internalServerError, message⟩ := by
  by_cases herror : response.IsError
  · cases response with
    | error message => exact .inr ⟨message, rfl, by simp only [extract, self.data?_error]⟩
    | _ => exact herror.elim
  · obtain ⟨data, hdata⟩ := Option.isSome_iff_exists.mp (self.isSome_data? h herror)
    exact .inl ⟨data, hdata, by simp only [extract, hdata]⟩

/-- A field holds the data of a response, and is empty exactly for an error. -/
structure FilledBy (self : ResponseVariant X A) (response : ModemResponse X) (field : Option A) :
    Prop where
  data : field = self.data? response
  empty : field = none ↔ response.IsError

theorem filledBy_extract {debug : ModemResponse X → Str} (self : ResponseVariant X A)
    {response : ModemResponse X} (h : response.IsFor self.request) :
    self.FilledBy response (self.extract debug response).toOption := by
  rcases self.extract_cases debug h with ⟨data, hdata, hextract⟩ | ⟨_, rfl, hextract⟩
  · rw [hextract]
    refine ⟨hdata.symm, nofun, fun herror => ?_⟩
    cases response with
    | error message => cases (self.data?_error message).symm.trans hdata
    | _ => exact herror.elim
  · rw [hextract]
    exact ⟨(self.data?_error _).symm, fun _ => trivial, fun _ => rfl⟩

end ResponseVariant

/-! ### Handlers -/

/-- A handler, in which `?` leaves with an error. -/
abbrev Handler (X : Crates) (A : Type) :=
  ExceptT HttpError (Client ModemRequest (Except Str (ModemResponse X))) A

/-- `sms_manager.send_command(request).await.map_err(…)?`. -/
def sendCommand (request : ModemRequest) : Handler X (ModemResponse X) :=
  .mk do return (← ask request).mapError (HttpError.mk internalServerError)

/-- `modem_extract!(sms_manager, request => variant)`. -/
def modemExtract (debug : ModemResponse X → Str) (request : ModemRequest)
    (variant : ResponseVariant X A) : Handler X (Except HttpError A) := do
  let response ← sendCommand request
  return variant.extract debug response

/-- A handler that makes one request and responds with the data of its variant. -/
def queryHandler (debug : ModemResponse X → Str) (request : ModemRequest)
    (variant : ResponseVariant X A) : Handler X A := do
  let data ← modemExtract debug request variant
  .mk (return data)

/-- What the handlers are configured with, and how responses are printed for debugging. -/
structure ModemRouteState (X : Crates) where
  debug : ModemResponse X → Str
  version : Str
  phoneNumber : Option Str

namespace ModemRouteState

variable (state : ModemRouteState X)

def smsGetNetworkStatus : Handler X HttpModemNetworkStatusResponse :=
  queryHandler state.debug .getNetworkStatus .networkStatus

def smsGetSignalStrength : Handler X HttpModemSignalStrengthResponse :=
  queryHandler state.debug .getSignalStrength .signalStrength

def smsGetNetworkOperator : Handler X HttpModemNetworkOperatorResponse :=
  queryHandler state.debug .getNetworkOperator .networkOperator

def smsGetServiceProvider : Handler X Str :=
  queryHandler state.debug .getServiceProvider .serviceProvider

def smsGetBatteryLevel : Handler X HttpModemBatteryLevelResponse :=
  queryHandler state.debug .getBatteryLevel .batteryLevel

def gnssGetStatus : Handler X X.FixStatus :=
  queryHandler state.debug .getGnssStatus .gnssStatus

def gnssGetLocation : Handler X X.PositionReport :=
  queryHandler state.debug .getGnssLocation .gnssLocation

def smsGetDeviceInfo : Handler X HttpSmsDeviceInfoResponse := do
  let serviceProvider ← modemExtract state.debug .getServiceProvider .serviceProvider
  let networkOperator ← modemExtract state.debug .getNetworkOperator .networkOperator
  let networkStatus ← modemExtract state.debug .getNetworkStatus .networkStatus
  let battery ← modemExtract state.debug .getBatteryLevel .batteryLevel
  let signal ← modemExtract state.debug .getSignalStrength .signalStrength
  return {
    version := state.version
    phoneNumber := state.phoneNumber
    serviceProvider := serviceProvider.toOption
    networkOperator := networkOperator.toOption
    networkStatus := networkStatus.toOption
    battery := battery.toOption
    signal := signal.toOption }

end ModemRouteState

/-- The routes that ask the modem. -/
inductive ModemRoute
  | smsNetworkStatus
  | smsSignalStrength
  | smsNetworkOperator
  | smsServiceProvider
  | smsBatteryLevel
  | smsDeviceInfo
  | gnssStatus
  | gnssLocation
  deriving DecidableEq, Repr

namespace ModemRoute

/-- The type of the response. -/
def Body (X : Crates) : ModemRoute → Type
  | smsNetworkStatus => HttpModemNetworkStatusResponse
  | smsSignalStrength => HttpModemSignalStrengthResponse
  | smsNetworkOperator => HttpModemNetworkOperatorResponse
  | smsServiceProvider => Str
  | smsBatteryLevel => HttpModemBatteryLevelResponse
  | smsDeviceInfo => HttpSmsDeviceInfoResponse
  | gnssStatus => X.FixStatus
  | gnssLocation => X.PositionReport

def handler (state : ModemRouteState X) : (route : ModemRoute) → Handler X (route.Body X)
  | smsNetworkStatus => state.smsGetNetworkStatus
  | smsSignalStrength => state.smsGetSignalStrength
  | smsNetworkOperator => state.smsGetNetworkOperator
  | smsServiceProvider => state.smsGetServiceProvider
  | smsBatteryLevel => state.smsGetBatteryLevel
  | smsDeviceInfo => state.smsGetDeviceInfo
  | gnssStatus => state.gnssGetStatus
  | gnssLocation => state.gnssGetLocation

/-- The requests that a handler may make, in order. -/
def requests : ModemRoute → List ModemRequest
  | smsNetworkStatus => [.getNetworkStatus]
  | smsSignalStrength => [.getSignalStrength]
  | smsNetworkOperator => [.getNetworkOperator]
  | smsServiceProvider => [.getServiceProvider]
  | smsBatteryLevel => [.getBatteryLevel]
  | smsDeviceInfo => [.getServiceProvider, .getNetworkOperator, .getNetworkStatus,
      .getBatteryLevel, .getSignalStrength]
  | gnssStatus => [.getGnssStatus]
  | gnssLocation => [.getGnssLocation]

end ModemRoute

/-! ### Dialogues of the handlers -/

section

variable {debug : ModemResponse X → Str} {request : ModemRequest} {variant : ResponseVariant X A}
  {log : List (ModemRequest × Except Str (ModemResponse X))}

theorem dialogue_sendCommand {outcome : Except HttpError (ModemResponse X)} :
    (sendCommand request : Handler X _).run.Dialogue log outcome ↔
      ∃ result, log = [(request, result)] ∧
        outcome = result.mapError (HttpError.mk internalServerError) := by
  refine dialogue_bind.trans ⟨?_, ?_⟩
  · rintro ⟨log₁, _, result, rfl, hask, rfl, rfl⟩
    exact ⟨result, by rw [dialogue_ask.mp hask, List.append_nil], rfl⟩
  · rintro ⟨result, rfl, rfl⟩
    exact ⟨_, [], result, (List.append_nil _).symm, dialogue_ask.mpr rfl, rfl, rfl⟩

theorem dialogue_modemExtract {outcome : Except HttpError (Except HttpError A)} :
    (modemExtract debug request variant).run.Dialogue log outcome ↔
      (∃ message, log = [(request, .error message)] ∧
        outcome = .error ⟨internalServerError, message⟩) ∨
      ∃ response, log = [(request, .ok response)] ∧
        outcome = .ok (variant.extract debug response) := by
  rw [modemExtract, dialogue_exceptBind]
  constructor
  · rintro (⟨error, hsend, rfl⟩ | ⟨_, _, response, rfl, hsend, rfl, rfl⟩)
    · obtain ⟨_ | response, rfl, heq⟩ := dialogue_sendCommand.mp hsend
      · obtain rfl := Except.error.inj heq
        exact .inl ⟨_, rfl, rfl⟩
      · cases heq
    · obtain ⟨_ | response', rfl, heq⟩ := dialogue_sendCommand.mp hsend
      · cases heq
      · obtain rfl := Except.ok.inj heq
        exact .inr ⟨response, rfl, rfl⟩
  · rintro (⟨message, rfl, rfl⟩ | ⟨response, rfl, rfl⟩)
    · exact .inl ⟨_, dialogue_sendCommand.mpr ⟨.error message, rfl, rfl⟩, rfl⟩
    · exact .inr ⟨_, [], response, rfl, dialogue_sendCommand.mpr ⟨.ok response, rfl, rfl⟩, rfl, rfl⟩

/-- What follows the macro is left out if the call fails. -/
theorem dialogue_modemExtract_bind {f : Except HttpError A → Handler X B}
    {outcome : Except HttpError B} :
    (modemExtract debug request variant >>= f).run.Dialogue log outcome ↔
      (∃ message, log = [(request, .error message)] ∧
        outcome = .error ⟨internalServerError, message⟩) ∨
      ∃ response rest, log = (request, .ok response) :: rest ∧
        (f (variant.extract debug response)).run.Dialogue rest outcome := by
  simp only [dialogue_exceptBind, dialogue_modemExtract]
  constructor
  · rintro (⟨_, ⟨message, rfl, heq⟩ | ⟨_, -, heq⟩, rfl⟩ |
      ⟨_, rest, _, rfl, ⟨_, -, heq⟩ | ⟨response, rfl, heq⟩, hrest⟩)
    · obtain rfl := Except.error.inj heq
      exact .inl ⟨message, rfl, rfl⟩
    · cases heq
    · cases heq
    · obtain rfl := Except.ok.inj heq
      exact .inr ⟨response, rest, rfl, hrest⟩
  · rintro (⟨message, rfl, rfl⟩ | ⟨response, rest, rfl, hrest⟩)
    · exact .inl ⟨_, .inl ⟨message, rfl, rfl⟩, rfl⟩
    · exact .inr ⟨_, rest, _, rfl, .inr ⟨response, rfl, rfl⟩, hrest⟩

theorem dialogue_queryHandler {outcome : Except HttpError A} :
    (queryHandler debug request variant).run.Dialogue log outcome ↔
      (∃ message, log = [(request, .error message)] ∧
        outcome = .error ⟨internalServerError, message⟩) ∨
      ∃ response, log = [(request, .ok response)] ∧ outcome = variant.extract debug response := by
  rw [queryHandler, dialogue_modemExtract_bind]
  refine or_congr_right (exists_congr fun response => ⟨?_, ?_⟩)
  · rintro ⟨_, rfl, rfl, rfl⟩
    exact ⟨rfl, rfl⟩
  · rintro ⟨rfl, rfl⟩
    exact ⟨[], rfl, rfl, rfl⟩

/-- The calls of a log were answered in kind. -/
def InKind (log : List (ModemRequest × Except Str (ModemResponse X))) : Prop :=
  ∀ p ∈ log, ∀ response, p.2 = .ok response → response.IsFor p.1

/-- An error of a handler with one request is that of the call, or the one the modem responded. -/
theorem error_queryHandler {error : HttpError} (hkind : InKind log)
    (h : (queryHandler debug request variant).run.Dialogue log (.error error))
    (hrequest : variant.request = request) :
    error.status = internalServerError ∧
      ∃ p ∈ log, p.2 = .error error.message ∨ p.2 = .ok (.error error.message) := by
  rcases dialogue_queryHandler.mp h with ⟨message, rfl, heq⟩ | ⟨response, rfl, heq⟩
  · obtain rfl := Except.error.inj heq
    exact ⟨rfl, _, List.mem_singleton_self _, .inl rfl⟩
  · have hfor : response.IsFor variant.request :=
      hrequest ▸ hkind _ (List.mem_singleton_self _) response rfl
    rcases variant.extract_cases debug hfor with ⟨data, -, hdata⟩ | ⟨message, rfl, herror⟩
    · cases heq.trans hdata
    · obtain rfl := Except.error.inj (heq.trans herror)
      exact ⟨rfl, _, List.mem_singleton_self _, .inr rfl⟩

end

namespace ModemRoute

variable {state : ModemRouteState X} {log : List (ModemRequest × Except Str (ModemResponse X))}

/-- The device information takes five responses, or ends with the first call that fails. -/
theorem dialogue_deviceInfo {outcome : Except HttpError HttpSmsDeviceInfoResponse}
    (h : state.smsGetDeviceInfo.run.Dialogue log outcome) :
    (∃ provider operator status battery signal : ModemResponse X,
      log = [(.getServiceProvider, .ok provider), (.getNetworkOperator, .ok operator),
        (.getNetworkStatus, .ok status), (.getBatteryLevel, .ok battery),
        (.getSignalStrength, .ok signal)] ∧
      outcome = .ok {
        version := state.version
        phoneNumber := state.phoneNumber
        serviceProvider :=
          (ResponseVariant.serviceProvider.extract state.debug provider).toOption
        networkOperator :=
          (ResponseVariant.networkOperator.extract state.debug operator).toOption
        networkStatus := (ResponseVariant.networkStatus.extract state.debug status).toOption
        battery := (ResponseVariant.batteryLevel.extract state.debug battery).toOption
        signal := (ResponseVariant.signalStrength.extract state.debug signal).toOption }) ∨
    ∃ front request message, log = front ++ [(request, .error message)] ∧
      (∀ p ∈ front, ∃ response, p.2 = .ok response) ∧
      front.map Prod.fst ++ [request] <+: smsDeviceInfo.requests ∧
      outcome = .error ⟨internalServerError, message⟩ := by
  simp only [ModemRouteState.smsGetDeviceInfo, dialogue_modemExtract_bind, dialogue_run_pure] at h
  -- after so many responses, the next call fails, or all are there
  rcases h with ⟨_, rfl, rfl⟩ | ⟨provider, _, rfl, ⟨_, rfl, rfl⟩ | ⟨operator, _, rfl,
    ⟨_, rfl, rfl⟩ | ⟨status, _, rfl, ⟨_, rfl, rfl⟩ | ⟨battery, _, rfl, ⟨_, rfl, rfl⟩ |
    ⟨signal, _, rfl, rfl, rfl⟩⟩⟩⟩⟩
  · exact .inr ⟨[], _, _, rfl, by simp, by simp [requests], rfl⟩
  · exact .inr ⟨[(_, .ok provider)], _, _, rfl, by simp, by simp [requests], rfl⟩
  · exact .inr ⟨[(_, .ok provider), (_, .ok operator)], _, _, rfl, by simp, by simp [requests], rfl⟩
  · exact .inr ⟨[(_, .ok provider), (_, .ok operator), (_, .ok status)], _, _, rfl, by simp,
      by simp [requests], rfl⟩
  · exact .inr ⟨[(_, .ok provider), (_, .ok operator), (_, .ok status), (_, .ok battery)], _, _,
      rfl, by simp, by simp [requests], rfl⟩
  · exact .inl ⟨provider, operator, status, battery, signal, rfl, rfl⟩

/-- The requests of a handler are made in order, each once at most. -/
theorem requests_dialogue {route : ModemRoute} {outcome : Except HttpError (route.Body X)}
    (h : (route.handler state).run.Dialogue log outcome) :
    log.map Prod.fst <+: route.requests := by
  have hquery : ∀ {A : Type} {debug : ModemResponse X → Str} {request : ModemRequest}
      {variant : ResponseVariant X A} {outcome : Except HttpError A},
      (queryHandler debug request variant).run.Dialogue log outcome →
      log.map Prod.fst <+: [request] := by
    intro A debug request variant outcome h
    rcases dialogue_queryHandler.mp h with ⟨message, rfl, -⟩ | ⟨response, rfl, -⟩ <;>
      exact List.prefix_refl _
  cases route with
  | smsDeviceInfo =>
    rcases dialogue_deviceInfo h with ⟨_, _, _, _, _, rfl, -⟩ |
      ⟨front, request, _, rfl, -, hfront, -⟩
    · exact List.prefix_refl _
    · simpa using hfront
  | _ => exact hquery h

/-- Whatever handler fails, it is with the error of one of its calls. -/
theorem error_dialogue {route : ModemRoute} {error : HttpError} (hkind : InKind log)
    (h : (route.handler state).run.Dialogue log (.error error)) :
    error.status = internalServerError ∧
      ∃ p ∈ log, p.2 = .error error.message ∨ p.2 = .ok (.error error.message) := by
  cases route with
  | smsDeviceInfo =>
    rcases dialogue_deviceInfo h with ⟨_, _, _, _, _, -, heq⟩ | ⟨_, _, _, rfl, -, -, heq⟩
    · cases heq
    · obtain rfl := Except.error.inj heq
      exact ⟨rfl, _, List.mem_append_right _ (List.mem_singleton_self _), .inl rfl⟩
  | _ => exact error_queryHandler hkind h rfl

end ModemRoute

end SmsServer
