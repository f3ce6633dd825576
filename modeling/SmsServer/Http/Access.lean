import Mathlib.Data.List.Nodup
import SmsServer.Http.Axum
import SmsServer.Http.Routes

/-!
# Access to the routes

`create_app` and `auth_middleware` of `http/mod.rs`. What wraps what is decided by the order of
`create_app`: the authentication is added after `/ws` and wraps all there is then, the CORS layer is
added before both, and the documentation last of all. So a request without the token reaches the
documentation and nothing else (`access`), and a preflight, which browsers send without the token,
is refused without the headers that CORS is about (`headers_set`).
-/

namespace SmsServer

open RustStd

variable {H : HttpCrate} {A B Q R : Type}

/-! ### Responses -/

/-- `StatusCode::UNAUTHORIZED`. -/
def unauthorized : ℕ := 401

def HttpError.intoResponse (self : HttpError) (axum : Axum H B Q R A) : HttpResponse H A :=
  axum.json self.status (.error { success := false, error := self.message })

/-- What a handler with its extractors comes to. -/
inductive HandlerResult (axum : Axum H B Q R A)
  /-- An extractor rejects the request, or upgrades the connection. -/
  | replied (reply : axum.Reply)
  | returned (result : Except HttpError A)

def HandlerResult.intoResponse {axum : Axum H B Q R A} : HandlerResult axum → HttpResponse H A
  | replied reply => axum.reply reply
  | returned (.ok response) => axum.json 200 (.successful { success := true, response })
  | returned (.error error) => error.intoResponse axum

abbrev RouteHandler (axum : Axum H B Q R A) := HttpRequest H B → Client Q R (HandlerResult axum)

/-- What is routed to. -/
def RouteHandler.service {axum : Axum H B Q R A} (self : RouteHandler axum) : Service H B Q R A :=
  fun request => HandlerResult.intoResponse <$> self request

/-! ### Authentication -/

def authorizationHeader (request : HttpRequest H B) : Option H.HeaderValue :=
  H.get request.headers "authorization".toList

def bearer : Str := "Bearer ".toList

/-- The token in the text of the header. -/
def tokenOf (authStr : Str) : Str := trim ((stripPrefix authStr bearer).getD authStr)

/-- The checks of `auth_middleware`. -/
def checkToken (expectedToken : Str) (request : HttpRequest H B) : Except HttpError Unit := do
  let authHeader ← (authorizationHeader request).elim
    (.error ⟨unauthorized, "Missing authorization header".toList⟩) .ok
  let authStr ← (H.toStr authHeader).elim
    (.error ⟨badRequest, "Invalid authorization header".toList⟩) .ok
  if tokenOf authStr ≠ expectedToken then
    throw ⟨unauthorized, "Invalid token".toList⟩

/-- `auth_middleware`. -/
def authMiddleware (axum : Axum H B Q R A) (expectedToken : Str) (next : Service H B Q R A) :
    Service H B Q R A := fun request =>
  match checkToken expectedToken request with
  | .ok () => next request
  | .error e => pure (e.intoResponse axum)

/-- The text is the token, after `Bearer ` or not, with any whitespace around it. A token that
itself starts or ends with whitespace is carried by no text. -/
def Carries (token text : Str) : Prop :=
  trim token = token ∧ ∃ before after : Str,
    (∀ c ∈ before, isWhitespace c) ∧ (∀ c ∈ after, isWhitespace c) ∧
      (text = bearer ++ (before ++ token ++ after) ∨
        text = before ++ token ++ after ∧ ¬ startsWith text bearer)

/-- The first `authorization` header of the request is a text that carries the token. -/
def Authorized (token : Str) (request : HttpRequest H B) : Prop :=
  ∃ value text, authorizationHeader request = some value ∧ H.toStr value = some text ∧
    Carries token text

/-- The error for a request that is not authorized. -/
def refusal (request : HttpRequest H B) : HttpError :=
  match authorizationHeader request with
  | none => ⟨unauthorized, "Missing authorization header".toList⟩
  | some value =>
    match H.toStr value with
    | none => ⟨badRequest, "Invalid authorization header".toList⟩
    | some _ => ⟨unauthorized, "Invalid token".toList⟩

theorem tokenOf_eq_iff {token text : Str} : tokenOf text = token ↔ Carries token text := by
  rw [tokenOf, Carries]
  cases h : stripPrefix text bearer with
  | some rest =>
    obtain rfl := stripPrefix_eq_some_iff.mp h
    rw [Option.getD_some, trim_eq_iff]
    refine and_congr_right fun _ => exists_congr fun before => exists_congr fun after => ?_
    constructor
    · rintro ⟨rfl, hbefore, hafter⟩
      exact ⟨hbefore, hafter, .inl rfl⟩
    · rintro ⟨hbefore, hafter, heq | ⟨-, hstarts⟩⟩
      · exact ⟨List.append_cancel_left heq, hbefore, hafter⟩
      · exact absurd (startsWith_append bearer rest) hstarts
  | none =>
    have hstarts : ¬ startsWith text bearer := by
      intro hstarts
      rw [stripPrefix, if_pos hstarts] at h
      cases h
    rw [Option.getD_none, trim_eq_iff]
    refine and_congr_right fun _ => exists_congr fun before => exists_congr fun after => ?_
    constructor
    · rintro ⟨heq, hbefore, hafter⟩
      exact ⟨hbefore, hafter, .inr ⟨heq, hstarts⟩⟩
    · rintro ⟨hbefore, hafter, rfl | ⟨heq, -⟩⟩
      · exact absurd (startsWith_append bearer _) hstarts
      · exact ⟨heq, hbefore, hafter⟩

/-- The checks let through exactly the requests with the token. -/
theorem checkToken_cases (token : Str) (request : HttpRequest H B) :
    (Authorized token request ∧ checkToken token request = .ok ()) ∨
      ¬ Authorized token request ∧ checkToken token request = .error (refusal request) := by
  rw [Authorized, checkToken, refusal]
  cases hvalue : authorizationHeader request with
  | none =>
    refine .inr ⟨?_, rfl⟩
    rintro ⟨_, _, h, -⟩
    cases h
  | some value =>
    cases htext : H.toStr value with
    | none =>
      refine .inr ⟨?_, ?_⟩
      · rintro ⟨_, _, ⟨⟩, h, -⟩
        cases htext.symm.trans h
      · simp only [Option.elim_some, Option.elim_none, bind, Except.bind, htext]
    | some text =>
      by_cases htoken : tokenOf text = token
      · refine .inl ⟨⟨value, text, rfl, htext, tokenOf_eq_iff.mp htoken⟩, ?_⟩
        simp only [Option.elim_some, bind, Except.bind, htext]
        exact if_neg (not_not_intro htoken)
      · refine .inr ⟨?_, ?_⟩
        · rintro ⟨_, text', ⟨⟩, h, hcarries⟩
          obtain rfl := Option.some.inj (htext.symm.trans h)
          exact htoken (tokenOf_eq_iff.mpr hcarries)
        · simp only [Option.elim_some, bind, Except.bind, htext]
          exact if_pos htoken

/-! ### The application -/

/-- The handlers of `http/routes.rs`, each with its extractors. -/
structure RouteHandlers (axum : Axum H B Q R A) where
  dbMessages : RouteHandler axum
  dbLatestNumbers : RouteHandler axum
  dbDeliveryReports : RouteHandler axum
  dbFriendlyNamesSet : RouteHandler axum
  dbFriendlyNamesGet : RouteHandler axum
  smsSend : RouteHandler axum
  smsGetNetworkStatus : RouteHandler axum
  smsGetSignalStrength : RouteHandler axum
  smsGetNetworkOperator : RouteHandler axum
  smsGetServiceProvider : RouteHandler axum
  smsGetBatteryLevel : RouteHandler axum
  smsGetDeviceInfo : RouteHandler axum
  gnssGetStatus : RouteHandler axum
  gnssGetLocation : RouteHandler axum
  sysPhoneNumber : RouteHandler axum
  sysVersion : RouteHandler axum
  sysSetLogLevel : RouteHandler axum
  websocketUpgrade : RouteHandler axum

/-- What `create_app` reads of `HTTPConfig`. -/
structure HttpConfig where
  requireAuthentication : Bool
  permissiveCors : Bool
  deriving DecidableEq, Repr

/-- `HTTPConfig::default`. -/
def HttpConfig.default : HttpConfig where
  requireAuthentication := true
  permissiveCors := true

def versionHeader : Str := "x-version".toList

section

variable (axum : Axum H B Q R A) (tower : TowerHttp H B Q R A)

def getRoute (path : String) (handler : RouteHandler axum) : Str × axum.MethodRouter :=
  (path.toList, axum.get handler.service)

def postRoute (path : String) (handler : RouteHandler axum) : Str × axum.MethodRouter :=
  (path.toList, axum.post handler.service)

/-- The routes of `create_app`, less `/ws`. -/
def routeTable (handlers : RouteHandlers axum) : List (Str × axum.MethodRouter) :=
  [postRoute axum "/db/messages" handlers.dbMessages,
    postRoute axum "/db/latest-numbers" handlers.dbLatestNumbers,
    postRoute axum "/db/delivery-reports" handlers.dbDeliveryReports,
    postRoute axum "/db/friendly-names/set" handlers.dbFriendlyNamesSet,
    postRoute axum "/db/friendly-names/get" handlers.dbFriendlyNamesGet,
    postRoute axum "/sms/send" handlers.smsSend,
    getRoute axum "/sms/network-status" handlers.smsGetNetworkStatus,
    getRoute axum "/sms/signal-strength" handlers.smsGetSignalStrength,
    getRoute axum "/sms/network-operator" handlers.smsGetNetworkOperator,
    getRoute axum "/sms/service-provider" handlers.smsGetServiceProvider,
    getRoute axum "/sms/battery-level" handlers.smsGetBatteryLevel,
    getRoute axum "/sms/device-info" handlers.smsGetDeviceInfo,
    getRoute axum "/gnss/status" handlers.gnssGetStatus,
    getRoute axum "/gnss/location" handlers.gnssGetLocation,
    getRoute axum "/sys/phone-number" handlers.sysPhoneNumber,
    getRoute axum "/sys/version" handlers.sysVersion,
    postRoute axum "/sys/set-log-level" handlers.sysSetLogLevel]

/-- The routes are added one after the other. -/
def addRoutes (router : axum.Router) (table : List (Str × axum.MethodRouter)) : axum.Router :=
  table.foldl (fun router entry => axum.route router entry.1 entry.2) router

/-- The routes in the layers that are added before `/ws`. -/
def layeredRoutes (config : HttpConfig) (version : Str) (handlers : RouteHandlers axum) :
    axum.Router :=
  let router := axum.layer (addRoutes axum axum.new (routeTable axum handlers))
    (tower.setResponseHeader versionHeader (H.fromStatic version))
  if config.permissiveCors then axum.layer router tower.permissiveCors else router

/-- What `create_app` has when it comes to the authentication. -/
def openApp (config : HttpConfig) (version : Str) (websocket : Bool)
    (handlers : RouteHandlers axum) : axum.Router :=
  let router := layeredRoutes axum tower config version handlers
  if websocket then
    axum.route router "/ws".toList (axum.get handlers.websocketUpgrade.service)
  else router

/-- The router with the pages of the documentation merged in, if there is any. -/
def withDocs (docs : Option axum.Router) (router : axum.Router) : axum.Router :=
  docs.elim router (axum.merge router)

/-- `create_app`, given the variable `SMS_HTTP_AUTH_TOKEN` and, if it is built in, the router of the
documentation. -/
def createApp (config : HttpConfig) (version : Str) (websocket : Bool) (authToken : Option Str)
    (docs : Option axum.Router) (handlers : RouteHandlers axum) : Except Str axum.Router := do
  let router := openApp axum tower config version websocket handlers
  let router ←
    if config.requireAuthentication then
      match authToken with
      | some token => .ok (axum.layer router (authMiddleware axum token))
      | none => .error ("Missing required SMS_HTTP_AUTH_TOKEN environment variable, and " ++
          "require_authentication is enabled!").toList
    else .ok router
  return withDocs axum docs router

end

section

variable {axum : Axum H B Q R A} {tower : TowerHttp H B Q R A} {config : HttpConfig}
  {version : Str} {websocket : Bool} {authToken : Option Str} {docs : Option axum.Router}
  {handlers : RouteHandlers axum} {app router : axum.Router} {request : HttpRequest H B}
  {token : Str}

theorem createApp_open (hauth : config.requireAuthentication = false) :
    createApp axum tower config version websocket authToken docs handlers =
      .ok (withDocs axum docs (openApp axum tower config version websocket handlers)) := by
  unfold createApp
  rw [hauth, if_neg Bool.false_ne_true]
  rfl

theorem createApp_guarded (hauth : config.requireAuthentication = true) :
    createApp axum tower config version websocket (some token) docs handlers =
      .ok (withDocs axum docs
        (axum.layer (openApp axum tower config version websocket handlers)
          (authMiddleware axum token))) := by
  unfold createApp
  rw [hauth, if_pos rfl]
  rfl

theorem createApp_refused (hauth : config.requireAuthentication = true) :
    createApp axum tower config version websocket none docs handlers ≠ .ok app := by
  unfold createApp
  rw [hauth, if_pos rfl]
  exact fun h => by cases h

/-! ### The routes that there are -/

/-- The paths of the routes that are there without a socket. -/
def routePaths : List Str :=
  ["/db/messages", "/db/latest-numbers", "/db/delivery-reports", "/db/friendly-names/set",
    "/db/friendly-names/get", "/sms/send", "/sms/network-status", "/sms/signal-strength",
    "/sms/network-operator", "/sms/service-provider", "/sms/battery-level", "/sms/device-info",
    "/gnss/status", "/gnss/location", "/sys/phone-number", "/sys/version",
    "/sys/set-log-level"].map String.toList

/-- The request is for the socket, and there is one. -/
def OnSocket (websocket : Bool) (request : HttpRequest H B) : Prop :=
  websocket ∧ request.path = "/ws".toList

/-- The request is for one of the routes. -/
def Routed (websocket : Bool) (request : HttpRequest H B) : Prop :=
  request.path ∈ routePaths ∨ OnSocket websocket request

theorem paths_routeTable : (routeTable axum handlers).map Prod.fst = routePaths := rfl

theorem hasRoute_addRoutes {table : List (Str × axum.MethodRouter)} {path : Str}
    (hliteral : ∀ pattern ∈ table.map Prod.fst, isLiteral pattern) :
    axum.HasRoute (addRoutes axum router table) path ↔
      axum.HasRoute router path ∨ path ∈ table.map Prod.fst := by
  induction table generalizing router with
  | nil => exact (or_iff_left List.not_mem_nil).symm
  | cons entry table ih =>
    obtain ⟨hentry, htable⟩ := List.forall_mem_cons.mp hliteral
    show axum.HasRoute (addRoutes axum (axum.route router entry.1 entry.2) table) path ↔ _
    rw [ih htable, axum.hasRoute_route _ _ _ _ hentry, List.map_cons, List.mem_cons, or_assoc]

theorem isLiteral_routeTable :
    ∀ pattern ∈ (routeTable axum handlers).map Prod.fst, isLiteral pattern := by
  rw [paths_routeTable]
  decide

theorem nodup_routeTable : ((routeTable axum handlers).map Prod.fst).Nodup := by
  rw [paths_routeTable]
  decide

theorem hasRoute_layeredRoutes {path : Str} :
    axum.HasRoute (layeredRoutes axum tower config version handlers) path ↔
      path ∈ routePaths := by
  have hroutes : axum.HasRoute (addRoutes axum axum.new (routeTable axum handlers)) path ↔
      path ∈ routePaths := by
    rw [hasRoute_addRoutes isLiteral_routeTable, paths_routeTable]
    exact or_iff_right (axum.hasRoute_new path)
  rw [layeredRoutes]
  split
  · rw [axum.hasRoute_layer, axum.hasRoute_layer, hroutes]
  · rw [axum.hasRoute_layer, hroutes]

/-- The routes of `create_app`, whatever is wrapped around them. -/
theorem hasRoute_openApp :
    axum.HasRoute (openApp axum tower config version websocket handlers) request.path ↔
      Routed websocket request := by
  rw [openApp, Routed, OnSocket]
  split
  · next hwebsocket =>
    rw [axum.hasRoute_route _ _ _ _ (by decide), hasRoute_layeredRoutes, hwebsocket]
    simp only [true_and]
  · next hwebsocket =>
    exact hasRoute_layeredRoutes.trans (or_iff_left fun h => hwebsocket h.1).symm

/-! ### Who is let through -/

/-- No page of the documentation has the path of the request. A path that neither the app nor the
documentation has is left open if there is documentation. -/
def OutsideDocs (websocket : Bool) (docs : Option axum.Router) (request : HttpRequest H B) : Prop :=
  ∀ pages ∈ docs, Routed websocket request ∧ ¬ axum.HasRoute pages request.path

theorem outsideDocs_none : OutsideDocs websocket (none : Option axum.Router) request := by
  rintro _ ⟨⟩

theorem serve_outsideDocs (hdocs : OutsideDocs websocket docs request)
    (hrouter : axum.HasRoute router request.path ↔ Routed websocket request) :
    axum.serve (withDocs axum docs router) request = axum.serve router request := by
  cases docs with
  | none => rfl
  | some pages =>
    obtain ⟨hrouted, hpages⟩ := hdocs pages rfl
    obtain ⟨hendpoint, hfinish⟩ := axum.merge_left _ _ _ (hrouter.mpr hrouted) hpages
    show axum.serve (axum.merge router pages) request = _
    rw [Axum.serve, Axum.serve, hendpoint, hfinish]

theorem serve_docs {pages : axum.Router} (hpages : axum.HasRoute pages request.path)
    (hrouter : ¬ axum.HasRoute router request.path) :
    axum.serve (withDocs axum (some pages) router) request = axum.serve pages request := by
  obtain ⟨hendpoint, hfinish⟩ := axum.merge_right _ _ _ hrouter hpages
  show axum.serve (axum.merge router pages) request = _
  rw [Axum.serve, Axum.serve, hendpoint, hfinish]

/-- Behind the authentication, a request with the token is answered as before, and any other one by
its refusal. -/
theorem serve_guarded_cases :
    (Authorized token request ∧
        axum.serve (axum.layer router (authMiddleware axum token)) request =
          axum.serve router request) ∨
      ¬ Authorized token request ∧
        axum.serve (axum.layer router (authMiddleware axum token)) request =
          pure (axum.finish router request.path request.method
            ((refusal request).intoResponse axum)) := by
  rw [Axum.serve, Axum.serve, axum.endpoint_layer, axum.finish_layer, authMiddleware]
  rcases checkToken_cases token request with ⟨hok, hcheck⟩ | ⟨hnot, hcheck⟩
  · exact .inl ⟨hok, by rw [hcheck]⟩
  · exact .inr ⟨hnot, by rw [hcheck]; rfl⟩

/-- The response is the refusal of the request; to `HEAD` it has no body. -/
def Refuses (response : HttpResponse H A) (request : HttpRequest H B) : Prop :=
  response.status = (refusal request).status ∧
    (request.method ≠ .head → response.body = .error ⟨false, (refusal request).message⟩)

theorem refuses_finish :
    Refuses (axum.finish router request.path request.method
      ((refusal request).intoResponse axum)) request := by
  constructor
  · rw [axum.status_finish, HttpError.intoResponse, axum.status_json]
  · intro hmethod
    rw [axum.body_finish _ _ _ _ hmethod, HttpError.intoResponse, axum.body_json]

/-- **Access.** With the token set, a request that carries it is answered as it is without
authentication, and any other one by its refusal, with no call made: whatever its method and its
path, `/ws` and those that are not found included. Only the pages of the documentation are served
to everyone. -/
theorem access (axum : Axum H B Q R A) (tower : TowerHttp H B Q R A) (config : HttpConfig)
    (version : Str) (websocket : Bool) (docs : Option axum.Router) (handlers : RouteHandlers axum)
    (hauth : config.requireAuthentication = true) (htoken : authToken = some token) :
    ∃ app opened, createApp axum tower config version websocket authToken docs handlers = .ok app ∧
      createApp axum tower { config with requireAuthentication := false } version websocket
        authToken docs handlers = .ok opened ∧
      ∀ request,
        (OutsideDocs websocket docs request →
          (Authorized token request ∧ axum.serve app request = axum.serve opened request) ∨
            ¬ Authorized token request ∧
              ∃ response, axum.serve app request = pure response ∧ Refuses response request) ∧
        ∀ pages ∈ docs, axum.HasRoute pages request.path → ¬ Routed websocket request →
          axum.serve app request = axum.serve pages request := by
  subst htoken
  refine ⟨_, _, createApp_guarded hauth, createApp_open rfl, fun request => ⟨fun hdocs => ?_, ?_⟩⟩
  · rw [serve_outsideDocs hdocs ((axum.hasRoute_layer _ _ _).trans hasRoute_openApp),
      serve_outsideDocs hdocs hasRoute_openApp]
    refine serve_guarded_cases.imp_right fun ⟨hnot, heq⟩ => ⟨hnot, _, heq, refuses_finish⟩
  · rintro pages rfl hpages hrouted
    refine serve_docs hpages ?_
    rwa [axum.hasRoute_layer, hasRoute_openApp]

/-- How bodies without a result are sent, if no text needs an escape. -/
def renderBody : Body Unit → Str
  | .empty => []
  | .text message => message
  | .successful _ => "\x7b\"success\":true,\"response\":null\x7d".toList
  | .error response => "\x7b\"success\":false,\"error\":\"".toList ++ response.error ++
      "\"\x7d".toList

abbrev unitAxum : Axum .lists Unit Unit Unit Unit := .tables renderBody

/-- A request to `/sys/version` whose `authorization` header has the text, if one is given. -/
def versionRequest (authorization : Option String) : HttpRequest .lists Unit where
  method := .get
  path := "/sys/version".toList
  headers := authorization.toList.map fun text =>
    ("authorization".toList, text.toList.map fun c => c.val.toUInt8)
  rest := ()

/-- Every handler is the same. -/
def RouteHandlers.all (handler : RouteHandler axum) : RouteHandlers axum where
  dbMessages := handler
  dbLatestNumbers := handler
  dbDeliveryReports := handler
  dbFriendlyNamesSet := handler
  dbFriendlyNamesGet := handler
  smsSend := handler
  smsGetNetworkStatus := handler
  smsGetSignalStrength := handler
  smsGetNetworkOperator := handler
  smsGetServiceProvider := handler
  smsGetBatteryLevel := handler
  smsGetDeviceInfo := handler
  gnssGetStatus := handler
  gnssGetLocation := handler
  sysPhoneNumber := handler
  sysVersion := handler
  sysSetLogLevel := handler
  websocketUpgrade := handler

/-- Every handler makes a call. -/
def RouteHandlers.calling : RouteHandlers unitAxum :=
  .all fun _ => do
    Client.ask ()
    return .returned (.ok ())

/-- Without the header, `/sys/version` is refused and no handler is called. -/
theorem access_missingHeader :
    ∃ app response,
      createApp unitAxum .lists .default "3.6.1".toList true (some "secret".toList) none .calling =
        .ok app ∧
      unitAxum.serve app (versionRequest none) = pure response ∧ response.status = 401 ∧
        response.body = .error ⟨false, "Missing authorization header".toList⟩ := by
  obtain ⟨app, _, happ, -, hserve⟩ := access unitAxum .lists .default "3.6.1".toList true none
    .calling rfl (rfl : some "secret".toList = _)
  rcases (hserve (versionRequest none)).1 outsideDocs_none with
    ⟨⟨_, _, hvalue, -⟩, -⟩ | ⟨-, response, hresponse, hstatus, hbody⟩
  · cases hvalue
  · exact ⟨app, response, happ, hresponse, hstatus, hbody (by decide)⟩

/-! ### The headers of the responses -/

theorem versionHeader_notMem : versionHeader ∉ axumHeaders ∧ versionHeader ∉ corsHeaders := by
  decide

theorem allowOrigin_notMem : allowOrigin ∉ axumHeaders ∧ allowOrigin ≠ versionHeader := by
  decide

/-- A response has the same headers but for those of `axum` as what its endpoint comes to. -/
theorem hasHeader_serve {log : List (Q × R)} {response : HttpResponse H A}
    (h : (axum.serve router request).Dialogue log response) :
    ∃ inner,
      (axum.endpoint router request.path request.method request).Dialogue log inner ∧
        ∀ name ∉ axumHeaders, response.HasHeader name ↔ inner.HasHeader name := by
  obtain ⟨inner, hinner, rfl⟩ := Client.dialogue_map.mp h
  refine ⟨inner, hinner, fun name hname => ?_⟩
  rw [HttpResponse.HasHeader, axum.get_finish _ _ _ _ _ hname, HttpResponse.HasHeader]

theorem headersIn_service (handler : RouteHandler axum) :
    handler.service.HeadersIn axumHeaders := by
  intro request log response h name hname
  obtain ⟨result, -, rfl⟩ := Client.dialogue_map.mp h
  match result, hname with
  | .replied reply, hname => exact axum.headers_reply _ _ hname
  | .returned (.ok _), hname => exact axum.headers_json _ _ _ hname
  | .returned (.error _), hname => exact axum.headers_json _ _ _ hname

/-- The endpoints of a route respond with the headers of `axum` only. -/
def PlainMethods (methods : axum.MethodRouter) : Prop :=
  ∀ method, (axum.methodEndpoint methods method).HeadersIn axumHeaders

theorem plainMethods_get (handler : RouteHandler axum) :
    PlainMethods (axum.get handler.service) := by
  intro method
  by_cases h : method = .get ∨ method = .head
  · exact (axum.methodEndpoint_get _ _ h).symm ▸ headersIn_service handler
  · exact axum.get_notAllowed _ _ h

theorem plainMethods_post (handler : RouteHandler axum) :
    PlainMethods (axum.post handler.service) := by
  intro method
  by_cases h : method = .post
  · exact h ▸ (axum.methodEndpoint_post _).symm ▸ headersIn_service handler
  · exact axum.post_notAllowed _ _ h

/-- The endpoints of a router respond with the headers of `axum` only. -/
def PlainRouter (router : axum.Router) : Prop :=
  ∀ path method, (axum.endpoint router path method).HeadersIn axumHeaders

theorem plainRouter_route {pattern : Str} {methods : axum.MethodRouter}
    (hrouter : PlainRouter router) (hmethods : PlainMethods methods) (hliteral : isLiteral pattern)
    (hnew : ¬ axum.HasRoute router pattern) : PlainRouter (axum.route router pattern methods) := by
  intro path method
  by_cases h : path = pattern
  · rw [h, axum.endpoint_route _ _ _ _ hliteral hnew]
    exact hmethods method
  · rw [axum.endpoint_route_of_ne _ _ _ _ _ hliteral h]
    exact hrouter path method

theorem plainRouter_addRoutes {table : List (Str × axum.MethodRouter)}
    (hrouter : PlainRouter router) (hmethods : ∀ entry ∈ table, PlainMethods entry.2)
    (hliteral : ∀ pattern ∈ table.map Prod.fst, isLiteral pattern)
    (hnodup : (table.map Prod.fst).Nodup)
    (hnew : ∀ pattern ∈ table.map Prod.fst, ¬ axum.HasRoute router pattern) :
    PlainRouter (addRoutes axum router table) := by
  induction table generalizing router with
  | nil => exact hrouter
  | cons entry table ih =>
    obtain ⟨hentry, htable⟩ := List.forall_mem_cons.mp hmethods
    obtain ⟨hpattern, hpatterns⟩ := List.forall_mem_cons.mp hliteral
    obtain ⟨hfresh, hnodup⟩ := List.nodup_cons.mp hnodup
    obtain ⟨hentryNew, htableNew⟩ := List.forall_mem_cons.mp hnew
    refine ih (plainRouter_route hrouter hentry hpattern hentryNew) htable hpatterns hnodup ?_
    intro pattern hmem hhas
    rcases (axum.hasRoute_route _ _ _ _ hpattern).mp hhas with hhas | rfl
    · exact htableNew pattern hmem hhas
    · exact hfresh hmem

theorem plainRouter_routes : PlainRouter (addRoutes axum axum.new (routeTable axum handlers)) := by
  refine plainRouter_addRoutes axum.notFound ?_ isLiteral_routeTable nodup_routeTable
    fun pattern _ => axum.hasRoute_new pattern
  intro entry hentry
  simp only [routeTable, List.mem_cons, List.not_mem_nil, or_false] at hentry
  rcases hentry with rfl | rfl | rfl | rfl | rfl | rfl | rfl | rfl | rfl | rfl | rfl | rfl | rfl |
    rfl | rfl | rfl | rfl <;> first | exact plainMethods_post _ | exact plainMethods_get _

/-- The socket is outside the layers of the other routes. -/
theorem endpoint_onSocket (h : OnSocket websocket request) (method : Method) :
    axum.endpoint (openApp axum tower config version websocket handlers) request.path method =
      axum.methodEndpoint (axum.get handlers.websocketUpgrade.service) method := by
  obtain ⟨rfl, hpath⟩ := h
  have hnew : ¬ axum.HasRoute (layeredRoutes axum tower config version handlers) "/ws".toList := by
    rw [hasRoute_layeredRoutes]
    decide
  rw [hpath]
  exact axum.endpoint_route _ _ _ _ (by decide) hnew

theorem endpoint_offSocket (h : ¬ OnSocket websocket request) (method : Method) :
    axum.endpoint (openApp axum tower config version websocket handlers) request.path method =
      axum.endpoint (layeredRoutes axum tower config version handlers) request.path method := by
  rw [openApp]
  split
  · next hwebsocket =>
    exact axum.endpoint_route_of_ne _ _ _ _ _ (by decide) fun hpath => h ⟨hwebsocket, hpath⟩
  · rfl

variable {service : Service H B Q R A} {log : List (Q × R)} {response : HttpResponse H A}

/-- The header for the version is added, and nothing else. -/
theorem hasHeader_setResponseHeader {value : H.HeaderValue}
    (hplain : service.HeadersIn axumHeaders)
    (h : (tower.setResponseHeader versionHeader value service request).Dialogue log response) :
    response.HasHeader versionHeader ∧ ¬ response.HasHeader allowOrigin := by
  obtain ⟨inner, hinner, hget⟩ := tower.overriding _ _ _ _ _ _ h
  simp only [HttpResponse.HasHeader, hget, Function.update_self,
    Function.update_of_ne allowOrigin_notMem.2, Option.isSome_some, true_and]
  exact fun horigin => allowOrigin_notMem.1 (hplain _ _ _ hinner _ horigin)

theorem hasHeader_permissiveCors {value : H.HeaderValue} (hplain : service.HeadersIn axumHeaders)
    (h : (tower.permissiveCors (tower.setResponseHeader versionHeader value service)
      request).Dialogue log response) :
    (response.HasHeader versionHeader ↔ request.method ≠ .options) ∧
      response.HasHeader allowOrigin := by
  refine ⟨?_, tower.anyOrigin _ _ _ _ h⟩
  by_cases hoptions : request.method = .options
  · have hheaders := tower.preflight _ _ _ _ hoptions h
    exact iff_of_false (fun hversion => versionHeader_notMem.2 (hheaders _ hversion))
      (not_not_intro hoptions)
  · obtain ⟨inner, hinner, hget⟩ := tower.notPreflight _ _ _ _ hoptions h
    refine iff_of_true ?_ hoptions
    rw [HttpResponse.HasHeader, hget _ versionHeader_notMem.2]
    exact (hasHeader_setResponseHeader hplain hinner).1

/-- The headers on a response from within the layers. -/
theorem hasHeader_layeredRoutes {path : Str} {method : Method}
    (h : (axum.endpoint (layeredRoutes axum tower config version handlers) path method
      request).Dialogue log response) :
    (response.HasHeader versionHeader ↔
        ¬ (config.permissiveCors = true ∧ request.method = .options)) ∧
      (response.HasHeader allowOrigin ↔ config.permissiveCors = true) := by
  have hplain : PlainRouter (addRoutes axum axum.new (routeTable axum handlers)) :=
    plainRouter_routes
  rw [layeredRoutes] at h
  cases hcors : config.permissiveCors with
  | false =>
    rw [hcors, if_neg Bool.false_ne_true, axum.endpoint_layer] at h
    obtain ⟨hversion, horigin⟩ := hasHeader_setResponseHeader (hplain path method) h
    exact ⟨iff_of_true hversion fun h => Bool.false_ne_true h.1,
      iff_of_false horigin Bool.false_ne_true⟩
  | true =>
    rw [hcors, if_pos rfl, axum.endpoint_layer, axum.endpoint_layer] at h
    obtain ⟨hversion, horigin⟩ := hasHeader_permissiveCors (hplain path method) h
    exact ⟨hversion.trans (by simp only [true_and, ne_eq]), iff_of_true horigin rfl⟩

/-- The request may pass. -/
def Granted (config : HttpConfig) (authToken : Option Str) (request : HttpRequest H B) : Prop :=
  config.requireAuthentication = true → ∃ token, authToken = some token ∧ Authorized token request

/-- A request that may pass is answered as without authentication. -/
theorem serve_cases
    (h : createApp axum tower config version websocket authToken docs handlers = .ok app)
    (hdocs : OutsideDocs websocket docs request) :
    (Granted config authToken request ∧ axum.serve app request =
        axum.serve (openApp axum tower config version websocket handlers) request) ∨
      ¬ Granted config authToken request ∧ axum.serve app request =
        pure (axum.finish (openApp axum tower config version websocket handlers) request.path
          request.method ((refusal request).intoResponse axum)) := by
  cases hauth : config.requireAuthentication with
  | false =>
    obtain rfl := Except.ok.inj ((createApp_open hauth).symm.trans h)
    refine .inl ⟨fun h => ?_, serve_outsideDocs hdocs hasRoute_openApp⟩
    cases hauth.symm.trans h
  | true =>
    cases authToken with
    | none =>
      exact absurd h (createApp_refused hauth)
    | some token =>
      obtain rfl := Except.ok.inj ((createApp_guarded hauth).symm.trans h)
      have hgranted : Granted config (some token) request ↔ Authorized token request := by
        constructor
        · intro hgranted
          obtain ⟨_, heq, hok⟩ := hgranted hauth
          exact Option.some.inj heq ▸ hok
        · exact fun hok _ => ⟨token, rfl, hok⟩
      rw [hgranted,
        serve_outsideDocs hdocs ((axum.hasRoute_layer _ _ _).trans hasRoute_openApp)]
      exact serve_guarded_cases

/-- **Headers.** The version is on the responses to the requests that may pass, except on those of
the socket and on those to preflights that the CORS layer answers. What CORS is about is on the
responses to the requests that may pass, except on those of the socket. -/
theorem headers_set
    (h : createApp axum tower config version websocket authToken docs handlers = .ok app)
    (hdocs : OutsideDocs websocket docs request)
    (hserve : (axum.serve app request).Dialogue log response) :
    (response.HasHeader versionHeader ↔
        Granted config authToken request ∧ ¬ OnSocket websocket request ∧
          ¬ (config.permissiveCors = true ∧ request.method = .options)) ∧
      (response.HasHeader allowOrigin ↔
        Granted config authToken request ∧ ¬ OnSocket websocket request ∧
          config.permissiveCors = true) := by
  -- Only what the endpoint comes to matters, as neither header is one of `axum`.
  have hbare : ∀ {response : HttpResponse H A}, (∀ name, response.HasHeader name →
      name ∈ axumHeaders) → ¬ response.HasHeader versionHeader ∧ ¬ response.HasHeader allowOrigin :=
    fun h => ⟨fun hversion => versionHeader_notMem.1 (h _ hversion),
      fun horigin => allowOrigin_notMem.1 (h _ horigin)⟩
  rcases serve_cases h hdocs with ⟨hgranted, heq⟩ | ⟨hgranted, heq⟩
  · rw [heq] at hserve
    obtain ⟨inner, hinner, hheaders⟩ := hasHeader_serve hserve
    rw [hheaders _ versionHeader_notMem.1, hheaders _ allowOrigin_notMem.1]
    by_cases hsocket : OnSocket websocket request
    · rw [endpoint_onSocket hsocket] at hinner
      obtain ⟨hversion, horigin⟩ := hbare (plainMethods_get _ _ _ _ _ hinner)
      exact ⟨iff_of_false hversion fun h => h.2.1 hsocket,
        iff_of_false horigin fun h => h.2.1 hsocket⟩
    · rw [endpoint_offSocket hsocket] at hinner
      simp only [hgranted, hsocket, true_and, not_false_eq_true]
      exact hasHeader_layeredRoutes hinner
  · rw [heq] at hserve
    obtain ⟨-, rfl⟩ := hserve
    rw [HttpResponse.HasHeader, axum.get_finish _ _ _ _ _ versionHeader_notMem.1,
      HttpResponse.HasHeader, axum.get_finish _ _ _ _ _ allowOrigin_notMem.1]
    obtain ⟨hversion, horigin⟩ := hbare (axum.headers_json _ _)
    exact ⟨iff_of_false hversion fun h => hgranted h.1, iff_of_false horigin fun h => hgranted h.1⟩

/-- A browser's preflight for `/sms/send`. -/
def sendPreflight : HttpRequest .lists Unit where
  method := .options
  path := "/sms/send".toList
  headers := [("origin".toList, [111]), ("access-control-request-method".toList, [80])]
  rest := ()

/-- With the default configuration, which has both CORS and authentication, the preflight is
refused, without the header that it asks for. -/
theorem headers_set_preflight :
    ∃ app response,
      createApp unitAxum .lists .default "3.6.1".toList true (some "secret".toList) none .calling =
        .ok app ∧
      unitAxum.serve app sendPreflight = pure response ∧ response.status = 401 ∧
        ¬ response.HasHeader allowOrigin := by
  have hrefused : ¬ Granted .default (some "secret".toList) sendPreflight := by
    intro hgranted
    obtain ⟨_, -, _, _, hvalue, -⟩ := hgranted rfl
    cases hvalue
  obtain ⟨app, happ⟩ : ∃ app, createApp unitAxum .lists .default "3.6.1".toList true
      (some "secret".toList) none .calling = .ok app :=
    ⟨_, createApp_guarded rfl⟩
  obtain ⟨response, heq, hstatus⟩ : ∃ response,
      unitAxum.serve app sendPreflight = pure response ∧ response.status = 401 := by
    rcases serve_cases happ outsideDocs_none with ⟨hgranted, -⟩ | ⟨-, heq⟩
    · exact absurd hgranted hrefused
    · exact ⟨_, heq, refuses_finish.1⟩
  have hdialogue : (unitAxum.serve app sendPreflight).Dialogue [] response := by
    rw [heq]
    exact ⟨rfl, rfl⟩
  exact ⟨app, response, happ, heq, hstatus, fun horigin =>
    hrefused ((headers_set happ outsideDocs_none hdialogue).2.mp horigin).1⟩

end

end SmsServer
