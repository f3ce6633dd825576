import Mathlib.Logic.Function.Basic
import SmsServer.Library.Client
import SmsServer.Library.Decimal
import SmsServer.Library.Utf8

/-!
# The crates of the HTTP server

What `http/mod.rs` uses of `http`, `axum` and `tower-http`, none of which is part of the repository:
`HttpCrate` are header maps, `Axum` are routers whose routes and layers are added one by one, and
`TowerHttp` are the two layers that are used. Each is a record of the operations together with what
the documentation of the crate says about them. Only routes without parameters are added.

Answering a request may take calls to the database and to the modem; a service is a `Client` of
them, so that a dialogue says what a request sets in motion.

`HttpCrate.lists`, `Axum.tables` and `TowerHttp.lists` keep headers in lists and look routes up in
tables.
-/

namespace SmsServer

open RustStd

/-! ### Requests and responses -/

/-- The methods that are told apart. `CONNECT`, which is for proxies, is left out. -/
inductive Method
  | get
  | head
  | post
  | options
  | other (name : Str)
      (hname : name ∉ ["GET", "HEAD", "POST", "OPTIONS", "CONNECT"].map String.toList)
  deriving DecidableEq

/-- What is used of the `http` crate. The names of headers are in lower case. -/
structure HttpCrate where
  HeaderValue : Type
  fromStatic : Str → HeaderValue
  /-- `HeaderValue::to_str`, `none` where it fails. -/
  toStr : HeaderValue → Option Str
  HeaderMap : Type
  /-- `HeaderMap::get`, which returns the first value. -/
  get : HeaderMap → Str → Option HeaderValue

/-- A request: `path` is as it was sent, and `rest` is what only the handlers read, the query and
the body. -/
structure HttpRequest (H : HttpCrate) (B : Type) where
  method : Method
  path : Str
  headers : H.HeaderMap
  rest : B

/-- `SuccessfulResponse` of `http/types.rs`. -/
structure SuccessfulResponse (A : Type) where
  success : Bool
  response : A

/-- `ErrorResponse` of `http/types.rs`. -/
structure ErrorResponse where
  success : Bool
  error : Str

inductive Body (A : Type)
  | empty
  | text (message : Str)
  | successful (response : SuccessfulResponse A)
  | error (response : ErrorResponse)

structure HttpResponse (H : HttpCrate) (A : Type) where
  status : ℕ
  headers : H.HeaderMap
  body : Body A

variable {H : HttpCrate} {A B Q R : Type}

def HttpResponse.HasHeader (self : HttpResponse H A) (name : Str) : Prop :=
  (H.get self.headers name).isSome

abbrev Service (H : HttpCrate) (B Q R A : Type) :=
  HttpRequest H B → Client Q R (HttpResponse H A)

/-- Whatever the service responds has no headers but these. -/
def Service.HeadersIn (names : List Str) (self : Service H B Q R A) : Prop :=
  ∀ request log response, (self request).Dialogue log response →
    ∀ name, response.HasHeader name → name ∈ names

/-! ### Routers -/

/-- The headers that `axum` sets. -/
def axumHeaders : List Str :=
  ["content-type", "content-length", "allow", "connection", "upgrade", "sec-websocket-accept",
    "sec-websocket-protocol"].map String.toList

/-- The path matches itself only. -/
def isLiteral (path : Str) : Bool :=
  path.head? == some '/' && path.all fun c => c ∉ ['\x7b', '\x7d', ':', '*']

/-- What is used of `axum`. A router finds an endpoint for a path and a method, wrapped in the
layers that were added since its route was, and finishes the endpoint's response; a path without a
route has the fallback as its endpoint. -/
structure Axum (H : HttpCrate) (B Q R A : Type) where
  /-- The response of a status with `Json`. -/
  json : ℕ → Body A → HttpResponse H A
  status_json : ∀ status body, (json status body).status = status
  body_json : ∀ status body, (json status body).body = body
  headers_json : ∀ status body name, (json status body).HasHeader name → name ∈ axumHeaders
  /-- What an extractor rejects a request with, or upgrades a connection with. -/
  Reply : Type
  reply : Reply → HttpResponse H A
  headers_reply : ∀ r name, (reply r).HasHeader name → name ∈ axumHeaders
  /-- The endpoints of one path. -/
  MethodRouter : Type
  get : Service H B Q R A → MethodRouter
  post : Service H B Q R A → MethodRouter
  methodEndpoint : MethodRouter → Method → Service H B Q R A
  /-- `get` answers `HEAD` as well. -/
  methodEndpoint_get : ∀ service method, method = .get ∨ method = .head →
    methodEndpoint (get service) method = service
  methodEndpoint_post : ∀ service, methodEndpoint (post service) .post = service
  get_notAllowed : ∀ service method, ¬ (method = .get ∨ method = .head) →
    Service.HeadersIn axumHeaders (methodEndpoint (get service) method)
  post_notAllowed : ∀ service method, method ≠ .post →
    Service.HeadersIn axumHeaders (methodEndpoint (post service) method)
  Router : Type
  new : Router
  route : Router → Str → MethodRouter → Router
  layer : Router → (Service H B Q R A → Service H B Q R A) → Router
  merge : Router → Router → Router
  HasRoute : Router → Str → Prop
  endpoint : Router → Str → Method → Service H B Q R A
  /-- The `allow` header where the method is not, and no body for `HEAD`. -/
  finish : Router → Str → Method → HttpResponse H A → HttpResponse H A
  hasRoute_new : ∀ path, ¬ HasRoute new path
  notFound : ∀ path method, Service.HeadersIn axumHeaders (endpoint new path method)
  hasRoute_route : ∀ router pattern methods path, isLiteral pattern →
    (HasRoute (route router pattern methods) path ↔ HasRoute router path ∨ path = pattern)
  /-- The first route of a path. -/
  endpoint_route : ∀ router pattern methods method, isLiteral pattern →
    ¬ HasRoute router pattern →
      endpoint (route router pattern methods) pattern method = methodEndpoint methods method
  endpoint_route_of_ne : ∀ router pattern methods path method, isLiteral pattern →
    path ≠ pattern →
      endpoint (route router pattern methods) path method = endpoint router path method
  hasRoute_layer : ∀ router wrap path, HasRoute (layer router wrap) path ↔ HasRoute router path
  /-- The routes that are there, and the fallback, are wrapped. -/
  endpoint_layer : ∀ router wrap path method,
    endpoint (layer router wrap) path method = wrap (endpoint router path method)
  finish_layer : ∀ router wrap, finish (layer router wrap) = finish router
  merge_left : ∀ router other path, HasRoute router path → ¬ HasRoute other path →
    endpoint (merge router other) path = endpoint router path ∧
      finish (merge router other) path = finish router path
  merge_right : ∀ router other path, ¬ HasRoute router path → HasRoute other path →
    endpoint (merge router other) path = endpoint other path ∧
      finish (merge router other) path = finish other path
  status_finish : ∀ router path method response,
    (finish router path method response).status = response.status
  body_finish : ∀ router path method response, method ≠ .head →
    (finish router path method response).body = response.body
  get_finish : ∀ router path method response name, name ∉ axumHeaders →
    H.get (finish router path method response).headers name = H.get response.headers name

/-- The response to a request. -/
def Axum.serve (axum : Axum H B Q R A) (router : axum.Router) : Service H B Q R A := fun request =>
  axum.finish router request.path request.method <$>
    axum.endpoint router request.path request.method request

/-! ### Layers -/

def allowOrigin : Str := "access-control-allow-origin".toList

/-- The headers that the CORS layer sets. -/
def corsHeaders : List Str :=
  allowOrigin :: ["access-control-allow-credentials", "access-control-allow-headers",
    "access-control-allow-methods", "access-control-allow-private-network",
    "access-control-expose-headers", "access-control-max-age", "vary"].map String.toList

/-- What is used of `tower-http`. -/
structure TowerHttp (H : HttpCrate) (B Q R A : Type) where
  /-- `SetResponseHeaderLayer::overriding`. -/
  setResponseHeader : Str → H.HeaderValue → Service H B Q R A → Service H B Q R A
  /-- `CorsLayer::permissive`. -/
  permissiveCors : Service H B Q R A → Service H B Q R A
  /-- The header of the response is set, whether it was there or not. -/
  overriding : ∀ name value service request log response,
    (setResponseHeader name value service request).Dialogue log response →
      ∃ response', (service request).Dialogue log response' ∧
        H.get response.headers = Function.update (H.get response'.headers) name (some value)
  /-- Every origin is allowed. -/
  anyOrigin : ∀ service request log response,
    (permissiveCors service request).Dialogue log response → response.HasHeader allowOrigin
  /-- An `OPTIONS` request is a preflight, which the layer answers by itself. -/
  preflight : ∀ service request log response, request.method = .options →
    (permissiveCors service request).Dialogue log response →
      ∀ name, response.HasHeader name → name ∈ corsHeaders
  /-- The other headers of any other response stay. -/
  notPreflight : ∀ service request log response, request.method ≠ .options →
    (permissiveCors service request).Dialogue log response →
      ∃ response', (service request).Dialogue log response' ∧
        ∀ name ∉ corsHeaders, H.get response.headers name = H.get response'.headers name

/-! ### Headers in lists -/

/-- Header maps as lists of headers. A text is visible ASCII, spaces and tabs. -/
abbrev HttpCrate.lists : HttpCrate where
  HeaderValue := List UInt8
  fromStatic := encodeUtf8
  toStr value :=
    if value.all fun b => (32 ≤ b && b < 127) || b == 9 then
      some (value.map fun b => Char.ofNat b.toNat)
    else none
  HeaderMap := List (Str × List UInt8)
  get headers name := headers.lookup name

namespace HttpResponse

/-- The headers go before those that are there, which they take the place of. -/
def setHeaders (self : HttpResponse .lists A) (headers : List (Str × List UInt8)) :
    HttpResponse .lists A :=
  { self with headers := headers ++ self.headers }

/-- The header is set if it is not there. -/
def addHeader (self : HttpResponse .lists A) (name : Str) (value : List UInt8) :
    HttpResponse .lists A :=
  if (self.headers.lookup name).isSome then self else self.setHeaders [(name, value)]

variable {self : HttpResponse .lists A} {headers : List (Str × List UInt8)} {name : Str}
  {value : List UInt8}

theorem hasHeader_iff : self.HasHeader name ↔ ∃ header ∈ self.headers, name = header.1 :=
  List.lookup_isSome_iff.trans (by simp only [beq_iff_eq])

theorem get_setHeaders (h : ∀ header ∈ headers, name ≠ header.1) :
    HttpCrate.lists.get (self.setHeaders headers).headers name =
      HttpCrate.lists.get self.headers name := by
  have hnone : headers.lookup name = none :=
    List.lookup_eq_none_iff.mpr fun header hheader => bne_iff_ne.mpr (h header hheader)
  show (headers ++ self.headers).lookup name = self.headers.lookup name
  rw [List.lookup_append, hnone, Option.none_or]

theorem get_setHeader :
    HttpCrate.lists.get (self.setHeaders [(name, value)]).headers =
      Function.update (HttpCrate.lists.get self.headers) name (some value) := by
  funext other
  by_cases h : other = name
  · rw [h, Function.update_self]
    exact List.lookup_cons_self
  · rw [Function.update_of_ne h]
    exact get_setHeaders (by simpa using h)

theorem get_addHeader {other : Str} (h : other ≠ name) :
    HttpCrate.lists.get (self.addHeader name value).headers other =
      HttpCrate.lists.get self.headers other := by
  rw [addHeader]
  split
  · rfl
  · exact get_setHeaders (by simpa using h)

theorem status_addHeader : (self.addHeader name value).status = self.status := by
  rw [addHeader]
  split <;> rfl

theorem body_addHeader : (self.addHeader name value).body = self.body := by
  rw [addHeader]
  split <;> rfl

end HttpResponse

/-! ### Tables of routes -/

def respondWith (response : HttpResponse .lists A) : Service .lists B Q R A :=
  fun _ => pure response

theorem headersIn_respondWith (status : ℕ) (names : List Str) :
    Service.HeadersIn names (respondWith ⟨status, [], .empty⟩ : Service .lists B Q R A) := by
  rintro request log response ⟨-, rfl⟩ name hname
  cases hname

/-- The endpoints of a path, and the methods that are allowed where there is none. -/
structure PathEndpoints (B Q R A : Type) where
  endpoint : Method → Service .lists B Q R A
  allow : Method → Option String

namespace PathEndpoints

variable (self : PathEndpoints B Q R A) (render : Body A → Str) (method : Method)
  (response : HttpResponse .lists A)

def layer (wrap : Service .lists B Q R A → Service .lists B Q R A) : PathEndpoints B Q R A :=
  { self with endpoint := fun method => wrap (self.endpoint method) }

/-- The service is for these methods only. -/
def forMethods (methods : List Method) (allow : String) (service : Service .lists B Q R A) :
    PathEndpoints B Q R A where
  endpoint method := if method ∈ methods then service else respondWith ⟨405, [], .empty⟩
  allow method := if method ∈ methods then none else some allow

variable {method} {methods : List Method} {allow : String} {service : Service .lists B Q R A}

theorem endpoint_forMethods (h : method ∈ methods) :
    (forMethods methods allow service).endpoint method = service :=
  if_pos h

theorem headersIn_forMethods {names : List Str} (h : method ∉ methods) :
    ((forMethods methods allow service).endpoint method).HeadersIn names := by
  have hendpoint : (forMethods methods allow service).endpoint method =
      respondWith ⟨405, [], .empty⟩ :=
    if_neg h
  exact hendpoint ▸ headersIn_respondWith 405 names

variable (method)

def addAllow : HttpResponse .lists A :=
  match self.allow method with
  | some methods => response.addHeader "allow".toList (encodeUtf8 methods.toList)
  | none => response

/-- The headers that are added at last, given how bodies are sent. -/
def finish : HttpResponse .lists A :=
  let length := (encodeUtf8 (render response.body)).length
  let response := (self.addAllow method response).addHeader "content-length".toList
    (encodeUtf8 (showNat length))
  if method = .head then { response with body := .empty } else response

theorem status_finish : (self.finish render method response).status = response.status := by
  have hallow : (self.addAllow method response).status = response.status := by
    rw [addAllow]
    split
    · exact HttpResponse.status_addHeader
    · rfl
  rw [finish]
  split <;> exact HttpResponse.status_addHeader.trans hallow

theorem body_finish (h : method ≠ .head) :
    (self.finish render method response).body = response.body := by
  have hallow : (self.addAllow method response).body = response.body := by
    rw [addAllow]
    split
    · exact HttpResponse.body_addHeader
    · rfl
  rw [finish, if_neg h]
  exact HttpResponse.body_addHeader.trans hallow

theorem get_finish (name : Str) (hname : name ∉ axumHeaders) :
    HttpCrate.lists.get (self.finish render method response).headers name =
      HttpCrate.lists.get response.headers name := by
  have hne : ∀ other ∈ axumHeaders, name ≠ other := by
    rintro other hother rfl
    exact hname hother
  have hallow : HttpCrate.lists.get (self.addAllow method response).headers name =
      HttpCrate.lists.get response.headers name := by
    rw [addAllow]
    split
    · exact HttpResponse.get_addHeader (hne _ (by decide))
    · rfl
  rw [finish]
  split <;> exact (HttpResponse.get_addHeader (hne _ (by decide))).trans hallow

end PathEndpoints

/-- The routes by their paths, and the endpoints of all other paths. -/
structure PathRouter (B Q R A : Type) where
  find? : Str → Option (PathEndpoints B Q R A)
  fallback : PathEndpoints B Q R A

namespace PathRouter

variable (self other : PathRouter B Q R A) {path : Str}

def endpoints (path : Str) : PathEndpoints B Q R A := (self.find? path).getD self.fallback

def route (pattern : Str) (methods : PathEndpoints B Q R A) : PathRouter B Q R A :=
  { self with find? := Function.update self.find? pattern (some methods) }

def layer (wrap : Service .lists B Q R A → Service .lists B Q R A) : PathRouter B Q R A where
  find? path := (self.find? path).map fun methods => methods.layer wrap
  fallback := self.fallback.layer wrap

/-- The fallback is that of the second router. -/
def merge : PathRouter B Q R A where
  find? path := (self.find? path).or (other.find? path)
  fallback := other.fallback

theorem endpoints_layer (wrap : Service .lists B Q R A → Service .lists B Q R A) (path : Str) :
    (self.layer wrap).endpoints path = (self.endpoints path).layer wrap := by
  show ((self.find? path).map fun methods => methods.layer wrap).getD _ = _
  rw [endpoints]
  cases self.find? path <;> rfl

theorem endpoints_merge_left (h : (self.find? path).isSome) :
    (self.merge other).endpoints path = self.endpoints path := by
  obtain ⟨methods, h⟩ := Option.isSome_iff_exists.mp h
  show ((self.find? path).or (other.find? path)).getD _ = (self.find? path).getD _
  rw [h]
  rfl

theorem endpoints_merge_right (h : ¬ (self.find? path).isSome) :
    (self.merge other).endpoints path = other.endpoints path := by
  show ((self.find? path).or (other.find? path)).getD _ = _
  rw [Option.not_isSome_iff_eq_none.mp h]
  rfl

end PathRouter

/-- Routers with tables of routes, given how bodies are sent. -/
def Axum.tables (render : Body A → Str) : Axum .lists B Q R A where
  json status body :=
    { status, headers := [("content-type".toList, encodeUtf8 "application/json".toList)], body }
  status_json _ _ := rfl
  body_json _ _ := rfl
  headers_json _ _ name hname := by
    obtain ⟨_, hheader, rfl⟩ := HttpResponse.hasHeader_iff.mp hname
    obtain rfl := List.mem_singleton.mp hheader
    decide
  Reply := ℕ × Str
  reply r := { status := r.1, headers := [], body := .text r.2 }
  headers_reply _ _ hname := by cases hname
  MethodRouter := PathEndpoints B Q R A
  get := .forMethods [.get, .head] "GET,HEAD"
  post := .forMethods [.post] "POST"
  methodEndpoint := PathEndpoints.endpoint
  methodEndpoint_get service method h := by
    refine PathEndpoints.endpoint_forMethods ?_
    rcases h with rfl | rfl <;> decide
  methodEndpoint_post service := PathEndpoints.endpoint_forMethods (List.mem_singleton.mpr rfl)
  get_notAllowed service method h := by
    refine PathEndpoints.headersIn_forMethods fun hmem => h ?_
    rcases List.mem_pair.mp hmem with rfl | rfl
    · exact .inl rfl
    · exact .inr rfl
  post_notAllowed service method h :=
    PathEndpoints.headersIn_forMethods fun hmem => h (List.mem_singleton.mp hmem)
  Router := PathRouter B Q R A
  new :=
    { find? := fun _ => none
      fallback :=
        { endpoint := fun _ => respondWith ⟨404, [], .empty⟩, allow := fun _ => none } }
  route := PathRouter.route
  layer := PathRouter.layer
  merge := PathRouter.merge
  HasRoute router path := (router.find? path).isSome
  endpoint router path := (router.endpoints path).endpoint
  finish router path := (router.endpoints path).finish render
  hasRoute_new _ h := by cases h
  notFound _ _ := headersIn_respondWith _ _
  hasRoute_route router pattern methods path _ := by
    by_cases h : path = pattern
    · subst h
      simp [PathRouter.route]
    · simp [PathRouter.route, h]
  endpoint_route router pattern methods method _ _ := by
    show ((Function.update router.find? pattern (some methods) pattern).getD _).endpoint _ = _
    rw [Function.update_self]
    rfl
  endpoint_route_of_ne router pattern methods path method _ h := by
    show ((Function.update router.find? pattern (some methods) path).getD _).endpoint _ = _
    rw [Function.update_of_ne h]
    rfl
  hasRoute_layer router wrap path := by simp [PathRouter.layer]
  endpoint_layer router wrap path method := by
    rw [PathRouter.endpoints_layer]
    rfl
  finish_layer router wrap := by
    funext path
    rw [PathRouter.endpoints_layer]
    rfl
  merge_left router other path h _ := by
    rw [PathRouter.endpoints_merge_left _ _ h]
    exact ⟨rfl, rfl⟩
  merge_right router other path h _ := by
    rw [PathRouter.endpoints_merge_right _ _ h]
    exact ⟨rfl, rfl⟩
  status_finish router path := (router.endpoints path).status_finish render
  body_finish router path := (router.endpoints path).body_finish render
  get_finish router path := (router.endpoints path).get_finish render

/-! ### Headers for CORS -/

def corsVary : Str × List UInt8 :=
  ("vary".toList, encodeUtf8
    "origin, access-control-request-method, access-control-request-headers".toList)

/-- The header allows everything. -/
def anyOf (name : String) : Str × List UInt8 := (name.toList, encodeUtf8 "*".toList)

/-- What a preflight is answered with. -/
def preflightHeaders : List (Str × List UInt8) :=
  [corsVary, anyOf "access-control-allow-methods", anyOf "access-control-allow-headers",
    (allowOrigin, encodeUtf8 "*".toList)]

/-- What is added to other responses. -/
def exposingHeaders : List (Str × List UInt8) :=
  [corsVary, anyOf "access-control-expose-headers", (allowOrigin, encodeUtf8 "*".toList)]

theorem mem_corsHeaders {header : Str × List UInt8}
    (h : header ∈ preflightHeaders ∨ header ∈ exposingHeaders) : header.1 ∈ corsHeaders := by
  have hall : ∀ header ∈ preflightHeaders ++ exposingHeaders, header.1 ∈ corsHeaders := by
    decide
  exact hall header (List.mem_append.mpr h)

/-- Layers that set headers in lists. -/
def TowerHttp.lists : TowerHttp .lists B Q R A where
  setResponseHeader name value inner request :=
    (fun response => response.setHeaders [(name, value)]) <$> inner request
  permissiveCors inner request :=
    if request.method = .options then pure ⟨200, preflightHeaders, .empty⟩
    else (fun response => response.setHeaders exposingHeaders) <$> inner request
  overriding name value service request log response h := by
    obtain ⟨inner, hinner, rfl⟩ := Client.dialogue_map.mp h
    exact ⟨inner, hinner, HttpResponse.get_setHeader⟩
  anyOrigin service request log response h := by
    have hpreflight : (allowOrigin, encodeUtf8 "*".toList) ∈ preflightHeaders := by decide
    have hexposing : (allowOrigin, encodeUtf8 "*".toList) ∈ exposingHeaders := by decide
    split at h
    · obtain ⟨-, rfl⟩ := h
      exact HttpResponse.hasHeader_iff.mpr ⟨_, hpreflight, rfl⟩
    · obtain ⟨inner, -, rfl⟩ := Client.dialogue_map.mp h
      exact HttpResponse.hasHeader_iff.mpr ⟨_, List.mem_append_left _ hexposing, rfl⟩
  preflight service request log response hoptions h := by
    rw [if_pos hoptions] at h
    obtain ⟨-, rfl⟩ := h
    intro name hname
    obtain ⟨header, hheader, rfl⟩ := HttpResponse.hasHeader_iff.mp hname
    exact mem_corsHeaders (.inl hheader)
  notPreflight service request log response hoptions h := by
    rw [if_neg hoptions] at h
    obtain ⟨inner, hinner, rfl⟩ := Client.dialogue_map.mp h
    refine ⟨inner, hinner, fun name hname => HttpResponse.get_setHeaders ?_⟩
    rintro header hheader rfl
    exact hname (mem_corsHeaders (.inr hheader))

end SmsServer
