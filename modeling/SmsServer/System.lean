import SmsServer.App.Incoming
import SmsServer.Events
import SmsServer.Library.Cascade
import SmsServer.Modem.StatusUpdates

/-!
# From the modem to the clients

`AppHandles::new` connects the modem task, the tasks of the application and the outlets of events:
what the modem task sends is queued in `main_rx`, and what the tasks announce is broadcast. Each
part feeds the next, so a run of the whole is a run of each (`Parts`), and what is proved of the
parts can be put together.

* `status_followed`: the status updates that a client is sent are a piece of the path that the
  status of the worker has taken, in order and without gaps; it begins where the client came.
* `incoming_delivered`: a webhook for incoming messages is sent the messages that the reassembly
  makes of what the modem task has sent, in order.
-/

namespace SmsServer

open RustStd Machine Effect BroadcastEvent ModemStatus

variable {D : DashMaps} {F : Futures} {X : Crates} {Y : Reqwest}

/-! ### Events by kind -/

/-- `EventKind::from`. -/
def BroadcastEvent.kind : BroadcastEvent X → EventKind
  | incomingMessage _ _ => .incomingMessage
  | outgoingMessage _ _ => .outgoingMessage
  | deliveryReport _ _ => .deliveryReport
  | modemStatusUpdate _ _ => .modemStatusUpdate
  | gnssPositionReport _ => .gnssPositionReport

/-- Which task broadcasts an event: `send_sms` announces the messages that are sent. -/
def BroadcastEvent.task : BroadcastEvent X → BroadcastTask
  | outgoingMessage _ _ => .sendSms
  | _ => .mainRx

/-- The change of status that a message of the modem tells of. -/
def statusUpdate? : ModemIncomingMessage X → Option (ModemStatus × ModemStatus)
  | .modemStatusUpdate previous current => some (previous, current)
  | _ => none

/-- The event for a change of status. -/
def statusEvent (update : ModemStatus × ModemStatus) : BroadcastEvent X :=
  .modemStatusUpdate update.1.into update.2.into

/-- The events of a kind. -/
def eventsOfKind (kind : EventKind) (events : List (BroadcastEvent X)) : List (BroadcastEvent X) :=
  events.filter fun event => event.kind = kind

/-- The status events are notifications that are passed on. -/
theorem eventsOfKind_modemStatusUpdate (events : List (BroadcastEvent X)) :
    eventsOfKind .modemStatusUpdate events =
      eventsOfKind .modemStatusUpdate (App.relayedOf events) := by
  induction events with
  | nil => rfl
  | cons event events ih => cases event <;> simpa [eventsOfKind, App.relayedOf, kind] using ih

theorem eventsOfKind_relay (messages : List (ModemIncomingMessage X)) :
    eventsOfKind .modemStatusUpdate (messages.filterMap App.relay) =
      (messages.filterMap statusUpdate?).map statusEvent := by
  induction messages with
  | nil => rfl
  | cons message messages ih =>
    cases message with
    | modemStatusUpdate previous current => exact congrArg (statusEvent (previous, current) :: ·) ih
    | _ => exact ih

theorem incomingOf_eventsOfKind (events : List (BroadcastEvent X)) :
    incomingOf (eventsOfKind .incomingMessage events) = incomingOf events := by
  induction events with
  | nil => rfl
  | cons event events ih => cases event <;> simpa [eventsOfKind, incomingOf, kind] using ih

/-! ### The system -/

/-- What the modem task sends is queued in `main_rx`. -/
def mainWire : Wire (Effect X) (ModemIncomingMessage X) (AppInput X) where
  emitted
    | .mainMessage message => some message
    | _ => none
  input := .message
  fed
    | .message message => some message
    | _ => none
  fed_input _ := rfl

/-- What the tasks announce is broadcast. -/
def eventWire : Wire (Effect X ⊕ BroadcastEvent X) (BroadcastTask × BroadcastEvent X)
    (OutletInput Y (BroadcastEvent X) EventKind) where
  emitted e := e.getRight?.map fun event => (event.task, event)
  input e := .broadcast e.1 e.2
  fed
    | .broadcast task event => some (task, event)
    | _ => none
  fed_input _ := rfl

/-- What `AppHandles::new` connects. -/
structure AppHandles (X : Crates) (Y : Reqwest) where
  config : ModemConfig
  display : TransitionError X → Str
  context : AppContext
  types : EventTypes (BroadcastEvent X) EventKind
  kindOf_eq : ∀ event, types.kindOf event = event.kind
  worker : WebhookWorker Y EventKind
  broadcaster : Option EventBroadcaster
  broadcaster_eq : context.broadcaster = broadcaster.isSome

abbrev SystemState (D : DashMaps) (F : Futures) (X : Crates) (Y : Reqwest) :=
  (RunState × App X) × Outlets D F Y (BroadcastEvent X) EventKind

abbrev SystemInput (X : Crates) (Y : Reqwest) :=
  (Input ⊕ AppInput X) ⊕ OutletInput Y (BroadcastEvent X) EventKind

abbrev SystemEffect (X : Crates) (Y : Reqwest) :=
  (Effect X ⊕ BroadcastEvent X) ⊕ OutletEffect Y (BroadcastEvent X) EventKind

/-- Events that are serialized as the name of their kind. -/
def BroadcastEvent.named : EventTypes (BroadcastEvent X) EventKind where
  kindOf := kind
  serialize event := .ok event.kind.name
  name := EventTypes.standard.name
  tryFrom := EventTypes.standard.tryFrom
  tryFrom_eq_some_iff := EventTypes.standard.tryFrom_eq_some_iff
  toBit := EventTypes.standard.toBit
  toBit_single := EventTypes.standard.toBit_single
  toBit_injective := EventTypes.standard.toBit_injective
  eventsToMask := EventTypes.standard.eventsToMask
  eventsToMask_eq := EventTypes.standard.eventsToMask_eq
  kinds := EventTypes.standard.kinds
  kinds_nodup := EventTypes.standard.kinds_nodup
  mem_kinds := EventTypes.standard.mem_kinds
  allBits := EventTypes.standard.allBits
  allBits_eq := EventTypes.standard.allBits_eq
  count := EventTypes.standard.count
  count_eq := EventTypes.standard.count_eq

/-- One webhook, for incoming messages. -/
def incomingWebhooks : List (ConfiguredWebhook EventKind) :=
  [{ url := "https://a".toList, expectedStatus := none, events := [.incomingMessage],
     headers := none, certificatePath := none }]

/-- A system with both outlets, for concrete runs. -/
def AppHandles.bothOutlets (X : Crates) : AppHandles X .withoutTls where
  config := .default
  display _ := []
  context := .ofZeros
  types := named
  kindOf_eq _ := rfl
  worker :=
    { webhooks := incomingWebhooks.map (·, none)
      eventsMap := .ofPairs (WebhookWorker.eventPairs incomingWebhooks 0), client := () }
  broadcaster := some ⟨true, true⟩
  broadcaster_eq := rfl

/-- Decoders that take a PDU for the text of a message, which is a part of two if it begins with its
number, for concrete runs. -/
def Crates.texts : Crates where
  FixStatus := Unit
  fixStatusTryFrom _ := .error "Invalid fix status".toList
  PositionReport := Crates.rejecting.PositionReport
  positionReportTryFrom := Crates.rejecting.positionReportTryFrom
  positionReportTryFrom_returns := Crates.rejecting.positionReportTryFrom_returns
  hexDecode text := .ok (encodeUtf8 text)
  DeliverPdu := List UInt8
  deliverPduTryFrom := .ok
  originatingAddress _ := "1".toList
  decodeMessage bytes :=
    let text := (fromUtf8 bytes).getD []
    if text.head? = some '1' then .ok ⟨some [(0, [1])], text.tail⟩
    else if text.head? = some '2' then .ok ⟨some [(0, [2])], text.tail⟩
    else .ok ⟨none, text⟩
  multipartHeaderTryFrom data := data.head?.elim (.error "Invalid header".toList) fun index =>
    .ok { messageReference := 1, total := 2, index }
  StatusReportPdu := Unit
  statusReportPduTryFrom _ := .error "Invalid PDU".toList
  reportStatus _ := 0
  recipientAddress _ := []
  messageReference _ := 0

namespace AppHandles

variable (self : AppHandles X Y)

/-- The outlets there are. -/
def outlets : EventBroadcaster := self.broadcaster.getD ⟨false, false⟩

/-- A step of the modem task, of a task of the application or of an outlet. -/
def step : SystemState D F X Y → SystemInput X Y →
    Option (SystemState D F X Y × List (SystemEffect X Y)) :=
  cascade eventWire (cascade mainWire (RunState.step self.display) (App.step self.context))
    (Outlets.step self.types self.worker self.outlets)

/-- What the worker does before it enters the status loop. -/
def startEffects (port : Port) : List (Effect X) :=
  ((ModemWorker.new self.config).initializeAndRun (X := X) port).2

/-- The start: the worker has been initialized, and nothing has been taken off `main_rx`. -/
def start (port : Port) (db : SMSDatabase) : SystemState D F X Y :=
  ((RunState.start X self.config port,
    { App.new db with mainRx := mainWire.emittedOf (self.startEffects port) }), .new)

/-- The steps of the application's tasks in a history, without what the modem task queues. -/
def appHistory (h : List (SystemState D F X Y × SystemInput X Y)) : List (App X × AppInput X) :=
  secondHistory (firstHistory h)

/-- The events that the application's tasks announce, in this order. -/
def announced (t : List (SystemEffect X Y)) : List (BroadcastEvent X) := secondOf (firstOf t)

/-- What the modem task does, from its start. -/
def modemEffects (port : Port) (t : List (SystemEffect X Y)) : List (Effect X) :=
  self.startEffects port ++ firstOf (firstOf t)

/-- The runs of the parts in a run of the system. -/
structure Parts (handles : AppHandles X Y) (port : Port) (db : SMSDatabase)
    (h : List (SystemState D F X Y × SystemInput X Y)) (s : SystemState D F X Y)
    (t : List (SystemEffect X Y)) (h₁ : List (RunState × Input)) (h₂ : List (App X × AppInput X))
    (h₃ : List (Outlets D F Y (BroadcastEvent X) EventKind ×
      OutletInput Y (BroadcastEvent X) EventKind)) : Prop where
  modem : Run (RunState.step handles.display) (.start X handles.config port) h₁ s.1.1
    (firstOf (firstOf t))
  app : Run (App.step handles.context) (.new db) h₂ s.1.2 (announced t)
  outlets : Run (Outlets.step handles.types handles.worker handles.outlets) .new h₃ s.2 (secondOf t)
  sent : App.sentByModem h₂ = mainWire.emittedOf (handles.modemEffects port t)
  received : App.receiverInputs h₂ = App.receiverInputs (appHistory h)
  broadcast : Outlets.broadcastOf h₃ = (announced t).map fun event => (event.task, event)

variable {self} {port : Port} {db : SMSDatabase} {s : SystemState D F X Y}
  {h : List (SystemState D F X Y × SystemInput X Y)} {t : List (SystemEffect X Y)}

/-- Messages are queued in `main_rx` before the task of `main_rx` is started. -/
theorem run_messages (context : AppContext) (db : SMSDatabase)
    (messages : List (ModemIncomingMessage X)) :
    ∃ h, Run (App.step context) (.new db) h { App.new db with mainRx := messages } [] ∧
      App.sentByModem h = messages ∧ App.receiverInputs h = [] := by
  induction messages using List.reverseRecOn with
  | nil => exact ⟨[], .start, rfl, rfl⟩
  | append_singleton messages message ih =>
    obtain ⟨h, hrun, hsent, hreceived⟩ := ih
    refine ⟨_, hrun.next (i := .message message) rfl, ?_, ?_⟩
    · rw [App.sentByModem_append, hsent]
      rfl
    · rw [App.receiverInputs_append, hreceived]
      rfl

/-- What is queued in `main_rx` is no input of the reassembly. -/
theorem receiverInputs_ownOf (h : List (App X × AppInput X)) :
    App.receiverInputs (mainWire.ownOf h) = App.receiverInputs h := by
  induction h with
  | nil => rfl
  | cons p h ih =>
    obtain ⟨app, input⟩ := p
    have happ : ∀ h, App.receiverInputs ((app, input) :: h) =
        App.receiverInputs [(app, input)] ++ App.receiverInputs h :=
      fun h => App.receiverInputs_append (h := [(app, input)]) h
    cases input with
    | message message => exact ih
    | _ => exact (happ _).trans ((congrArg _ ih).trans (happ h).symm)

theorem broadcastOf_eq_fedOf (h : List (Outlets D F Y (BroadcastEvent X) EventKind ×
      OutletInput Y (BroadcastEvent X) EventKind)) :
    Outlets.broadcastOf h = eventWire.fedOf h := by
  refine List.filterMap_congr fun p _ => ?_
  obtain ⟨outlets, input⟩ := p
  cases input <;> rfl

theorem emittedOf_eq_announced (t : List (SystemEffect X Y)) :
    (eventWire (Y := Y)).emittedOf (firstOf t) =
      (announced t).map fun event => (event.task, event) := by
  rw [announced, secondOf, List.map_filterMap]
  rfl

theorem parts (hrun : Run self.step (self.start port db) h s t) :
    ∃ h₁ h₂ h₃, Parts self port db h s t h₁ h₂ h₃ := by
  have hinner := hrun.upstream
  obtain ⟨h₃, houtlets, hbroadcast, -⟩ := hrun.downstream
  obtain ⟨h₂, happ, hsent, hown⟩ := hinner.downstream
  obtain ⟨h₂', hqueued, hsent', hnone⟩ := run_messages self.context db
    (mainWire.emittedOf (self.startEffects port))
  refine ⟨_, h₂' ++ h₂, h₃, hinner.upstream, by
    simpa [announced] using hqueued.append happ, houtlets, ?_, ?_,
    ?_⟩
  · rw [App.sentByModem_append, hsent', modemEffects, mainWire.emittedOf_append, ← hsent]
    rfl
  · rw [App.receiverInputs_append, hnone, List.nil_append, appHistory, ← hown,
      receiverInputs_ownOf]
  · rw [broadcastOf_eq_fedOf, hbroadcast, emittedOf_eq_announced]

/-! ### The status -/

theorem statusUpdatesOf_eq (effects : List (Effect X)) :
    statusUpdatesOf effects = (mainWire.emittedOf effects).filterMap statusUpdate? := by
  rw [Wire.emittedOf, List.filterMap_filterMap, statusUpdatesOf]
  refine List.filterMap_congr fun e _ => ?_
  cases e with
  | mainMessage message => cases message <;> rfl
  | _ => rfl

/-- The changes of status that wait in `main_rx`. -/
def waiting (s : SystemState D F X Y) : List (ModemStatus × ModemStatus) :=
  s.1.2.mainRx.filterMap statusUpdate?

/-- The changes of status that are announced and those that wait are all that the worker has
told of. -/
theorem Parts.updates {h₁ : List (RunState × Input)} {h₂ : List (App X × AppInput X)}
    {h₃ : List (Outlets D F Y (BroadcastEvent X) EventKind ×
      OutletInput Y (BroadcastEvent X) EventKind)} (hparts : Parts self port db h s t h₁ h₂ h₃)
    (hbroadcaster : self.broadcaster.isSome) :
    ∃ updates, eventsOfKind .modemStatusUpdate (announced t) = updates.map statusEvent ∧
      updates ++ waiting s = statusUpdatesOf (self.modemEffects port t) := by
  have hreceived := App.received hparts.app
  have hrelayed := App.relayedOf_eq (self.broadcaster_eq.trans hbroadcaster) hparts.app
  refine ⟨(App.takenOf h₂).filterMap statusUpdate?, ?_, ?_⟩
  · rw [eventsOfKind_modemStatusUpdate, hrelayed, eventsOfKind_relay]
  · rw [waiting, ← List.filterMap_append, hreceived.taken, hparts.sent, statusUpdatesOf_eq]

/-- The updates that the worker has told of lead to its status. -/
theorem path_modemEffects {h₁ : List (RunState × Input)}
    (hmodem : Run (RunState.step self.display) (.start X self.config port) h₁ s.1.1
      (firstOf (firstOf t))) :
    Path .startup (statusUpdatesOf (self.modemEffects port t)) s.1.1.status := by
  rw [modemEffects, statusUpdatesOf_append]
  exact (RunState.path_start (X := X) self.config port).append (RunState.path_run hmodem)

/-- The status events among broadcasts. -/
def updatesOf (broadcasts : List (BroadcastTask × BroadcastEvent X)) : List (BroadcastEvent X) :=
  eventsOfKind .modemStatusUpdate (broadcasts.map Prod.snd)

theorem updatesOf_append (b b' : List (BroadcastTask × BroadcastEvent X)) :
    updatesOf (b ++ b') = updatesOf b ++ updatesOf b' := by
  simp [updatesOf, eventsOfKind]

/-- Status events are broadcast in the order in which they are announced. -/
theorem updatesOf_outlets {outlets : Outlets D F Y (BroadcastEvent X) EventKind}
    {h : List (Outlets D F Y (BroadcastEvent X) EventKind ×
      OutletInput Y (BroadcastEvent X) EventKind)}
    {u : List (OutletEffect Y (BroadcastEvent X) EventKind)} {events : List (BroadcastEvent X)}
    (hrun : Run (Outlets.step self.types self.worker self.outlets) .new h outlets u)
    (hbroadcast : Outlets.broadcastOf h = events.map fun event => (event.task, event)) :
    eventsOfKind .modemStatusUpdate events =
      updatesOf (Outlets.endedOf h) ++ updatesOf outlets.inFlight := by
  have hreordered := (Outlets.run_reordered hrun).filter fun e =>
    decide (e.2.kind = .modemStatusUpdate)
  have hequal := hreordered.eq_of_forall fun e he => by
    obtain ⟨he, hkind⟩ := List.mem_filter.mp he
    rw [hbroadcast] at he
    obtain ⟨event, -, rfl⟩ := List.mem_map.mp he
    cases event <;> first | rfl | simp [kind] at hkind
  have hall : updatesOf (Outlets.broadcastOf h) =
      updatesOf (Outlets.endedOf h ++ outlets.inFlight) := by
    rw [updatesOf, eventsOfKind, List.filter_map, updatesOf, eventsOfKind, List.filter_map]
    exact congrArg (List.map Prod.snd) hequal
  rw [← updatesOf_append, ← hall, hbroadcast, updatesOf, List.map_map]
  exact congrArg _ (List.map_id _).symm

/-- A connection that asks for status updates is queued those whose broadcasts end from then until
it is dropped. -/
theorem updatesOf_connection {outlets : Outlets D F Y (BroadcastEvent X) EventKind}
    {u : List (OutletEffect Y (BroadcastEvent X) EventKind)}
    {k₁ k₂ : List (Outlets D F Y (BroadcastEvent X) EventKind ×
      OutletInput Y (BroadcastEvent X) EventKind)}
    {outlets₁ : Outlets D F Y (BroadcastEvent X) EventKind} {query : Option Str}
    {order : HashSetOrder EventKind} {draws : List Str}
    (hwebsocket : self.outlets.websocket = true)
    (hrun : Run (Outlets.step self.types self.worker self.outlets) .new
      (k₁ ++ [(outlets₁, .websocket (.connect query order draws))] ++ k₂) outlets u)
    (hquery : ∀ k, self.types.Accepts query k ↔ k = .modemStatusUpdate) :
    ∃ id during after,
      draws.find? (!D.containsKey outlets₁.connections.connections ·) = some id ∧
      updatesOf (Outlets.endedOf k₂) = during ++ after ∧
      WebSocketState.queuedTo outlets₁.connections.nextChannel (OutletEffect.messagesOf u) =
        during.filterMap (fun event => (self.types.serialize event).toOption) ∧
      (outlets.connections.Registered id outlets₁.connections.nextChannel → after = []) := by
  obtain ⟨id, during, after, hfind, hended, hqueued, hregistered⟩ :=
    Outlets.queuedTo_connection hwebsocket hrun (List.append_assoc k₁ _ k₂)
  refine ⟨id, during.map Prod.snd, after.map Prod.snd, hfind, ?_, ?_, fun hthere => ?_⟩
  · rw [← List.map_append, ← hended, updatesOf, eventsOfKind, List.filter_map]
    refine congrArg (List.map Prod.snd) (List.filter_congr fun e _ => ?_)
    simp only [Function.comp, hquery, self.kindOf_eq]
  · rw [hqueued, List.filterMap_map]
    rfl
  · rw [hregistered hthere, List.map_nil]

/-- **Status.** A client of the WebSocket that asks for status updates is sent a piece of what the
worker tells of its status, without gaps: `before` was announced before the client came, except for
what was in flight then; after `during` the client went, and what is in flight or waits in
`main_rx` is still to come. Together they are a path to the status of the worker. -/
theorem status_followed (hrun : Run self.step (self.start port db) h s t)
    (hwebsocket : self.outlets.websocket = true)
    {h₁ h₂ : List (SystemState D F X Y × SystemInput X Y)} {s₁ : SystemState D F X Y}
    {query : Option Str} {order : HashSetOrder EventKind} {draws : List Str}
    (heq : h = h₁ ++ (s₁, .inr (.websocket (.connect query order draws))) :: h₂)
    (hquery : ∀ k, self.types.Accepts query k ↔ k = .modemStatusUpdate) :
    ∃ id t₁ before during after flying,
      draws.find? (!D.containsKey s₁.2.connections.connections ·) = some id ∧
      Run self.step (self.start port db) h₁ s₁ t₁ ∧
      eventsOfKind .modemStatusUpdate (announced t₁) =
        before.map statusEvent ++ updatesOf s₁.2.inFlight ∧
      flying.map statusEvent = updatesOf s.2.inFlight ∧
      statusUpdatesOf (self.modemEffects port t) =
        before ++ during ++ after ++ flying ++ waiting s ∧
      Path .startup (before ++ during ++ after ++ flying ++ waiting s) s.1.1.status ∧
      WebSocketState.queuedTo s₁.2.connections.nextChannel (OutletEffect.messagesOf (secondOf t)) =
        during.filterMap (fun update =>
          (self.types.serialize (statusEvent update)).toOption) ∧
      (s.2.connections.Registered id s₁.2.connections.nextChannel → after = []) := by
  have hbroadcaster : self.broadcaster.isSome := by
    rw [outlets] at hwebsocket
    cases hnone : self.broadcaster with
    | none => simp [hnone] at hwebsocket
    | some broadcaster => rfl
  obtain ⟨k₁, k₂, k₃, hparts⟩ := parts hrun
  obtain ⟨updates, hannounced, hupdates⟩ := hparts.updates hbroadcaster
  have hpath := path_modemEffects hparts.modem
  -- what the connection is queued, by the outlets before and after it was made
  obtain ⟨t₁, s₂, out, t₂, hrun₁, hstep, hrun₂, rfl⟩ := hrun.split heq
  obtain ⟨k₁', houtlets₁, hbroadcast₁, -⟩ := hrun₁.downstream
  obtain ⟨k₂', houtlets₂, hbroadcast₂, -⟩ := hrun₂.downstream
  obtain ⟨-, -, hsilent, hconnect⟩ := cascade_inr hstep
  have houtlets := (houtlets₁.next hconnect).append houtlets₂
  obtain ⟨id, during, after, hfind, hended, hqueued, hregistered⟩ :=
    updatesOf_connection hwebsocket houtlets hquery
  rw [← broadcastOf_eq_fedOf, emittedOf_eq_announced] at hbroadcast₁ hbroadcast₂
  have hwhole := updatesOf_outlets houtlets
    (show _ = (announced (t₁ ++ out ++ t₂)).map fun event => (event.task, event) by
      rw [Outlets.broadcastOf_append, Outlets.broadcastOf_append, hbroadcast₁, hbroadcast₂]
      simp [announced, hsilent, Outlets.broadcastOf])
  rw [Outlets.endedOf_append, Outlets.endedOf_append, updatesOf_append, updatesOf_append,
    hended, hannounced] at hwhole
  -- the changes of status are cut where the connection was made and where it ends
  obtain ⟨ended, flying, rfl, hended, hflying⟩ := List.map_eq_append_iff.mp hwhole
  obtain ⟨before, rest, rfl, hbefore, hrest⟩ := List.map_eq_append_iff.mp hended
  obtain ⟨kept, lost, rfl, hkept, hlost⟩ := List.map_eq_append_iff.mp hrest
  have hcut : before ++ kept ++ lost ++ flying ++ waiting s =
      before ++ (kept ++ lost) ++ flying ++ waiting s := by
    simp only [List.append_assoc]
  rw [← hupdates] at hpath
  refine ⟨id, t₁, before, kept, lost, flying, hfind, hrun₁, ?_, hflying, ?_, ?_, ?_,
    fun hthere => ?_⟩
  · rw [updatesOf_outlets houtlets₁ hbroadcast₁, hbefore]
    simp [Outlets.endedOf, updatesOf, eventsOfKind]
  · rw [← hupdates, hcut]
  · rwa [hcut]
  · rw [secondOf_append, secondOf_append, hqueued, ← hkept, List.filterMap_map]
    rfl
  · rw [hregistered hthere] at hlost
    exact List.map_eq_nil_iff.mp hlost

/-- A client that came after the modem was initialized is told that it was lost; that it came back
waits in `main_rx`. -/
theorem status_followed_lost :
    let handles := AppHandles.bothOutlets .rejecting
    let query := some "modem_status_update".toList
    let connect : SystemInput .rejecting .withoutTls :=
      .inr (.websocket (.connect query (.dedup _) ["id".toList]))
    ∃ (s₁ s : SystemState .ofAList .ofLists .rejecting .withoutTls)
      (h₁ h₂ : List (SystemState .ofAList .ofLists .rejecting .withoutTls ×
        SystemInput .rejecting .withoutTls))
      (t : List (SystemEffect .rejecting .withoutTls)),
      Run handles.step (handles.start .ready .empty) (h₁ ++ (s₁, connect) :: h₂) s t ∧
      waiting s = [(.offline, .online)] ∧
      WebSocketState.queuedTo 0 (OutletEffect.messagesOf (secondOf t)) =
        ["modem_status_update".toList] ∧
      ∃ id t₁ before during after flying,
        ["id".toList].find? (!DashMaps.ofAList.containsKey s₁.2.connections.connections ·) =
          some id ∧
        Run handles.step (handles.start .ready .empty) h₁ s₁ t₁ ∧
        eventsOfKind .modemStatusUpdate (announced t₁) =
          before.map statusEvent ++ updatesOf s₁.2.inFlight ∧
        flying.map statusEvent = updatesOf s.2.inFlight ∧
        statusUpdatesOf (handles.modemEffects .ready t) =
          before ++ during ++ after ++ flying ++ waiting s ∧
        Path .startup (before ++ during ++ after ++ flying ++ waiting s) s.1.1.status ∧
        WebSocketState.queuedTo s₁.2.connections.nextChannel
            (OutletEffect.messagesOf (secondOf t)) =
          during.filterMap (fun update =>
            (handles.types.serialize (statusEvent update)).toOption) ∧
        (s.2.connections.Registered id s₁.2.connections.nextChannel → after = []) := by
  intro handles query connect
  obtain ⟨s, t, -, hrun, hfacts⟩ := Run.of_execute handles.step
    (handles.start .ready .empty : SystemState .ofAList .ofLists _ _)
    [.inl (.inr (.recv 0)), .inr (.resume 0), connect,
      .inl (.inl (.read (.error "broken pipe".toList))), .inl (.inr (.recv 1)), .inr (.resume 0),
      .inl (.inl (.reconnectTick .ready))]
    (fun r => (waiting r.1,
      WebSocketState.queuedTo 0 (OutletEffect.messagesOf (secondOf r.2))))
    (b := ([(.offline, .online)], ["modem_status_update".toList])) (by decide +kernel)
  obtain ⟨hwaiting, hqueued⟩ := Prod.mk.inj hfacts
  have hquery : ∀ k, handles.types.Accepts query k ↔ k = .modemStatusUpdate := by
    intro k
    cases k <;> decide +kernel
  exact ⟨_, s, [(_, .inl (.inr (.recv 0))), (_, .inr (.resume 0))], _, t, hrun, hwaiting, hqueued,
    status_followed hrun rfl (show _ = [_, _] ++ _ from rfl) hquery⟩

/-! ### Incoming messages -/

/-- The incoming messages that the modem task sends, whole ones and parts. -/
def incomingSmsOf (effects : List (Effect X)) : List SmsIncomingMessage :=
  (mainWire.emittedOf effects).filterMap App.incomingSms?

/-- **Incoming messages.** A webhook for incoming messages is sent nothing else, and these are, in
order and once each, the first of the messages that the reassembly has made of what the task of
`main_rx` and the cleanups gave it in the run. These are the first messages and parts that the modem
task has sent; once nothing is left to do, it was given all of them and the webhook is sent all that
it made. -/
theorem incoming_delivered (hrun : Run self.step (self.start port db) h s t)
    {webhooks : List (ConfiguredWebhook EventKind)}
    (hnew : WebhookWorker.new Y webhooks = .ok self.worker)
    (hwebhooks : self.outlets.webhooks = true) {webhookIdx : ℕ}
    {webhook : ConfiguredWebhook EventKind} (hwebhook : webhooks[webhookIdx]? = some webhook)
    (hevents : webhook.events = [.incomingMessage]) :
    let sent := WebhookQueue.sentTo webhookIdx
      (WebhookEffect.requestsOf (OutletEffect.webhooksOf (secondOf t)))
    let received := incomingSmsOf (self.modemEffects port t)
    let inputs := App.receiverInputs (appHistory h)
    (∀ event ∈ sent, event.kind = .incomingMessage) ∧
      App.partsOf inputs <+: received ∧
      incomingOf sent <+: App.wholeMessages self.context.fromIncoming inputs ∧
      (s.1.2.mainRx = [] → s.1.2.channel = .idle → s.2.queue.Idle →
        App.partsOf inputs = received ∧
          incomingOf sent = App.wholeMessages self.context.fromIncoming inputs) := by
  intro sent received inputs
  obtain ⟨k₁, k₂, k₃, hparts⟩ := parts hrun
  have hbroadcaster : self.context.broadcaster = true := by
    rw [self.broadcaster_eq]
    rw [outlets] at hwebhooks
    cases hnone : self.broadcaster with
    | none => simp [hnone] at hwebhooks
    | some broadcaster => rfl
  obtain ⟨htaken, hpartsOf, -, hincoming⟩ := App.received hparts.app
  have hincoming := hincoming hbroadcaster
  rw [hparts.received] at hpartsOf hincoming
  have hcount : ∀ k, webhook.events.count k = if k = .incomingMessage then 1 else 0 := by
    intro k
    rw [hevents, List.count_singleton]
    cases k <;> rfl
  obtain ⟨hfirst, hall⟩ := Outlets.sentTo_webhook hnew hwebhooks hparts.outlets hwebhook hcount
  have hkind : ((Outlets.broadcastOf k₃).map Prod.snd).filter
      (fun event => decide (self.types.kindOf event = .incomingMessage)) =
        eventsOfKind .incomingMessage (announced t) := by
    rw [hparts.broadcast, List.map_map, eventsOfKind]
    simp only [self.kindOf_eq]
    exact congrArg _ (List.map_id _)
  rw [hkind] at hfirst hall
  have hreceived : received = (App.takenOf k₂ ++ s.1.2.mainRx).filterMap App.incomingSms? := by
    rw [htaken, hparts.sent]
    rfl
  refine ⟨fun event hevent => ?_, ?_, ?_, fun hmain hidle hqueue => ⟨?_, ?_⟩⟩
  · have hmem := (List.mem_filter.mp (hfirst.subset hevent)).2
    exact of_decide_eq_true hmem
  · rw [hpartsOf, hreceived, List.filterMap_append]
    exact List.prefix_append _ _
  · have hsent : incomingOf sent <+: incomingOf (announced t) := by
      rw [← incomingOf_eventsOfKind (announced t)]
      exact hfirst.filterMap _
    exact hsent.trans ⟨_, hincoming⟩
  · rw [hpartsOf, hreceived, hmain, List.append_nil]
  · rw [← hincoming, hidle, show sent = _ from hall hqueue, incomingOf_eventsOfKind]
    exact (List.append_nil _).symm

/-- A message in two parts, of which the last came first, is with the webhook; another is being
stored. -/
theorem incoming_delivered_hello :
    let handles := AppHandles.bothOutlets .texts
    ∃ (h : List (SystemState .ofAList .ofLists .texts .withoutTls ×
        SystemInput .texts .withoutTls))
      (s : SystemState .ofAList .ofLists .texts .withoutTls)
      (t : List (SystemEffect .texts .withoutTls)),
      Run handles.step (handles.start .ready .empty) h s t ∧
      let sent := WebhookQueue.sentTo 0
        (WebhookEffect.requestsOf (OutletEffect.webhooksOf (secondOf t)))
      let received := incomingSmsOf (handles.modemEffects .ready t)
      let inputs := App.receiverInputs (appHistory h)
      incomingOf sent = [⟨"1".toList, "Hello".toList, none, false, none⟩] ∧
      App.wholeMessages handles.context.fromIncoming inputs =
        [⟨"1".toList, "Hello".toList, none, false, none⟩,
          ⟨"1".toList, "Hi".toList, none, false, none⟩] ∧
      (∀ event ∈ sent, event.kind = .incomingMessage) ∧
        App.partsOf inputs <+: received ∧
        incomingOf sent <+: App.wholeMessages handles.context.fromIncoming inputs ∧
        (s.1.2.mainRx = [] → s.1.2.channel = .idle → s.2.queue.Idle →
          App.partsOf inputs = received ∧
            incomingOf sent = App.wholeMessages handles.context.fromIncoming inputs) := by
  intro handles
  have hnew : WebhookWorker.new .withoutTls incomingWebhooks = .ok handles.worker := rfl
  let inputs : List (SystemInput .texts .withoutTls) :=
    [.inl (.inr (.recv 0)), .inr (.resume 0),
      .inl (.inl (.read (.ok (encodeUtf8 "+CMT: ,2\n2lo\n+CMT: ,5\n1Hel\n+CMT: ,5\nHi\n".toList)))),
      .inl (.inl .lineEvent), .inl (.inl .lineEvent), .inl (.inl .lineEvent),
      .inl (.inl .lineEvent), .inl (.inl .lineEvent), .inl (.inl .lineEvent),
      .inl (.inr (.recv 1)), .inl (.inr (.cleanup 2)), .inl (.inr (.recv 3)),
      .inl (.inr (.statement ⟨5, false⟩ .zeros)), .inl (.inr .resume), .inr (.webhook .recv),
      .inr (.resume 0), .inr (.webhook .recv), .inr (.webhook .start), .inl (.inr (.recv 4))]
  obtain ⟨s, t, -, hrun, hsent⟩ := Run.of_execute handles.step
    (handles.start .ready .empty : SystemState .ofAList .ofLists _ _) inputs
    (fun r => incomingOf (WebhookQueue.sentTo 0
      (WebhookEffect.requestsOf (OutletEffect.webhooksOf (secondOf r.2)))))
    (b := [⟨"1".toList, "Hello".toList, none, false, none⟩]) (by decide +kernel)
  exact ⟨_, s, t, hrun, hsent, by decide +kernel, incoming_delivered hrun hnew rfl rfl rfl⟩

end AppHandles

end SmsServer
