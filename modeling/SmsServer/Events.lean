import SmsServer.Http.WebSocket
import SmsServer.Http.WebhookQueue
import SmsServer.Library.Reordered

/-!
# Broadcasting events

`events.rs`: `broadcast` sends an event into the queue of the webhook worker and then to the
WebSocket connections. `EventBroadcaster` says which of these outlets there are, and `Outlets` is
what is behind them. Tasks broadcast in parallel, and nothing keeps another broadcast out between
the two sends; so `Outlets.step` takes them one at a time, and interleaves them with the webhook
worker and with connections that come and go.

Each outlet on its own is the system of `Http/WebhookQueue.lean` or `Http/WebSocket.lean`
(`run_queue`, `run_connections`). Both see the same events, but not in the same order
(`run_reordered`). `delivered_alike` compares what a webhook and a connection get that ask for the
same kinds.
-/

namespace SmsServer

open RustStd Machine

variable {D : DashMaps} {F : Futures} {Y : Reqwest} {Event Kind : Type}

/-- The outlets that events are sent to. -/
structure EventBroadcaster where
  webhooks : Bool
  websocket : Bool
  deriving DecidableEq, Repr

/-- `EventBroadcaster::new`: there is no broadcaster without an outlet. -/
def EventBroadcaster.new (webhooks : Option (List (ConfiguredWebhook Kind)))
    (websocketEnabled : Bool) : Option EventBroadcaster :=
  if webhooks.isSome || websocketEnabled then
    some { webhooks := webhooks.isSome, websocket := websocketEnabled }
  else none

/-- Where events are broadcast: in the task of `main_rx`, one after the other, or in the tasks in
`send_sms`, of which each broadcasts one. -/
inductive BroadcastTask
  | mainRx
  | sendSms
  deriving DecidableEq, Repr

/-- The queue of the webhook worker, and the connections of the WebSocket manager. -/
structure Outlets (D : DashMaps) (F : Futures) (Y : Reqwest) (Event Kind : Type) where
  queue : WebhookQueue F Y Event Kind
  connections : WebSocketState D
  /-- The broadcasts that are between the two sends. -/
  inFlight : List (BroadcastTask × Event)

inductive OutletInput (Y : Reqwest) (Event Kind : Type)
  /-- A broadcast begins, and the event is sent to the webhook worker. -/
  | broadcast (task : BroadcastTask) (event : Event)
  /-- It goes on, and the event is sent to the connections. -/
  | resume (i : ℕ)
  | webhook (input : WebhookStep Y Event)
  | websocket (input : WebSocketInput Event Kind)

inductive OutletEffect (Y : Reqwest) (Event Kind : Type)
  | webhook (effect : WebhookEffect Y Event Kind)
  /-- A message is queued to a connection. -/
  | websocket (message : ChannelId × Str)

namespace OutletEffect

/-- What the webhook worker does. -/
def webhooksOf : List (OutletEffect Y Event Kind) → List (WebhookEffect Y Event Kind) :=
  List.filterMap fun | webhook effect => some effect | websocket _ => none

/-- The messages queued to connections. -/
def messagesOf : List (OutletEffect Y Event Kind) → List (ChannelId × Str) :=
  List.filterMap fun | webhook _ => none | websocket message => some message

variable (effects : List (WebhookEffect Y Event Kind)) (messages : List (ChannelId × Str))

@[simp] theorem webhooksOf_webhook :
    webhooksOf (effects.map (webhook : _ → OutletEffect Y Event Kind)) = effects := by
  rw [webhooksOf, List.filterMap_map]
  exact List.filterMap_some

@[simp] theorem webhooksOf_websocket :
    webhooksOf (messages.map (websocket : _ → OutletEffect Y Event Kind)) = [] := by
  simp [webhooksOf, List.filterMap_map]

@[simp] theorem messagesOf_webhook :
    messagesOf (effects.map (webhook : _ → OutletEffect Y Event Kind)) = [] := by
  simp [messagesOf, List.filterMap_map]

@[simp] theorem messagesOf_websocket :
    messagesOf (messages.map (websocket : _ → OutletEffect Y Event Kind)) = messages := by
  rw [messagesOf, List.filterMap_map]
  exact List.filterMap_some

end OutletEffect

open OutletEffect

namespace EventBroadcaster

/-- The first part of `broadcast`: `webhooks.send`. -/
def sendToWebhooks (self : EventBroadcaster) (queue : WebhookQueue F Y Event Kind)
    (event : Event) : WebhookQueue F Y Event Kind :=
  if self.webhooks then queue.send event else queue

/-- The second part of `broadcast`: `websocket.broadcast`. -/
def sendToConnections (types : EventTypes Event Kind) (self : EventBroadcaster)
    (connections : WebSocketState D) (event : Event) :
    WebSocketState D × List (ChannelId × Str) :=
  if self.websocket then
    let (connections, messages, _) := connections.broadcast types event
    (connections, messages)
  else (connections, [])

/-- `broadcast`, if nothing comes between its parts. -/
def broadcast (types : EventTypes Event Kind) (self : EventBroadcaster)
    (outlets : Outlets D F Y Event Kind) (event : Event) :
    Outlets D F Y Event Kind × List (OutletEffect Y Event Kind) :=
  let queue := self.sendToWebhooks outlets.queue event
  let (connections, messages) := self.sendToConnections types outlets.connections event
  ({ outlets with queue, connections }, messages.map .websocket)

end EventBroadcaster

namespace Outlets

def new : Outlets D F Y Event Kind := { queue := .new, connections := .new, inFlight := [] }

/-- The broadcasts that begin in a history. -/
def broadcastOf : List (Outlets D F Y Event Kind × OutletInput Y Event Kind) →
    List (BroadcastTask × Event) :=
  List.filterMap fun p => match p.2 with
    | .broadcast task event => some (task, event)
    | _ => none

/-- The broadcasts that end in a history, at the connections. -/
def endedOf : List (Outlets D F Y Event Kind × OutletInput Y Event Kind) →
    List (BroadcastTask × Event) :=
  List.filterMap fun p => match p.2 with
    | .resume i => p.1.inFlight[i]?
    | _ => none

@[simp] theorem broadcastOf_append
    (h h' : List (Outlets D F Y Event Kind × OutletInput Y Event Kind)) :
    broadcastOf (h ++ h') = broadcastOf h ++ broadcastOf h' := List.filterMap_append

@[simp] theorem endedOf_append
    (h h' : List (Outlets D F Y Event Kind × OutletInput Y Event Kind)) :
    endedOf (h ++ h') = endedOf h ++ endedOf h' := List.filterMap_append

/-- The broadcasts of the events that a query asks for. -/
def accepted (types : EventTypes Event Kind) (query : Option Str) :
    List (BroadcastTask × Event) → List (BroadcastTask × Event) :=
  List.filter fun e => types.Accepts query (types.kindOf e.2)

/-! ### What each outlet sees of a history -/

/-- What a step is for the queue of the webhook worker. -/
def queueInput (broadcaster : EventBroadcaster) :
    OutletInput Y Event Kind → Option (WebhookStep Y Event)
  | .broadcast _ event => if broadcaster.webhooks then some (.send event) else none
  | .webhook (.send _) => none
  | .webhook input => some input
  | _ => none

/-- What a step is for the connections. -/
def connectionInput (broadcaster : EventBroadcaster) (self : Outlets D F Y Event Kind) :
    OutletInput Y Event Kind → Option (WebSocketInput Event Kind)
  | .resume i =>
    if broadcaster.websocket then self.inFlight[i]?.map fun e => .broadcast e.2 else none
  | .websocket (.broadcast _) => none
  | .websocket input => some input
  | _ => none

/-- The history of the queue of the webhook worker. -/
def queueHistory (broadcaster : EventBroadcaster)
    (h : List (Outlets D F Y Event Kind × OutletInput Y Event Kind)) :
    List (WebhookQueue F Y Event Kind × WebhookStep Y Event) :=
  h.filterMap fun p => (queueInput broadcaster p.2).map fun input => (p.1.queue, input)

/-- The history of the connections. -/
def connectionHistory (broadcaster : EventBroadcaster)
    (h : List (Outlets D F Y Event Kind × OutletInput Y Event Kind)) :
    List (WebSocketState D × WebSocketInput Event Kind) :=
  h.filterMap fun p =>
    (connectionInput broadcaster p.1 p.2).map fun input => (p.1.connections, input)

open WebSocketState WebhookQueue WebhookEffect

section

variable {types : EventTypes Event Kind} {broadcaster : EventBroadcaster}

/-- The webhook worker is sent the events as their broadcasts begin. -/
theorem sentOf_queueHistory (hwebhooks : broadcaster.webhooks = true)
    (h : List (Outlets D F Y Event Kind × OutletInput Y Event Kind)) :
    WebhookQueue.sentOf (queueHistory broadcaster h) = (broadcastOf h).map Prod.snd := by
  rw [WebhookQueue.sentOf, queueHistory, List.filterMap_filterMap, broadcastOf, List.map_filterMap]
  refine List.filterMap_congr fun p _ => ?_
  obtain ⟨s, input⟩ := p
  cases input with
  | broadcast task event => simp [queueInput, hwebhooks]
  | resume i => rfl
  | webhook input => cases input <;> rfl
  | websocket input => rfl

/-- The events that are broadcast in a history of the connections. -/
def broadcastsOf : List (WebSocketState D × WebSocketInput Event Kind) → List Event :=
  List.filterMap fun p => match p.2 with
    | .broadcast event => some event
    | _ => none

/-- The connections are sent the events as their broadcasts end. -/
theorem broadcastsOf_connectionHistory (hwebsocket : broadcaster.websocket = true)
    (h : List (Outlets D F Y Event Kind × OutletInput Y Event Kind)) :
    broadcastsOf (connectionHistory broadcaster h) = (endedOf h).map Prod.snd := by
  rw [broadcastsOf, connectionHistory, List.filterMap_filterMap, endedOf, List.map_filterMap]
  refine List.filterMap_congr fun p _ => ?_
  obtain ⟨s, input⟩ := p
  cases input with
  | broadcast task event => rfl
  | resume i => cases hflight : s.inFlight[i]? <;> simp [connectionInput, hwebsocket, hflight]
  | webhook input => rfl
  | websocket input => cases input <;> rfl

/-- The events that a query asks for. -/
def acceptedEvents (types : EventTypes Event Kind) (query : Option Str) (events : List Event) :
    List Event :=
  events.filter fun event => types.Accepts query (types.kindOf event)

/-- What a connection accepts in a history are the messages of the events it asks for. -/
theorem acceptedMessages_eq (query : Option Str)
    (h : List (WebSocketState D × WebSocketInput Event Kind)) :
    WebSocketState.acceptedMessages types query h =
      (acceptedEvents types query (broadcastsOf h)).filterMap
        fun event => (types.serialize event).toOption := by
  rw [WebSocketState.acceptedMessages, broadcastsOf, acceptedEvents, List.filter_filterMap,
    List.filterMap_filterMap]
  refine List.filterMap_congr fun p _ => ?_
  obtain ⟨s, input⟩ := p
  cases input with
  | broadcast event =>
    by_cases haccepts : types.Accepts query (types.kindOf event) <;>
      simp [haccepts, Option.filter]
  | _ => rfl

/-- Of the events broadcast after its registration that it asks for, a connection is queued the
first, and all of them while it is registered. -/
theorem queued_events {h : List (WebSocketState D × WebSocketInput Event Kind)}
    {s : WebSocketState D} {t : List (ChannelId × Str)}
    (hrun : Run (WebSocketState.step types) .new h s t)
    {h₁ h₂ : List (WebSocketState D × WebSocketInput Event Kind)} {s₁ : WebSocketState D}
    {query : Option Str} {order : HashSetOrder Kind} {draws : List Str}
    (heq : h = h₁ ++ (s₁, .connect query order draws) :: h₂) :
    ∃ id during after, draws.find? (!D.containsKey s₁.connections ·) = some id ∧
      acceptedEvents types query (broadcastsOf h₂) = during ++ after ∧
      queuedTo s₁.nextChannel t =
        during.filterMap (fun event => (types.serialize event).toOption) ∧
      (s.Registered id s₁.nextChannel → after = []) := by
  obtain ⟨t₁, s₂, out, t₂, hrun₁, hstep, hrun₂, rfl⟩ := hrun.split heq
  obtain ⟨hwf, hunused⟩ := run_channels hrun₁
  have hmove := WebSocketState.step_move hstep
  have hwf₂ := hmove.wellFormed hwf
  cases hmove with
  | connected _ _ _ id hfind hnew =>
    obtain ⟨hqueued, -, hregistered⟩ := run_lifetime hwf₂
      (fun k => EventTypes.mask_and_toBit_ne_zero_iff order query k) DashMaps.get_insert_self hrun₂
    have hbefore := hunused s₁.nextChannel le_rfl
    -- the lifetime of the connection is the beginning of what follows its registration
    let kept := fun p : WebSocketState D × WebSocketInput Event Kind =>
      decide (¬ p.1.Drops types query id s₁.nextChannel p.2)
    refine ⟨id, acceptedEvents types query (broadcastsOf (h₂.takeWhile kept)),
      acceptedEvents types query (broadcastsOf (h₂.dropWhile kept)), hfind, ?_, ?_, ?_⟩
    · conv_lhs => rw [← List.takeWhile_append_dropWhile (p := kept) (l := h₂)]
      simp only [broadcastsOf, acceptedEvents, List.filterMap_append, List.filter_append]
    · simp only [queuedTo_append, hbefore, hqueued, List.nil_append, ← acceptedMessages_eq]
      rfl
    · rintro ⟨mask, hlookup⟩
      rcases hregistered with ⟨hkept, -⟩ | ⟨-, -, habsent⟩
      · have hnil : h₂.dropWhile kept = [] :=
          List.dropWhile_eq_nil_iff.mpr fun p hp => decide_eq_true (hkept p hp)
        rw [hnil]
        rfl
      · exact absurd rfl (habsent id _ hlookup)

end

variable [DecidableEq Kind]

/-- One step of a broadcast, of the webhook worker or of a connection. The worker's queue and the
connections get events from broadcasts only. -/
def step (types : EventTypes Event Kind) (worker : WebhookWorker Y Kind)
    (broadcaster : EventBroadcaster) (self : Outlets D F Y Event Kind) :
    OutletInput Y Event Kind →
      Option (Outlets D F Y Event Kind × List (OutletEffect Y Event Kind))
  | .broadcast task event =>
    -- `broadcast` returns before the task of `main_rx` broadcasts again
    if task = .mainRx ∧ ∃ e ∈ self.inFlight, e.1 = .mainRx then none
    else some
      ({ self with
          queue := broadcaster.sendToWebhooks self.queue event
          inFlight := self.inFlight ++ [(task, event)] }, [])
  | .resume i => self.inFlight[i]?.map fun e =>
      let (connections, messages) := broadcaster.sendToConnections types self.connections e.2
      ({ self with connections, inFlight := self.inFlight.eraseIdx i }, messages.map .websocket)
  | .webhook (.send _) => none
  | .webhook input => (self.queue.step types worker input).map fun next =>
      ({ self with queue := next.1 }, next.2.map .webhook)
  | .websocket (.broadcast _) => none
  | .websocket input => (self.connections.step types input).map fun next =>
      ({ self with connections := next.1 }, next.2.map .websocket)

variable {types : EventTypes Event Kind} {worker : WebhookWorker Y Kind}
  {broadcaster : EventBroadcaster} {s s' : Outlets D F Y Event Kind}
  {input : OutletInput Y Event Kind} {out : List (OutletEffect Y Event Kind)}
  {h : List (Outlets D F Y Event Kind × OutletInput Y Event Kind)}
  {t : List (OutletEffect Y Event Kind)}

/-- A broadcast that nothing interrupts does what the method does. -/
theorem execute_broadcast (event : Event) :
    execute (step types worker broadcaster) s
        [.broadcast .sendSms event, .resume s.inFlight.length] =
      some (broadcaster.broadcast types s event) := by
  have hlast : (s.inFlight ++ [(BroadcastTask.sendSms, event)]).eraseIdx s.inFlight.length =
      s.inFlight := by
    simp [List.eraseIdx_append_of_length_le]
  simp [execute, step, EventBroadcaster.broadcast, hlast]

/-- **Case analysis.** A broadcast begins or ends, or an outlet takes a step of its own. -/
inductive Move (types : EventTypes Event Kind) (worker : WebhookWorker Y Kind)
    (broadcaster : EventBroadcaster) (s : Outlets D F Y Event Kind) :
    OutletInput Y Event Kind → Outlets D F Y Event Kind → List (OutletEffect Y Event Kind) → Prop
  | began (task : BroadcastTask) (event : Event)
      (hfree : task = .mainRx → ∀ e ∈ s.inFlight, e.1 ≠ .mainRx) :
    Move types worker broadcaster s (.broadcast task event)
      { s with
        queue := broadcaster.sendToWebhooks s.queue event
        inFlight := s.inFlight ++ [(task, event)] } []
  | ended {i : ℕ} {e : BroadcastTask × Event} (he : s.inFlight[i]? = some e) :
    Move types worker broadcaster s (.resume i)
      { s with
        connections := (broadcaster.sendToConnections types s.connections e.2).1
        inFlight := s.inFlight.eraseIdx i }
      ((broadcaster.sendToConnections types s.connections e.2).2.map .websocket)
  | webhook {input : WebhookStep Y Event} {queue : WebhookQueue F Y Event Kind}
      {effects : List (WebhookEffect Y Event Kind)}
      (hinput : queueInput broadcaster (.webhook input : OutletInput Y Event Kind) = some input)
      (hqueue : s.queue.step types worker input = some (queue, effects)) :
    Move types worker broadcaster s (.webhook input) { s with queue } (effects.map .webhook)
  | websocket {input : WebSocketInput Event Kind} {connections : WebSocketState D}
      {messages : List (ChannelId × Str)}
      (hinput : s.connectionInput broadcaster (.websocket input) = some input)
      (hconnections : s.connections.step types input = some (connections, messages)) :
    Move types worker broadcaster s (.websocket input) { s with connections }
      (messages.map .websocket)

theorem step_move (hstep : s.step types worker broadcaster input = some (s', out)) :
    Move types worker broadcaster s input s' out := by
  cases input with
  | broadcast task event =>
    obtain ⟨hfree, hstep⟩ := Option.ite_none_left_eq_some.mp hstep
    obtain ⟨rfl, rfl⟩ := Prod.mk.inj (Option.some_inj.mp hstep)
    exact .began task event fun htask e he hmain => hfree ⟨htask, e, he, hmain⟩
  | resume i =>
    obtain ⟨e, he, hstep⟩ := Option.map_eq_some_iff.mp hstep
    obtain ⟨rfl, rfl⟩ := Prod.mk.inj hstep
    exact .ended he
  | webhook input =>
    cases input with
    | send event => cases hstep
    | _ =>
      obtain ⟨⟨queue, effects⟩, hqueue, hstep⟩ := Option.map_eq_some_iff.mp hstep
      obtain ⟨rfl, rfl⟩ := Prod.mk.inj hstep
      exact .webhook rfl hqueue
  | websocket input =>
    cases input with
    | broadcast event => cases hstep
    | _ =>
      simp only [step] at hstep
      obtain ⟨⟨connections, messages⟩, hconnections, hstep⟩ := Option.map_eq_some_iff.mp hstep
      obtain ⟨rfl, rfl⟩ := Prod.mk.inj hstep
      exact .websocket rfl hconnections

/-! ### Each outlet on its own -/

theorem step_queue (hstep : s.step types worker broadcaster input = some (s', out)) :
    (∀ input', queueInput broadcaster input = some input' →
        s.queue.step types worker input' = some (s'.queue, webhooksOf out)) ∧
      (queueInput broadcaster input = none → s'.queue = s.queue ∧ webhooksOf out = []) := by
  cases step_move hstep with
  | began task event =>
    cases hwebhooks : broadcaster.webhooks <;>
      simp [queueInput, EventBroadcaster.sendToWebhooks, hwebhooks, WebhookQueue.step, webhooksOf]
  | ended => exact ⟨fun _ hinput => (by cases hinput), fun _ => ⟨rfl, webhooksOf_websocket _⟩⟩
  | webhook hinput hqueue =>
    rw [hinput, webhooksOf_webhook]
    refine ⟨fun input' heq => ?_, fun hnone => (by cases hnone)⟩
    rwa [← Option.some.inj heq]
  | websocket => exact ⟨fun _ hinput => (by cases hinput), fun _ => ⟨rfl, webhooksOf_websocket _⟩⟩

theorem step_connections (hstep : s.step types worker broadcaster input = some (s', out)) :
    (∀ input', s.connectionInput broadcaster input = some input' →
        s.connections.step types input' = some (s'.connections, messagesOf out)) ∧
      (s.connectionInput broadcaster input = none →
        s'.connections = s.connections ∧ messagesOf out = []) := by
  cases step_move hstep with
  | began => exact ⟨fun _ hinput => (by cases hinput), fun _ => ⟨rfl, rfl⟩⟩
  | ended he =>
    cases hwebsocket : broadcaster.websocket <;>
      simp [connectionInput, EventBroadcaster.sendToConnections, hwebsocket, he,
        WebSocketState.step, messagesOf]
  | webhook => exact ⟨fun _ hinput => (by cases hinput), fun _ => ⟨rfl, messagesOf_webhook _⟩⟩
  | websocket hinput hconnections =>
    rw [hinput, messagesOf_websocket]
    refine ⟨fun input' heq => ?_, fun hnone => (by cases hnone)⟩
    rwa [← Option.some.inj heq]

/-- For the webhook worker, a run is a run of its queue. -/
theorem run_queue {s₀ : Outlets D F Y Event Kind}
    (hrun : Run (step types worker broadcaster) s₀ h s t) :
    Run (WebhookQueue.step types worker) s₀.queue (queueHistory broadcaster h) s.queue
      (webhooksOf t) :=
  hrun.component (π := queue) (f := fun _ => queueInput broadcaster) fun _ _ _ _ => step_queue

/-- For the connections, a run is a run of the WebSocket manager. -/
theorem run_connections {s₀ : Outlets D F Y Event Kind}
    (hrun : Run (step types worker broadcaster) s₀ h s t) :
    Run (WebSocketState.step types) s₀.connections (connectionHistory broadcaster h) s.connections
      (messagesOf t) :=
  hrun.component (π := connections) (f := connectionInput broadcaster)
    fun _ _ _ _ => step_connections

/-- A webhook that lists kinds once is sent the first events of these kinds, and all of them once
the worker is idle. -/
theorem sentTo_webhook {webhooks : List (ConfiguredWebhook Kind)}
    (hnew : WebhookWorker.new Y webhooks = .ok worker) (hwebhooks : broadcaster.webhooks = true)
    (hrun : Run (step types worker broadcaster) new h s t) {webhookIdx : ℕ}
    {webhook : ConfiguredWebhook Kind} (hwebhook : webhooks[webhookIdx]? = some webhook)
    {P : Kind → Prop} [DecidablePred P]
    (hkinds : ∀ k, webhook.events.count k = if P k then 1 else 0) :
    sentTo webhookIdx (requestsOf (webhooksOf t)) <+:
        ((broadcastOf h).map Prod.snd).filter (fun event => P (types.kindOf event)) ∧
      (s.queue.Idle → sentTo webhookIdx (requestsOf (webhooksOf t)) =
        ((broadcastOf h).map Prod.snd).filter fun event => P (types.kindOf event)) := by
  have hqueue := run_queue hrun
  have hsent := sentOf_queueHistory hwebhooks h
  obtain ⟨rounds, hrounds⟩ :=
    exists_run types hnew (fun _ => .error []) ((broadcastOf h).map Prod.snd)
  rw [← sentTo_run hnew hwebhook hkinds hrounds]
  refine ⟨(requestsOf_isPrefix hqueue (hsent ▸ hrounds)).filterMap _, fun hidle => ?_⟩
  obtain ⟨rounds', hrounds', hrequests, -⟩ :=
    answered_of_idle hnew (fun _ => .error []) hqueue hidle
  rw [hsent, hrounds, Option.some_inj] at hrounds'
  rw [hrequests, ← hrounds']

/-- Of the events whose broadcasts end after its registration and that it asks for, a connection is
queued the first, and all of them while it is registered. -/
theorem queuedTo_connection (hwebsocket : broadcaster.websocket = true)
    (hrun : Run (step types worker broadcaster) new h s t)
    {h₁ h₂ : List (Outlets D F Y Event Kind × OutletInput Y Event Kind)}
    {s₁ : Outlets D F Y Event Kind} {query : Option Str} {order : HashSetOrder Kind}
    {draws : List Str} (heq : h = h₁ ++ (s₁, .websocket (.connect query order draws)) :: h₂) :
    ∃ id during after,
      draws.find? (!D.containsKey s₁.connections.connections ·) = some id ∧
      accepted types query (endedOf h₂) = during ++ after ∧
      queuedTo s₁.connections.nextChannel (messagesOf t) =
        during.filterMap (fun e => (types.serialize e.2).toOption) ∧
      (s.connections.Registered id s₁.connections.nextChannel → after = []) := by
  have hsplit : connectionHistory broadcaster h = connectionHistory broadcaster h₁ ++
      (s₁.connections, .connect query order draws) :: connectionHistory broadcaster h₂ := by
    rw [heq, connectionHistory, List.filterMap_append, List.filterMap_cons]
    rfl
  obtain ⟨id, during, after, hfind, hevents, hqueued, hregistered⟩ :=
    queued_events (run_connections hrun) hsplit
  rw [broadcastsOf_connectionHistory hwebsocket, acceptedEvents, List.filter_map] at hevents
  obtain ⟨during, after, hended, rfl, rfl⟩ := List.map_eq_append_iff.mp hevents
  rw [List.filterMap_map] at hqueued
  exact ⟨id, during, after, hfind, hended, hqueued, fun hthere =>
    List.map_eq_nil_iff.mp (hregistered hthere)⟩

/-! ### Both outlets -/

/-- The broadcast is one of the task of `main_rx`. -/
def fromMainRx (e : BroadcastTask × Event) : Bool := e.1 = .mainRx

/-- The task of `main_rx` has one broadcast at most in flight. -/
theorem run_inTurn (hrun : Run (step types worker broadcaster) new h s t) :
    (s.inFlight.filter fromMainRx).length ≤ 1 := by
  refine hrun.induct (P := fun _ s _ => (s.inFlight.filter fromMainRx).length ≤ 1)
    (Nat.zero_le 1) fun h s t input s' out _ hle hstep => ?_
  cases step_move hstep with
  | began task event hfree =>
    rw [List.filter_append, List.length_append]
    cases task with
    | mainRx =>
      have hnone : s.inFlight.filter fromMainRx = [] :=
        List.filter_eq_nil_iff.mpr fun e he hmain => hfree rfl e he (of_decide_eq_true hmain)
      rw [hnone]
      exact le_rfl
    | sendSms => exact hle
  | ended => exact (((List.eraseIdx_sublist ..).filter _).length_le).trans hle
  | webhook => exact hle
  | websocket => exact hle

/-- **The order of broadcasts.** The broadcasts end in another order than they begin, but those of
the task of `main_rx` in the same; the others are in flight. -/
theorem run_reordered (hrun : Run (step types worker broadcaster) new h s t) :
    Reordered fromMainRx (broadcastOf h) (endedOf h ++ s.inFlight) := by
  refine hrun.induct (P := fun h s _ =>
    Reordered fromMainRx (broadcastOf h) (endedOf h ++ s.inFlight)) (.refl _ _) ?_
  intro h s t input s' out hrun ih hstep
  rw [broadcastOf_append, endedOf_append]
  cases step_move hstep with
  | began task event =>
    show Reordered _ (_ ++ [(task, event)]) (endedOf h ++ [] ++ (s.inFlight ++ [(task, event)]))
    rw [List.append_nil, ← List.append_assoc]
    exact ih.append (.refl _ _)
  | @ended i e he =>
    have hended : endedOf [(s, (.resume i : OutletInput Y Event Kind))] = [e] := by
      simp [endedOf, he]
    show Reordered _ (broadcastOf h ++ []) _
    rw [hended, List.append_nil, List.append_assoc]
    exact ih.trans ((Reordered.refl _ _).append (.of_getElem? he (run_inTurn hrun)))
  | webhook => simpa [broadcastOf, endedOf] using ih
  | websocket => simpa [broadcastOf, endedOf] using ih

end Outlets

end SmsServer
