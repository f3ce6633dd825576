import SmsServer.Http.EventFilter
import SmsServer.Library.Decimal
import SmsServer.Library.Multimap

/-!
# Webhooks

`webhooks.rs`: `WebhookWorker::new` makes an index from event kinds to the positions of the webhooks
that list them, and `process` sends an event to every position it finds there. A webhook that
lists a kind twice is entered twice; `run_firesOnce_iff` says that this is all that can go wrong.
-/

namespace SmsServer

open RustStd

/-- What the worker uses of `reqwest`. -/
structure Reqwest where
  HeaderMap : Type
  Client : Type
  StatusCode : Type
  /-- `HeaderName` and `HeaderValue` from the strings of a map. -/
  headerMap : List (Str × Str) → Except Str HeaderMap
  /-- The client, with root certificates from these files. -/
  buildClient : List Str → Except Str Client
  asU16 : StatusCode → UInt16
  isSuccess : StatusCode → Bool
  display : StatusCode → Str

/-- A build without TLS: header maps are what they are made from, statuses their codes, and
certificates are refused. -/
def Reqwest.withoutTls : Reqwest where
  HeaderMap := List (Str × Str)
  Client := Unit
  StatusCode := UInt16
  headerMap := .ok
  buildClient certificatePaths :=
    if certificatePaths = [] then .ok () else
      .error ("Webhook TLS configuration provided but no TLS features enabled. Compile with a " ++
        "TLS backend feature!").toList
  asU16 := id
  isSuccess status := 200 ≤ status && status < 300
  display status := showNat status.toNat

structure ConfiguredWebhook (Kind : Type) where
  url : Str
  expectedStatus : Option UInt16
  events : List Kind
  headers : Option (List (Str × Str))
  certificatePath : Option Str
  deriving DecidableEq, Repr

/-- A `POST` request with an event as its JSON body. -/
structure WebhookRequest (X : Reqwest) (Event : Type) where
  url : Str
  json : Event
  headers : Option X.HeaderMap

variable {X : Reqwest} {Event Kind : Type}

def ConfiguredWebhook.getHeaderMap (X : Reqwest) (self : ConfiguredWebhook Kind) :
    Except Str (Option X.HeaderMap) :=
  match self.headers with
  | none => .ok none
  | some headers => (X.headerMap headers).map some

/-- The webhooks with their headers. -/
abbrev StoredWebhook (X : Reqwest) (Kind : Type) := ConfiguredWebhook Kind × Option X.HeaderMap

structure WebhookWorker (X : Reqwest) (Kind : Type) where
  webhooks : List (StoredWebhook X Kind)
  eventsMap : Multimap Kind ℕ
  client : X.Client

/-- What `execute_webhook` sends. -/
def webhookRequest (webhook : StoredWebhook X Kind) (event : Event) : WebhookRequest X Event :=
  { url := webhook.1.url, json := event, headers := webhook.2 }

/-- `execute_webhook`, given the status that comes back. -/
def executeWebhook (send : WebhookRequest X Event → Except Str X.StatusCode)
    (webhook : StoredWebhook X Kind) (event : Event) : WebhookRequest X Event × Except Str Unit :=
  let request := webhookRequest webhook event
  (request,
    match send request with
    | .error _ => .error "Network error".toList
    | .ok status =>
      match webhook.1.expectedStatus with
      | some expected =>
        if X.asU16 status ≠ expected then
          .error ("Got ".toList ++ showNat (X.asU16 status).toNat ++ " expected ".toList ++
            showNat expected.toNat ++ "!".toList)
        else .ok ()
      | none =>
        if X.isSuccess status then .ok ()
        else .error ("Unsuccessful status ".toList ++ X.display status))

namespace WebhookWorker

/-- The pairs of a kind and a position, in the order of the two loops of `new`. -/
def eventPairs (webhooks : List (ConfiguredWebhook Kind)) (idx : ℕ) : List (Kind × ℕ) :=
  (webhooks.zipIdx idx).flatMap fun entry => entry.1.events.map fun event => (event, entry.2)

theorem eventPairs_cons (webhook : ConfiguredWebhook Kind)
    (webhooks : List (ConfiguredWebhook Kind)) (start : ℕ) :
    eventPairs (webhook :: webhooks) start =
      webhook.events.map (·, start) ++ eventPairs webhooks (start + 1) := by
  rw [eventPairs, List.zipIdx_cons, List.flatMap_cons]
  rfl

/-- The positions in the index are those of webhooks. -/
theorem exists_of_mem_eventPairs {webhooks : List (ConfiguredWebhook Kind)} {k : Kind}
    {start idx : ℕ} (h : (k, idx) ∈ eventPairs webhooks start) :
    start ≤ idx ∧ ∃ webhook, webhooks[idx - start]? = some webhook := by
  obtain ⟨⟨webhook, pos⟩, hmem, hpair⟩ := List.mem_flatMap.mp h
  obtain ⟨event, -, hevent⟩ := List.mem_map.mp hpair
  obtain rfl : pos = idx := congrArg Prod.snd hevent
  obtain ⟨hle, hwebhook⟩ := List.mem_zipIdx_iff_le_and_getElem?_sub.mp hmem
  exact ⟨hle, webhook, hwebhook⟩

variable [DecidableEq Kind]

/-- `new`, where a client that cannot be built is a panic. -/
def new (X : Reqwest) (webhooks : List (ConfiguredWebhook Kind)) :
    Except Str (WebhookWorker X Kind) := do
  let client ← X.buildClient (webhooks.filterMap (·.certificatePath))
  return { webhooks := webhooks.map fun webhook =>
             (webhook, (webhook.getHeaderMap X).toOption.getD none)
           eventsMap := .ofPairs (eventPairs webhooks 0)
           client }

/-- What a task is: the position of its webhook, its request and what becomes of it. -/
abbrev Task (X : Reqwest) (Event : Type) := ℕ × WebhookRequest X Event × Except Str Unit

/-- `process`, `none` where an index is out of bounds. -/
def process (types : EventTypes Event Kind)
    (send : WebhookRequest X Event → Except Str X.StatusCode) (self : WebhookWorker X Kind)
    (event : Event) : Option (List (Task X Event)) :=
  match self.eventsMap.lookup (types.kindOf event) with
  | none => some []
  | some webhookIndices => webhookIndices.mapM fun webhookIdx => do
    let webhook ← self.webhooks[webhookIdx]?
    return (webhookIdx, executeWebhook send webhook event)

/-- `run`, on the events that come. -/
def run (types : EventTypes Event Kind)
    (send : WebhookRequest X Event → Except Str X.StatusCode) (self : WebhookWorker X Kind)
    (events : List Event) : Option (List (List (Task X Event))) :=
  events.mapM (self.process types send)

/-- The request of the webhook at the task's position. -/
def IsRequestOf (webhooks : List (ConfiguredWebhook Kind)) (event : Event) (task : Task X Event) :
    Prop :=
  ∃ webhook, webhooks[task.1]? = some webhook ∧ task.2.1 =
    { url := webhook.url, json := event, headers := (webhook.getHeaderMap X).toOption.getD none }

/-- The requests for an event: one for each webhook that lists its kind, as the webhook says, and
no other. -/
def FiresOnce (types : EventTypes Event Kind) (webhooks : List (ConfiguredWebhook Kind))
    (event : Event) (tasks : List (Task X Event)) : Prop :=
  (∀ idx webhook, webhooks[idx]? = some webhook →
    (tasks.map Prod.fst).count idx = if types.kindOf event ∈ webhook.events then 1 else 0) ∧
  ∀ task ∈ tasks, IsRequestOf webhooks event task

/-! ### The index -/

theorem valuesOf_events (events : List Kind) (k : Kind) (start : ℕ) :
    Multimap.valuesOf (events.map (·, start)) k = List.replicate (events.count k) start := by
  induction events with
  | nil => rfl
  | cons event events ih =>
    rw [List.map_cons, Multimap.valuesOf_cons, ih]
    by_cases hk : event = k
    · rw [if_pos hk, hk, List.count_cons_self, List.replicate_succ]
    · rw [if_neg hk, List.count_cons_of_ne hk]

/-- A webhook's position is entered under a kind as often as the webhook lists it. -/
theorem count_eventPairs (webhooks : List (ConfiguredWebhook Kind)) (k : Kind) (start idx : ℕ) :
    (Multimap.valuesOf (eventPairs webhooks start) k).count (start + idx) =
      (webhooks[idx]?.elim [] (·.events)).count k := by
  induction webhooks generalizing start idx with
  | nil => rfl
  | cons webhook webhooks ih =>
    rw [eventPairs_cons, Multimap.valuesOf_append, List.count_append, valuesOf_events,
      List.count_replicate]
    cases idx with
    | zero =>
      have hrest : start ∉ Multimap.valuesOf (eventPairs webhooks (start + 1)) k := fun hmem => by
        have := (exists_of_mem_eventPairs (Multimap.mem_valuesOf.mp hmem)).1
        omega
      rw [Nat.add_zero, List.count_eq_zero.mpr hrest]
      simp
    | succ idx =>
      rw [show start + (idx + 1) = start + 1 + idx by omega, ih (start + 1) idx,
        List.getElem?_cons_succ, if_neg (by simp; omega), Nat.zero_add]

/-! ### Processing -/

theorem exists_mapM_eq_some {α β : Type} {f : α → Option β} {R : β → α → Prop} {l : List α}
    (h : ∀ a ∈ l, ∃ b, f a = some b ∧ R b a) : ∃ bs, l.mapM f = some bs ∧ List.Forall₂ R bs l := by
  induction l with
  | nil => exact ⟨[], rfl, .nil⟩
  | cons a l ih =>
    obtain ⟨b, hb, hR⟩ := h a List.mem_cons_self
    obtain ⟨bs, hbs, hall⟩ := ih fun a ha => h a (List.mem_cons_of_mem _ ha)
    exact ⟨b :: bs, by rw [List.mapM_cons, hb, hbs]; rfl, .cons hR hall⟩

variable {types : EventTypes Event Kind} {send : WebhookRequest X Event → Except Str X.StatusCode}
  {webhooks : List (ConfiguredWebhook Kind)} {worker : WebhookWorker X Kind}

/-- `new` keeps the webhooks with their headers, and the index of their kinds. -/
theorem new_eq_ok (hnew : new X webhooks = .ok worker) :
    worker.webhooks = webhooks.map (fun webhook =>
      (webhook, (webhook.getHeaderMap X).toOption.getD none)) ∧
    worker.eventsMap = .ofPairs (eventPairs webhooks 0) := by
  rw [new] at hnew
  cases hclient : X.buildClient (webhooks.filterMap (·.certificatePath)) with
  | error text => rw [hclient] at hnew; nomatch hnew
  | ok client =>
    rw [hclient] at hnew
    cases hnew
    exact ⟨rfl, rfl⟩

/-- An event is sent to the positions that the index has for its kind. -/
theorem process_eq_mapM (types : EventTypes Event Kind)
    (send : WebhookRequest X Event → Except Str X.StatusCode)
    (hnew : new X webhooks = .ok worker) (event : Event) :
    worker.process types send event =
      (Multimap.valuesOf (eventPairs webhooks 0) (types.kindOf event)).mapM fun idx => do
        let webhook ← worker.webhooks[idx]?
        return (idx, executeWebhook send webhook event) := by
  rw [process, (new_eq_ok hnew).2, Multimap.lookup_ofPairs]
  by_cases hnil : Multimap.valuesOf (eventPairs webhooks 0) (types.kindOf event) = []
  · rw [if_pos hnil, hnil]
    rfl
  · rw [if_neg hnil]

/-- Each position gets the request of its webhook. -/
theorem process_of_new (types : EventTypes Event Kind)
    (send : WebhookRequest X Event → Except Str X.StatusCode)
    (hnew : new X webhooks = .ok worker) (event : Event) :
    ∃ tasks, worker.process types send event = some tasks ∧
      tasks.map Prod.fst = Multimap.valuesOf (eventPairs webhooks 0) (types.kindOf event) ∧
      ∀ task ∈ tasks, IsRequestOf webhooks event task := by
  have htask : ∀ idx ∈ Multimap.valuesOf (eventPairs webhooks 0) (types.kindOf event),
      ∃ task : Task X Event, (do
          let webhook ← worker.webhooks[idx]?
          return (idx, executeWebhook send webhook event)) = some task ∧
        IsRequestOf webhooks event task ∧ task.1 = idx := by
    intro idx hidx
    obtain ⟨-, webhook, hwebhook⟩ := exists_of_mem_eventPairs (Multimap.mem_valuesOf.mp hidx)
    rw [Nat.sub_zero] at hwebhook
    rw [(new_eq_ok hnew).1, List.getElem?_map, hwebhook]
    exact ⟨_, rfl, ⟨webhook, hwebhook, rfl⟩, rfl⟩
  obtain ⟨tasks, htasks, hall⟩ := exists_mapM_eq_some htask
  obtain ⟨hrequests, hindices⟩ := (List.forall₂_and_left _ _).mp hall
  refine ⟨tasks, (process_eq_mapM types send hnew event).trans htasks, ?_, hrequests⟩
  rwa [← List.forall₂_eq_eq_eq, List.forall₂_map_left_iff]

/-- One event is sent as it should be if and only if no webhook lists its kind twice. -/
theorem firesOnce_iff (hnew : new X webhooks = .ok worker) {event : Event}
    {tasks : List (Task X Event)} (htasks : worker.process types send event = some tasks) :
    FiresOnce types webhooks event tasks ↔
      ∀ webhook ∈ webhooks, webhook.events.count (types.kindOf event) ≤ 1 := by
  obtain ⟨tasks', htasks', hindices, hrequests⟩ :=
    process_of_new types send hnew event
  obtain rfl : tasks' = tasks := Option.some.inj (htasks'.symm.trans htasks)
  have hcount : ∀ {idx webhook}, webhooks[idx]? = some webhook →
      (tasks'.map Prod.fst).count idx = webhook.events.count (types.kindOf event) := by
    intro idx webhook hwebhook
    have h := count_eventPairs webhooks (types.kindOf event) 0 idx
    rwa [Nat.zero_add, hwebhook, ← hindices] at h
  constructor
  · rintro ⟨honce, -⟩ webhook hmem
    obtain ⟨idx, hwebhook⟩ := List.mem_iff_getElem?.mp hmem
    rw [← hcount hwebhook, honce idx webhook hwebhook]
    split <;> omega
  · intro honce
    refine ⟨fun idx webhook hwebhook => ?_, hrequests⟩
    have hle := honce webhook (List.mem_of_getElem? hwebhook)
    rw [hcount hwebhook]
    split
    · next hmem => exact le_antisymm hle (List.count_pos_iff.mpr hmem)
    · next hmem => exact List.count_eq_zero.mpr hmem

/-- The requests for the events are as they should be if and only if no webhook lists the kind of
one of them twice. -/
theorem run_firesOnce_iff (hnew : new X webhooks = .ok worker) (events : List Event) :
    (∃ rounds, worker.run types send events = some rounds ∧
      List.Forall₂ (FiresOnce types webhooks) events rounds) ↔
    ∀ event ∈ events, ∀ webhook ∈ webhooks, webhook.events.count (types.kindOf event) ≤ 1 := by
  obtain ⟨rounds, hrounds, hall⟩ := exists_mapM_eq_some (l := events)
    (R := fun tasks event => worker.process types send event = some tasks) fun event _ => by
      obtain ⟨tasks, htasks, -⟩ := process_of_new types send hnew event
      exact ⟨tasks, htasks, htasks⟩
  have hiff : List.Forall₂ (FiresOnce types webhooks) events rounds ↔
      ∀ event ∈ events, ∀ webhook ∈ webhooks,
        webhook.events.count (types.kindOf event) ≤ 1 := by
    clear hrounds
    induction hall with
    | nil => simp
    | cons htasks hall ih =>
      rw [List.forall₂_cons, List.forall_mem_cons, firesOnce_iff hnew htasks, ih]
  rw [← hiff]
  constructor
  · rintro ⟨rounds', hrounds', hfires⟩
    obtain rfl : rounds' = rounds := Option.some.inj (hrounds'.symm.trans hrounds)
    exact hfires
  · exact fun hfires => ⟨rounds, hrounds, hfires⟩

/-- Two webhooks at one address, for an event that both list once. -/
theorem run_firesOnce_twoWebhooks :
    ∃ worker : WebhookWorker .withoutTls EventKind,
      new .withoutTls
        [{ url := "https://a".toList, expectedStatus := none,
           events := [.incomingMessage, .outgoingMessage], headers := none,
           certificatePath := none },
         { url := "https://a".toList, expectedStatus := some 204, events := [.incomingMessage],
           headers := none, certificatePath := none }] = .ok worker ∧
      ∃ rounds, worker.run .standard (fun _ => .ok (204 : UInt16))
          [(EventKind.incomingMessage, "Hi".toList)] = some rounds ∧
        List.Forall₂ (FiresOnce .standard
          [{ url := "https://a".toList, expectedStatus := none,
             events := [.incomingMessage, .outgoingMessage], headers := none,
             certificatePath := none },
           { url := "https://a".toList, expectedStatus := some 204, events := [.incomingMessage],
             headers := none, certificatePath := none }])
          [(EventKind.incomingMessage, "Hi".toList)] rounds :=
  ⟨_, rfl, (run_firesOnce_iff rfl _).mpr (by decide)⟩

/-- A webhook that lists incoming messages twice is sent every message twice. -/
theorem process_listedTwice :
    ∃ webhook : ConfiguredWebhook EventKind,
      webhook.events = [.incomingMessage, .incomingMessage] ∧
      ∃ worker : WebhookWorker .withoutTls EventKind, new .withoutTls [webhook] = .ok worker ∧
        ∃ tasks, worker.process .standard (fun _ => .ok (200 : UInt16))
            (EventKind.incomingMessage, "Hi".toList) = some tasks ∧
          tasks.map (fun task => (task.1, task.2.1.url)) =
            [(0, "https://a".toList), (0, "https://a".toList)] ∧
          ¬ FiresOnce .standard [webhook] (EventKind.incomingMessage, "Hi".toList) tasks := by
  refine ⟨{ url := "https://a".toList, expectedStatus := none,
            events := [.incomingMessage, .incomingMessage], headers := none,
            certificatePath := none }, rfl, _, rfl, _, rfl, rfl, ?_⟩
  rintro ⟨honce, -⟩
  exact absurd (honce 0 _ rfl) (by decide)

end WebhookWorker

end SmsServer
