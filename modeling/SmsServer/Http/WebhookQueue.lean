import Mathlib.Algebra.Ring.Nat
import SmsServer.Http.Webhooks
import SmsServer.Library.BufferUnordered
import SmsServer.Library.Machine

/-!
# The queue of the webhook worker

`WebhookSender::send` puts events into an unbounded channel; the task of `WebhookWorker::run` takes
them out one at a time, and `process` has up to `CONCURRENCY_LIMIT` of the requests for an event
under way at once. `WebhookQueue.step` interleaves senders, the task and the answers of the
network.

The sequential `WebhookWorker.run` of `Http/Webhooks.lean` is what the interleaving is compared
with: `inRounds` says how far a run has come in it, and `completes` that it comes to its end.
-/

namespace SmsServer

open RustStd Machine FutureEvent

variable {F : Futures} {X : Reqwest} {Event Kind : Type}

/-- `CONCURRENCY_LIMIT`. -/
def concurrencyLimit : ℕ := 10

/-- A future of `process`: an event on its way to a webhook. -/
structure WebhookFuture (X : Reqwest) (Event Kind : Type) where
  taskIdx : ℕ
  webhookIdx : ℕ
  webhook : StoredWebhook X Kind
  event : Event

namespace WebhookFuture

/-- The position of the webhook and the request. -/
def request (self : WebhookFuture X Event Kind) : ℕ × WebhookRequest X Event :=
  (self.webhookIdx, webhookRequest self.webhook self.event)

end WebhookFuture

/-- The stream that `process` makes, `none` where an index is out of bounds. -/
def WebhookWorker.stream [DecidableEq Kind] (types : EventTypes Event Kind)
    (self : WebhookWorker X Kind) (event : Event) : Option (List (WebhookFuture X Event Kind)) :=
  match self.eventsMap.lookup (types.kindOf event) with
  | none => some []
  | some webhookIndices => webhookIndices.zipIdx.mapM fun entry => do
    let webhook ← self.webhooks[entry.1]?
    return { taskIdx := entry.2, webhookIdx := entry.1, webhook, event }

/-- The channel of the worker, and what it is processing. -/
structure WebhookQueue (F : Futures) (X : Reqwest) (Event Kind : Type) where
  eventReceiver : List Event
  processing : F.Buffered (WebhookFuture X Event Kind)

inductive WebhookStep (X : Reqwest) (Event : Type)
  /-- `WebhookSender::send`. -/
  | send (event : Event)
  /-- The worker takes the next event. -/
  | recv
  /-- A request is sent. -/
  | start
  /-- A request is answered, or fails. -/
  | finish (i : ℕ) (response : Except Str X.StatusCode)

/-- The step is one of the worker. -/
def WebhookStep.IsWorker : WebhookStep X Event → Prop
  | send _ => False
  | _ => True

inductive WebhookEffect (X : Reqwest) (Event Kind : Type)
  | future (event : FutureEvent (WebhookFuture X Event Kind))
  /-- What became of a request is logged. -/
  | logged (webhookIdx taskIdx : ℕ) (result : Except Str Unit)

namespace WebhookEffect

/-- What happens to the futures. -/
def futuresOf : List (WebhookEffect X Event Kind) →
    List (FutureEvent (WebhookFuture X Event Kind)) :=
  List.filterMap fun | future event => some event | logged .. => none

@[simp] theorem futuresOf_append (t u : List (WebhookEffect X Event Kind)) :
    futuresOf (t ++ u) = futuresOf t ++ futuresOf u := List.filterMap_append

theorem futuresOf_map (events : List (FutureEvent (WebhookFuture X Event Kind))) :
    futuresOf (events.map .future) = events := by
  rw [futuresOf, List.filterMap_map]
  exact List.filterMap_some

/-- The requests that are sent, in this order. -/
def requestsOf (t : List (WebhookEffect X Event Kind)) : List (ℕ × WebhookRequest X Event) :=
  (startedOf (futuresOf t)).map WebhookFuture.request

/-- The requests that are answered or have failed. -/
def answeredOf (t : List (WebhookEffect X Event Kind)) : List (ℕ × WebhookRequest X Event) :=
  (finishedOf (futuresOf t)).map WebhookFuture.request

end WebhookEffect

open WebhookEffect

namespace WebhookQueue

def new : WebhookQueue F X Event Kind := { eventReceiver := [], processing := F.ofStream [] }

/-- `WebhookSender::send`. -/
def send (self : WebhookQueue F X Event Kind) (event : Event) : WebhookQueue F X Event Kind :=
  { self with eventReceiver := self.eventReceiver ++ [event] }

/-- The events that are sent in a history. -/
def sentOf : List (WebhookQueue F X Event Kind × WebhookStep X Event) → List Event :=
  List.filterMap fun p => match p.2 with
    | .send event => some event
    | _ => none

@[simp] theorem sentOf_append
    (h h' : List (WebhookQueue F X Event Kind × WebhookStep X Event)) :
    sentOf (h ++ h') = sentOf h ++ sentOf h' := List.filterMap_append

variable [DecidableEq Kind]

def step (types : EventTypes Event Kind) (worker : WebhookWorker X Kind)
    (self : WebhookQueue F X Event Kind) :
    WebhookStep X Event → Option (WebhookQueue F X Event Kind × List (WebhookEffect X Event Kind))
  | .send event => some (self.send event, [])
  | .recv =>
    match self.eventReceiver with
    | [] => none
    | event :: eventReceiver =>
      if F.Exhausted self.processing then
        (worker.stream types event).map fun stream =>
          ({ eventReceiver, processing := F.ofStream stream }, [])
      else none
  | .start =>
    (F.poll concurrencyLimit self.processing .start).map fun next =>
      ({ self with processing := next.1 }, next.2.map .future)
  | .finish i response =>
    (F.poll concurrencyLimit self.processing (.finish i)).map fun next =>
      ({ self with processing := next.1 },
        next.2.map .future ++ (finishedOf next.2).map fun future =>
          .logged future.webhookIdx future.taskIdx
            (executeWebhook (fun _ => response) future.webhook future.event).2)

/-- How much the worker has left to do. -/
def work (types : EventTypes Event Kind) (worker : WebhookWorker X Kind)
    (self : WebhookQueue F X Event Kind) : ℕ :=
  (self.eventReceiver.map fun event =>
    1 + 2 * ((worker.stream types event).getD []).length).sum + F.work self.processing

/-! ### What a step does -/

variable {types : EventTypes Event Kind} {worker : WebhookWorker X Kind}
  {s s' : WebhookQueue F X Event Kind} {input : WebhookStep X Event}
  {out : List (WebhookEffect X Event Kind)}

/-- **Case analysis.** An event is sent, or taken when nothing is left of the one before, or the
stream of an event is polled. -/
inductive Move (types : EventTypes Event Kind) (worker : WebhookWorker X Kind)
    (s : WebhookQueue F X Event Kind) :
    WebhookStep X Event → WebhookQueue F X Event Kind →
      List (FutureEvent (WebhookFuture X Event Kind)) → Prop
  | sent (event : Event) :
    Move types worker s (.send event) (s.send event) []
  | received {event : Event} {eventReceiver : List Event}
      {stream : List (WebhookFuture X Event Kind)}
      (hevents : s.eventReceiver = event :: eventReceiver)
      (hexhausted : F.Exhausted s.processing) (hstream : worker.stream types event = some stream) :
    Move types worker s .recv { eventReceiver, processing := F.ofStream stream } []
  | polled {input : WebhookStep X Event} {poll : BufferedPoll}
      {processing : F.Buffered (WebhookFuture X Event Kind)}
      {events : List (FutureEvent (WebhookFuture X Event Kind))} (hworker : input.IsWorker)
      (hpoll : F.poll concurrencyLimit s.processing poll = some (processing, events)) :
    Move types worker s input { s with processing } events

theorem step_move (h : s.step types worker input = some (s', out)) :
    Move types worker s input s' (futuresOf out) := by
  cases input with
  | send event =>
    obtain ⟨rfl, rfl⟩ := Prod.mk.inj (Option.some_inj.mp h)
    exact .sent event
  | recv =>
    rw [step] at h
    split at h
    · cases h
    · next event eventReceiver hevents =>
      obtain ⟨hexhausted, heq⟩ := Option.ite_none_right_eq_some.mp h
      obtain ⟨stream, hstream, heq⟩ := Option.map_eq_some_iff.mp heq
      obtain ⟨rfl, rfl⟩ := Prod.mk.inj heq
      exact .received hevents hexhausted hstream
  | start =>
    obtain ⟨⟨processing, events⟩, hpoll, heq⟩ := Option.map_eq_some_iff.mp h
    obtain ⟨rfl, rfl⟩ := Prod.mk.inj heq
    rw [futuresOf_map]
    exact .polled trivial hpoll
  | finish i response =>
    obtain ⟨⟨processing, events⟩, hpoll, heq⟩ := Option.map_eq_some_iff.mp h
    obtain ⟨rfl, rfl⟩ := Prod.mk.inj heq
    have hlogged : futuresOf ((finishedOf events).map fun future =>
        (.logged future.webhookIdx future.taskIdx
          (executeWebhook (fun _ => response) future.webhook future.event).2 :
            WebhookEffect X Event Kind)) = [] := by
      simp [futuresOf, List.filterMap_map]
    rw [futuresOf_append, futuresOf_map, hlogged, List.append_nil]
    exact .polled trivial hpoll

/-! ### The stream and the sequential worker -/

/-- Numbering the elements of a list does not change what is done with each of them. -/
theorem mapM_zipIdx {α β γ : Type} {f : α → Option β} {g : α × ℕ → Option γ} {p : γ → β}
    (hg : ∀ a n, (g (a, n)).map p = f a) (l : List α) (n : ℕ) :
    ((l.zipIdx n).mapM g).map (List.map p) = l.mapM f := by
  induction l generalizing n with
  | nil => rfl
  | cons a l ih =>
    have ha := hg a n
    rw [List.zipIdx_cons, List.mapM_cons, List.mapM_cons, ← ih (n + 1), ← ha]
    cases g (a, n) with
    | none => rfl
    | some c => cases (l.zipIdx (n + 1)).mapM g <;> rfl

/-- The tasks of `process` are the futures of its stream, executed. -/
theorem process_eq_stream (send : WebhookRequest X Event → Except Str X.StatusCode)
    (event : Event) :
    worker.process types send event = (worker.stream types event).map (List.map fun future =>
      (future.webhookIdx, executeWebhook send future.webhook future.event)) := by
  rw [WebhookWorker.process, WebhookWorker.stream]
  cases worker.eventsMap.lookup (types.kindOf event) with
  | none => rfl
  | some webhookIndices =>
    refine (mapM_zipIdx (fun idx n => ?_) webhookIndices 0).symm
    cases worker.webhooks[idx]? <;> rfl

/-- The sequential worker sends the requests of the streams. -/
theorem run_eq_streams {send : WebhookRequest X Event → Except Str X.StatusCode}
    {events : List Event} {rounds : List (List (WebhookWorker.Task X Event))}
    (h : worker.run types send events = some rounds) :
    ∃ streams, events.mapM (worker.stream types) = some streams ∧
      rounds.map (List.map fun task => (task.1, task.2.1)) =
        streams.map (List.map WebhookFuture.request) := by
  induction events generalizing rounds with
  | nil =>
    obtain rfl : [] = rounds := Option.some.inj h
    exact ⟨[], rfl, rfl⟩
  | cons event events ih =>
    rw [WebhookWorker.run, List.mapM_cons, process_eq_stream] at h
    obtain ⟨tasks, htasks, h⟩ := Option.bind_eq_some_iff.mp h
    obtain ⟨stream, hstream, rfl⟩ := Option.map_eq_some_iff.mp htasks
    obtain ⟨rounds, hrounds, h⟩ := Option.bind_eq_some_iff.mp h
    obtain rfl : _ :: rounds = _ := Option.some.inj h
    obtain ⟨streams, hstreams, hequal⟩ := ih hrounds
    refine ⟨stream :: streams, by rw [List.mapM_cons, hstream, hstreams]; rfl, ?_⟩
    rw [List.map_cons, List.map_cons, hequal, List.map_map]
    rfl

/-! ### How far a run has come -/

/-- How far a run has come in the streams of the events that were sent: the streams `before` are
behind it, and of the next one `startedNow` was started and `finishedNow` has finished. -/
structure Position (types : EventTypes Event Kind) (worker : WebhookWorker X Kind)
    (events received : List Event) (before : List (List (WebhookFuture X Event Kind)))
    (startedNow finishedNow : List (WebhookFuture X Event Kind)) (s : WebhookQueue F X Event Kind)
    (t : List (FutureEvent (WebhookFuture X Event Kind))) : Prop where
  events_eq : events = received ++ s.eventReceiver
  streams :
    received.mapM (worker.stream types) = some (before ++ [startedNow ++ F.pending s.processing]) ∨
      received = [] ∧ before = [] ∧ startedNow ++ F.pending s.processing = []
  started : startedOf t = before.flatten ++ startedNow
  finished : (finishedOf t).Perm (before.flatten ++ finishedNow)
  inProgress : (finishedNow ++ F.inProgress s.processing).Perm startedNow
  limited : (F.inProgress s.processing).length ≤ concurrencyLimit

variable {events received : List Event} {before : List (List (WebhookFuture X Event Kind))}
  {startedNow finishedNow : List (WebhookFuture X Event Kind)}
  {t : List (FutureEvent (WebhookFuture X Event Kind))}

theorem position_new :
    Position types worker [] [] [] [] [] (new : WebhookQueue F X Event Kind) [] where
  events_eq := rfl
  streams := .inr ⟨rfl, rfl, by simp [new]⟩
  started := rfl
  finished := .refl _
  inProgress := by simp [new]
  limited := by simp [new]

/-- When nothing is left of the stream, the next one begins after it. -/
theorem Position.recv
    (h : Position types worker events received before startedNow finishedNow s t) {event : Event}
    {eventReceiver : List Event} {stream : List (WebhookFuture X Event Kind)}
    (hevents : s.eventReceiver = event :: eventReceiver) (hexhausted : F.Exhausted s.processing)
    (hstream : worker.stream types event = some stream) :
    ∃ before', Position types worker events (received ++ [event]) before' [] []
      { eventReceiver, processing := F.ofStream stream } t := by
  obtain ⟨hpending, hinProgress⟩ := hexhausted
  have hdone : finishedNow.Perm startedNow := by
    simpa [hinProgress] using h.inProgress
  have hall : (finishedOf t).Perm (before.flatten ++ startedNow) :=
    h.finished.trans (hdone.append_left _)
  have hevents' : events = (received ++ [event]) ++ eventReceiver := by
    rw [h.events_eq, hevents, List.append_assoc, List.singleton_append]
  rcases h.streams with hstreams | ⟨rfl, rfl, hnil⟩
  · rw [hpending, List.append_nil] at hstreams
    refine ⟨before ++ [startedNow], hevents', .inl ?_, ?_, ?_, by simp, by simp⟩
    · simp [List.mapM_append, hstreams, hstream]
    · simpa using h.started
    · simpa using hall
  · obtain ⟨rfl, -⟩ := List.append_eq_nil_iff.mp hnil
    refine ⟨[], hevents', .inl ?_, h.started, hall, by simp, by simp⟩
    simp [hstream]

/-- A step of the stream. -/
theorem Position.polled
    (h : Position types worker events received before startedNow finishedNow s t)
    {poll : BufferedPoll} {processing : F.Buffered (WebhookFuture X Event Kind)}
    {polled : List (FutureEvent (WebhookFuture X Event Kind))}
    (hpoll : F.poll concurrencyLimit s.processing poll = some (processing, polled)) :
    Position types worker events received before (startedNow ++ startedOf polled)
      (finishedNow ++ finishedOf polled) { s with processing } (t ++ polled) where
  events_eq := h.events_eq
  streams := by
    rw [List.append_assoc, Futures.startedOf_poll hpoll]
    exact h.streams
  started := by rw [startedOf_append, h.started, List.append_assoc]
  finished := by
    rw [finishedOf_append, ← List.append_assoc]
    exact h.finished.append_right _
  inProgress := by
    -- what was in progress and what is started now are what finishes and what goes on
    have hperm := (Futures.perm_poll hpoll).append_left finishedNow
    rw [← List.append_assoc, ← List.append_assoc] at hperm
    exact hperm.trans (h.inProgress.append_right _)
  limited := Futures.length_poll hpoll h.limited

theorem Move.position {out : List (FutureEvent (WebhookFuture X Event Kind))}
    (hmove : Move types worker s input s' out)
    (h : Position types worker events received before startedNow finishedNow s t) :
    ∃ received' before' startedNow' finishedNow', Position types worker
      (events ++ sentOf [(s, input)]) received' before' startedNow' finishedNow' s' (t ++ out) := by
  cases hmove with
  | sent event =>
    refine ⟨received, before, startedNow, finishedNow, ?_, h.streams, ?_, ?_, h.inProgress,
      h.limited⟩
    · rw [h.events_eq, List.append_assoc]
      rfl
    · rw [List.append_nil, h.started]
    · rw [List.append_nil]
      exact h.finished
  | received hevents hexhausted hstream =>
    obtain ⟨before', h'⟩ := h.recv hevents hexhausted hstream
    exact ⟨_, before', [], [], by simpa [sentOf] using h'⟩
  | polled hworker hpoll =>
    have hsent : sentOf [(s, input)] = [] := by
      cases input with
      | send event => exact hworker.elim
      | _ => rfl
    rw [hsent, List.append_nil]
    exact ⟨_, _, _, _, h.polled hpoll⟩

theorem run_position {h : List (WebhookQueue F X Event Kind × WebhookStep X Event)}
    {t : List (WebhookEffect X Event Kind)} (hrun : Run (step types worker) new h s t) :
    ∃ received before startedNow finishedNow, Position types worker (sentOf h) received before
      startedNow finishedNow s (futuresOf t) := by
  refine hrun.induct (P := fun h s t => ∃ received before startedNow finishedNow,
    Position types worker (sentOf h) received before startedNow finishedNow s (futuresOf t))
    ⟨[], [], [], [], position_new⟩ ?_
  rintro h s t input s' out - ⟨received, before, startedNow, finishedNow, hposition⟩ hstep
  rw [sentOf_append, futuresOf_append]
  exact (step_move hstep).position hposition

/-! ### Rounds -/

variable {webhooks : List (ConfiguredWebhook Kind)}

/-- The requests of the sequential worker, event by event. -/
def roundsOf (rounds : List (List (WebhookWorker.Task X Event))) :
    List (List (ℕ × WebhookRequest X Event)) :=
  rounds.map (List.map fun task => (task.1, task.2.1))

/-- A worker that was made from webhooks has a sequential run on all events. -/
theorem exists_run (types : EventTypes Event Kind)
    (hnew : WebhookWorker.new X webhooks = .ok worker)
    (send : WebhookRequest X Event → Except Str X.StatusCode) (events : List Event) :
    ∃ rounds, worker.run types send events = some rounds := by
  obtain ⟨rounds, hrounds, -⟩ := WebhookWorker.exists_mapM_eq_some (l := events)
    (R := fun _ _ => True) fun event _ => by
      obtain ⟨tasks, htasks, -⟩ := WebhookWorker.process_of_new types send hnew event
      exact ⟨tasks, htasks, trivial⟩
  exact ⟨rounds, hrounds⟩

/-- The streams behind a position and the present one are the first rounds. -/
theorem Position.rounds
    (h : Position types worker events received before startedNow finishedNow s t)
    {send : WebhookRequest X Event → Except Str X.StatusCode}
    {rounds : List (List (WebhookWorker.Task X Event))}
    (hrounds : worker.run types send events = some rounds) :
    (roundsOf rounds).take before.length = before.map (List.map WebhookFuture.request) ∧
      startedNow.map WebhookFuture.request <+: ((roundsOf rounds)[before.length]?).getD [] := by
  obtain ⟨streams, hstreams, hequal⟩ := run_eq_streams hrounds
  rw [roundsOf, hequal]
  rcases h.streams with hbefore | ⟨-, rfl, hnil⟩
  · rw [h.events_eq, List.mapM_append, hbefore] at hstreams
    obtain ⟨_, hfirst, hstreams⟩ := Option.bind_eq_some_iff.mp hstreams
    obtain rfl := Option.some.inj hfirst
    obtain ⟨rest, -, heq⟩ := Option.bind_eq_some_iff.mp hstreams
    obtain rfl : (before ++ [startedNow ++ F.pending s.processing]) ++ rest = streams :=
      Option.some.inj heq
    exact ⟨by simp, by simp⟩
  · obtain ⟨rfl, -⟩ := List.append_eq_nil_iff.mp hnil
    exact ⟨rfl, List.nil_prefix⟩

/-- **In rounds.** After any run, the requests sent are those of the sequential worker for the
first events, in its order, and some of the first for the event that follows; all requests for the
events before that one were answered, and the others that were not are at most ten. -/
theorem inRounds (hnew : WebhookWorker.new X webhooks = .ok worker)
    (send : WebhookRequest X Event → Except Str X.StatusCode)
    {h : List (WebhookQueue F X Event Kind × WebhookStep X Event)}
    {t : List (WebhookEffect X Event Kind)} (hrun : Run (step types worker) new h s t) :
    ∃ rounds k startedNow finishedNow, worker.run types send (sentOf h) = some rounds ∧
      requestsOf t = ((roundsOf rounds).take k).flatten ++ startedNow ∧
      startedNow <+: ((roundsOf rounds)[k]?).getD [] ∧
      (answeredOf t).Perm (((roundsOf rounds).take k).flatten ++ finishedNow) ∧
      (finishedNow ++ (F.inProgress s.processing).map WebhookFuture.request).Perm startedNow ∧
      (F.inProgress s.processing).length ≤ concurrencyLimit := by
  obtain ⟨rounds, hrounds⟩ := exists_run types hnew send (sentOf h)
  obtain ⟨received, before, startedNow, finishedNow, hposition⟩ := run_position hrun
  obtain ⟨htake, hprefix⟩ := hposition.rounds hrounds
  refine ⟨rounds, before.length, startedNow.map WebhookFuture.request,
    finishedNow.map WebhookFuture.request, hrounds, ?_, hprefix, ?_, ?_, hposition.limited⟩
  · rw [requestsOf, hposition.started, htake, List.map_append, List.map_flatten]
  · rw [answeredOf, htake, ← List.map_flatten, ← List.map_append]
    exact hposition.finished.map _
  · rw [← List.map_append]
    exact hposition.inProgress.map _

/-! ### What one webhook is sent -/

/-- The events that are sent to a webhook. -/
def sentTo (webhookIdx : ℕ) : List (ℕ × WebhookRequest X Event) → List Event :=
  List.filterMap fun request => if request.1 = webhookIdx then some request.2.json else none

/-- The first lists and the one that follows are the beginning of all of them. -/
theorem flatten_take_isPrefix {α : Type} (ls : List (List α)) (k : ℕ) :
    (ls.take k).flatten ++ (ls[k]?).getD [] <+: ls.flatten := by
  induction ls generalizing k with
  | nil => simp
  | cons l ls ih =>
    cases k with
    | zero => simp
    | succ k =>
      rw [List.take_succ_cons, List.getElem?_cons_succ, List.flatten_cons, List.flatten_cons,
        List.append_assoc]
      exact (List.prefix_append_right_inj l).mpr (ih k)

/-- The requests sent are a prefix of those of the sequential worker. -/
theorem requestsOf_isPrefix {send : WebhookRequest X Event → Except Str X.StatusCode}
    {h : List (WebhookQueue F X Event Kind × WebhookStep X Event)}
    {t : List (WebhookEffect X Event Kind)} (hrun : Run (step types worker) new h s t)
    {rounds : List (List (WebhookWorker.Task X Event))}
    (hrounds : worker.run types send (sentOf h) = some rounds) :
    requestsOf t <+: (roundsOf rounds).flatten := by
  obtain ⟨received, before, startedNow, finishedNow, hposition⟩ := run_position hrun
  obtain ⟨htake, hnow⟩ := hposition.rounds hrounds
  rw [requestsOf, hposition.started, List.map_append, List.map_flatten, ← htake]
  exact ((List.prefix_append_right_inj _).mpr hnow).trans (flatten_take_isPrefix _ _)

/-- An event is sent to a webhook as often as the webhook lists its kind. -/
theorem sentTo_process (hnew : WebhookWorker.new X webhooks = .ok worker)
    {send : WebhookRequest X Event → Except Str X.StatusCode} {event : Event}
    {tasks : List (WebhookWorker.Task X Event)}
    (htasks : worker.process types send event = some tasks) {webhookIdx : ℕ}
    {webhook : ConfiguredWebhook Kind} (hwebhook : webhooks[webhookIdx]? = some webhook) :
    sentTo webhookIdx (tasks.map fun task => (task.1, task.2.1)) =
      List.replicate (webhook.events.count (types.kindOf event)) event := by
  obtain ⟨tasks', htasks', hindices, hrequests⟩ :=
    WebhookWorker.process_of_new types send hnew event
  obtain rfl : tasks' = tasks := Option.some.inj (htasks'.symm.trans htasks)
  have hcount : (tasks'.map Prod.fst).count webhookIdx =
      webhook.events.count (types.kindOf event) := by
    have hentries := WebhookWorker.count_eventPairs webhooks (types.kindOf event) 0 webhookIdx
    rwa [Nat.zero_add, hwebhook, ← hindices] at hentries
  rw [← hcount]
  clear htasks htasks' hindices hcount
  induction tasks' with
  | nil => rfl
  | cons task tasks ih =>
    obtain ⟨⟨webhook', -, hrequest⟩, hrest⟩ := List.forall_mem_cons.mp hrequests
    rw [List.map_cons, List.map_cons, List.count_cons, sentTo, List.filterMap_cons]
    by_cases hidx : task.1 = webhookIdx
    · simp only [hidx, if_true, beq_self_eq_true, hrequest, List.replicate_succ]
      exact congrArg _ (ih hrest)
    · simp only [hidx, if_false, beq_iff_eq, Nat.add_zero]
      exact ih hrest

/-- A webhook that lists kinds once is sent the events of these kinds, in their order. -/
theorem sentTo_run (hnew : WebhookWorker.new X webhooks = .ok worker)
    {send : WebhookRequest X Event → Except Str X.StatusCode} {webhookIdx : ℕ}
    {webhook : ConfiguredWebhook Kind} (hwebhook : webhooks[webhookIdx]? = some webhook)
    {P : Kind → Prop} [DecidablePred P]
    (hkinds : ∀ k, webhook.events.count k = if P k then 1 else 0) {events : List Event}
    {rounds : List (List (WebhookWorker.Task X Event))}
    (hrounds : worker.run types send events = some rounds) :
    sentTo webhookIdx (roundsOf rounds).flatten =
      events.filter fun event => P (types.kindOf event) := by
  induction events generalizing rounds with
  | nil =>
    obtain rfl : [] = rounds := Option.some.inj hrounds
    rfl
  | cons event events ih =>
    rw [WebhookWorker.run, List.mapM_cons] at hrounds
    obtain ⟨tasks, htasks, hrounds⟩ := Option.bind_eq_some_iff.mp hrounds
    obtain ⟨rest, hrest, hrounds⟩ := Option.bind_eq_some_iff.mp hrounds
    obtain rfl : tasks :: rest = rounds := Option.some.inj hrounds
    rw [roundsOf, List.map_cons, List.flatten_cons, sentTo, List.filterMap_append,
      List.filter_cons]
    have hround := sentTo_process hnew htasks hwebhook
    rw [sentTo, hkinds] at hround
    rw [hround]
    have hlast := ih hrest
    rw [sentTo, roundsOf] at hlast
    rw [hlast]
    by_cases hP : P (types.kindOf event) <;> simp [hP]

/-- Two webhooks for one event, of which the second is answered first. -/
theorem inRounds_twoWebhooks :
    let webhooks : List (ConfiguredWebhook EventKind) :=
      [{ url := "https://a".toList, expectedStatus := none, events := [.incomingMessage],
         headers := none, certificatePath := none },
       { url := "https://b".toList, expectedStatus := some 204, events := [.incomingMessage],
         headers := none, certificatePath := none }]
    ∃ worker : WebhookWorker .withoutTls EventKind,
      WebhookWorker.new .withoutTls webhooks = .ok worker ∧
      ∃ (h : List (WebhookQueue .ofLists .withoutTls (EventKind × Str) EventKind ×
            WebhookStep .withoutTls (EventKind × Str)))
        (s : WebhookQueue .ofLists .withoutTls (EventKind × Str) EventKind)
        (t : List (WebhookEffect .withoutTls (EventKind × Str) EventKind)),
        Run (step .standard worker) new h s t ∧
        (answeredOf t).map (fun r => r.2.url) = ["https://b".toList] ∧
        ∃ rounds k startedNow finishedNow,
          worker.run .standard (fun _ => .ok (204 : UInt16)) (sentOf h) = some rounds ∧
          requestsOf t = ((roundsOf rounds).take k).flatten ++ startedNow ∧
          startedNow <+: ((roundsOf rounds)[k]?).getD [] ∧
          (answeredOf t).Perm (((roundsOf rounds).take k).flatten ++ finishedNow) ∧
          (finishedNow ++ (Futures.ofLists.inProgress s.processing).map
            WebhookFuture.request).Perm startedNow ∧
          (Futures.ofLists.inProgress s.processing).length ≤ concurrencyLimit := by
  intro webhooks
  let worker : WebhookWorker .withoutTls EventKind :=
    { webhooks := webhooks.map (·, none)
      eventsMap := .ofPairs (WebhookWorker.eventPairs webhooks 0), client := () }
  have hnew : WebhookWorker.new .withoutTls webhooks = .ok worker := rfl
  obtain ⟨s, t, -, hrun, hanswered⟩ := Run.of_execute (step .standard worker)
    (new : WebhookQueue .ofLists _ _ _)
    [.send (EventKind.incomingMessage, "Hi".toList), .recv, .start, .start,
      .finish 1 (.ok (204 : UInt16))]
    (fun r => (answeredOf r.2).map fun r => r.2.url) (b := ["https://b".toList]) rfl
  exact ⟨worker, hnew, _, s, t, hrun, hanswered, inRounds hnew _ hrun⟩

/-! ### Coming to the end -/

/-- A step of the worker is progress. -/
theorem work_step (hworker : input.IsWorker) (h : s.step types worker input = some (s', out)) :
    s'.work types worker < s.work types worker := by
  have hmove := step_move h
  generalize futuresOf out = events at hmove
  cases hmove with
  | sent event => exact hworker.elim
  | received hevents hexhausted hstream =>
    simp only [work, hevents, hstream, List.map_cons, List.sum_cons, Option.getD_some,
      Futures.work_ofStream]
    omega
  | polled _ hpoll =>
    have := Futures.work_poll hpoll
    simp only [work]
    omega

/-- The worker has nothing to do. -/
def Idle (self : WebhookQueue F X Event Kind) : Prop :=
  self.eventReceiver = [] ∧ F.Exhausted self.processing

/-- The worker can go on, whatever the network answers. -/
def CanGoOn (types : EventTypes Event Kind) (worker : WebhookWorker X Kind)
    (self : WebhookQueue F X Event Kind) : Prop :=
  ∀ response, ∃ input ∈ [.recv, .start, .finish 0 response],
    (self.step types worker input).isSome

theorem canGoOn_of_not_idle (hnew : WebhookWorker.new X webhooks = .ok worker)
    (h : ¬ s.Idle) : s.CanGoOn types worker := by
  intro response
  by_cases hexhausted : F.Exhausted s.processing
  · -- the next event is taken, and it has a stream
    have hevents : s.eventReceiver ≠ [] := fun hnil => h ⟨hnil, hexhausted⟩
    obtain ⟨event, eventReceiver, hcons⟩ := List.exists_cons_of_ne_nil hevents
    obtain ⟨tasks, htasks, -⟩ := WebhookWorker.process_of_new types
      (fun _ => .error []) hnew event
    rw [process_eq_stream] at htasks
    obtain ⟨stream, hstream, -⟩ := Option.map_eq_some_iff.mp htasks
    refine ⟨.recv, by simp, ?_⟩
    simp [step, hcons, hexhausted, hstream]
  · rcases F.exists_poll (show 0 < concurrencyLimit by decide) hexhausted with
      hpoll | hpoll
    · exact ⟨.start, by simp, by simpa [step] using hpoll⟩
    · exact ⟨.finish 0 response, by simp, by simpa [step] using hpoll⟩

/-- A worker that has nothing to do has sent every request, and all are answered. -/
theorem answered_of_idle (hnew : WebhookWorker.new X webhooks = .ok worker)
    (send : WebhookRequest X Event → Except Str X.StatusCode)
    {h : List (WebhookQueue F X Event Kind × WebhookStep X Event)}
    {t : List (WebhookEffect X Event Kind)} (hrun : Run (step types worker) new h s t)
    (hidle : s.Idle) :
    ∃ rounds, worker.run types send (sentOf h) = some rounds ∧
      requestsOf t = (roundsOf rounds).flatten ∧
      (answeredOf t).Perm (roundsOf rounds).flatten := by
  obtain ⟨rounds, hrounds⟩ := exists_run types hnew send (sentOf h)
  obtain ⟨received, before, startedNow, finishedNow, hposition⟩ := run_position hrun
  obtain ⟨hevents, hpending, hinProgress⟩ := hidle
  obtain ⟨streams, hstreams, hequal⟩ := run_eq_streams hrounds
  have hreceived : sentOf h = received := by
    rw [hposition.events_eq, hevents, List.append_nil]
  -- the stream of the last event is behind the worker as well
  have hall : streams.flatten = before.flatten ++ startedNow := by
    rw [hreceived] at hstreams
    rcases hposition.streams with hbefore | ⟨rfl, rfl, hnil⟩
    · rw [hbefore, hpending, List.append_nil, Option.some_inj] at hstreams
      simp [← hstreams]
    · obtain ⟨rfl, -⟩ := List.append_eq_nil_iff.mp hnil
      obtain rfl : [] = streams := Option.some.inj hstreams
      rfl
  have hfinished : (finishedOf (futuresOf t)).Perm (before.flatten ++ startedNow) := by
    have hdone := hposition.inProgress
    rw [hinProgress, List.append_nil] at hdone
    exact hposition.finished.trans (hdone.append_left _)
  refine ⟨rounds, hrounds, ?_, ?_⟩
  · rw [roundsOf, hequal, ← List.map_flatten, hall, requestsOf, hposition.started]
  · rw [roundsOf, hequal, ← List.map_flatten, hall]
    exact hfinished.map _

/-- **To the end.** From any state, once no more events are sent, the worker takes a bounded number
of steps, whatever the network answers; and it can go on until every request of the sequential
worker was sent, in its order, and answered. -/
theorem completes (hnew : WebhookWorker.new X webhooks = .ok worker)
    (send : WebhookRequest X Event → Except Str X.StatusCode)
    {h h' : List (WebhookQueue F X Event Kind × WebhookStep X Event)}
    {t t' : List (WebhookEffect X Event Kind)} (hrun : Run (step types worker) new h s t)
    (hrest : Run (step types worker) s h' s' t') (hworker : ∀ p ∈ h', p.2.IsWorker) :
    h'.length ≤ s.work types worker ∧
      (s'.CanGoOn types worker ∨
        ∃ rounds, worker.run types send (sentOf h) = some rounds ∧
          requestsOf (t ++ t') = (roundsOf rounds).flatten ∧
          (answeredOf (t ++ t')).Perm (roundsOf rounds).flatten) := by
  have hlength := hrest.length_le_of_measure (μ := work types worker)
    (G := fun _ input => input.IsWorker) (fun _ _ _ _ => work_step) hworker
  refine ⟨Nat.le_of_add_right_le hlength, ?_⟩
  by_cases hidle : s'.Idle
  · right
    obtain ⟨rounds, hrounds, hsent⟩ := answered_of_idle hnew send (hrun.append hrest) hidle
    -- the worker sends no events
    have hnone : sentOf h' = [] := by
      refine List.filterMap_eq_nil_iff.mpr fun p hp => ?_
      have := hworker p hp
      split
      · next event heq =>
        rw [heq] at this
        exact this.elim
      · rfl
    rw [sentOf_append, hnone, List.append_nil] at hrounds
    exact ⟨rounds, hrounds, hsent⟩
  · exact .inl (canGoOn_of_not_idle hnew hidle)

/-- An event that was sent, and the steps of the worker for it. -/
theorem completes_oneWebhook :
    let webhooks : List (ConfiguredWebhook EventKind) :=
      [{ url := "https://a".toList, expectedStatus := none, events := [.deliveryReport],
         headers := none, certificatePath := none }]
    ∃ worker : WebhookWorker .withoutTls EventKind,
      WebhookWorker.new .withoutTls webhooks = .ok worker ∧
      ∃ (h h' : List (WebhookQueue .ofLists .withoutTls (EventKind × Str) EventKind ×
            WebhookStep .withoutTls (EventKind × Str)))
        (s s' : WebhookQueue .ofLists .withoutTls (EventKind × Str) EventKind)
        (t t' : List (WebhookEffect .withoutTls (EventKind × Str) EventKind)),
        Run (step .standard worker) new h s t ∧ Run (step .standard worker) s h' s' t' ∧
        h'.map Prod.snd = [.recv, .start, .finish 0 (.error "timed out".toList)] ∧
        h'.length ≤ s.work .standard worker ∧
        (s'.CanGoOn .standard worker ∨
          ∃ rounds, worker.run .standard (fun _ => .ok (200 : UInt16)) (sentOf h) = some rounds ∧
            requestsOf (t ++ t') = (roundsOf rounds).flatten ∧
            (answeredOf (t ++ t')).Perm (roundsOf rounds).flatten) := by
  intro webhooks
  let worker : WebhookWorker .withoutTls EventKind :=
    { webhooks := webhooks.map (·, none)
      eventsMap := .ofPairs (WebhookWorker.eventPairs webhooks 0), client := () }
  have hnew : WebhookWorker.new .withoutTls webhooks = .ok worker := rfl
  let event : EventKind × Str := (.deliveryReport, "Hi".toList)
  let sent : WebhookQueue .ofLists .withoutTls (EventKind × Str) EventKind := new.send event
  obtain ⟨s, t, -, hrun, hs⟩ := Run.of_execute (step .standard worker)
    (new : WebhookQueue .ofLists _ _ _) [.send event] Prod.fst (b := sent) rfl
  obtain rfl : s = sent := hs
  obtain ⟨s', t', hinputs, hrest, -⟩ := Run.of_execute (step .standard worker) sent
    [.recv, .start, .finish 0 (.error "timed out".toList)] (fun r => r.2.length) (b := 3) rfl
  have hworker : ∀ p ∈ history (step .standard worker) sent
      [.recv, .start, .finish 0 (.error "timed out".toList)], p.2.IsWorker := by
    intro p hp
    have hmem := List.mem_map_of_mem (f := Prod.snd) hp
    rw [hinputs] at hmem
    simp only [List.mem_cons, List.not_mem_nil, or_false] at hmem
    rcases hmem with hp | hp | hp <;> rw [hp] <;> trivial
  exact ⟨worker, hnew, _, _, _, s', t, t', hrun, hrest, hinputs,
    completes hnew _ hrun hrest hworker⟩

end WebhookQueue

end SmsServer
