import SmsServer.Events

/-!
# WebSocket connections

`handle_websocket` of `http/websocket.rs`: for each connection a writer, which takes messages and
ping data from two channels in no fixed order, a reader, and the handler itself, which waits for
either and then removes the connection. The handler drops the task it did not wait for without
ending it, and a task ends when it finds a channel closed.

`Sockets` runs any number of connections beside the broadcasts. For the manager this is a history
like any other (`run_manager`), so what it queues is known; and here is what becomes of it.

* `written_inOrder`: what a client is sent are its events in order and pongs for its pings in
  order, without gaps, and while the connection is open nothing but what is still queued is missing.
* `registered_iff`: the map holds the connections whose handler runs, except those whose writer has
  ended and that were pruned.
* `cleaned_up`: once the clients are gone, the tasks come to an end by themselves, and leave the map
  empty.
-/

namespace SmsServer

open RustStd Machine

/-! ### The tasks of a connection -/

/-- `axum::extract::ws::Message`. -/
inductive SocketMessage
  | text (content : Str)
  | binary (data : List UInt8)
  | ping (data : List UInt8)
  | pong (data : List UInt8)
  | close
  deriving DecidableEq, Repr

/-- What `receiver.next()` returns. -/
inductive Received
  | message (message : SocketMessage)
  | failed
  | ended
  deriving DecidableEq, Repr

/-- Where the writer is. -/
inductive WriterStage
  | selecting
  | sending (message : SocketMessage)
  | ended
  deriving DecidableEq, Repr

structure ConnectionTasks where
  id : Str
  /-- The messages in `rx`. -/
  texts : List Str
  /-- The ping data in `ping_rx`. -/
  pings : List (List UInt8)
  writer : WriterStage
  reading : Bool
  /-- The handler waits for its tasks. -/
  handling : Bool
  deriving DecidableEq, Repr

/-- A step of one of the tasks. -/
inductive ConnectionStep
  /-- The writer takes a message. -/
  | takeText
  /-- The writer takes ping data. -/
  | takePing
  /-- `sender.send` returns. -/
  | sent (ok : Bool)
  /-- The writer finds one of its channels closed. -/
  | channelClosed
  | receive (received : Received)
  /-- A task has ended, and the handler removes the connection. -/
  | finish
  deriving DecidableEq, Repr

namespace SocketMessage

/-- The texts among messages. -/
def textsOf : List SocketMessage → List Str :=
  List.filterMap fun
    | text content => some content
    | _ => none

/-- The data of the pongs among messages. -/
def pongsOf : List SocketMessage → List (List UInt8) :=
  List.filterMap fun
    | pong data => some data
    | _ => none

variable (written written' : List SocketMessage)

@[simp] theorem textsOf_append :
    textsOf (written ++ written') = textsOf written ++ textsOf written' :=
  List.filterMap_append

@[simp] theorem pongsOf_append :
    pongsOf (written ++ written') = pongsOf written ++ pongsOf written' :=
  List.filterMap_append

end SocketMessage

open SocketMessage

namespace ConnectionTasks

def new (id : Str) : ConnectionTasks :=
  { id, texts := [], pings := [], writer := .selecting, reading := true, handling := true }

/-- Messages are sent to `rx`, or to nobody. -/
def push (self : ConnectionTasks) (messages : List Str) : ConnectionTasks :=
  if self.writer = .ended then self else { self with texts := self.texts ++ messages }

/-- The writer returns and drops `rx` and `ping_rx`. -/
def endWriter (self : ConnectionTasks) : ConnectionTasks :=
  { self with texts := [], pings := [], writer := .ended }

/-- A step of a task, with what it does to the map of connections and what it writes. A message can
come as long as the sender is `connected`, in the map. -/
def step {Event Kind : Type} (channel : ChannelId) (connected : Bool) (self : ConnectionTasks) :
    ConnectionStep →
      Option (ConnectionTasks × Option (WebSocketInput Event Kind) × List SocketMessage)
  | .takeText =>
    match self.writer, self.texts with
    | .selecting, content :: texts =>
      some ({ self with writer := .sending (.text content), texts }, none, [])
    | _, _ => none
  | .takePing =>
    match self.writer, self.pings with
    | .selecting, data :: pings =>
      some ({ self with writer := .sending (.pong data), pings }, none, [])
    | _, _ => none
  | .sent ok =>
    match self.writer with
    | .sending message =>
      if ok then some ({ self with writer := .selecting }, none, [message])
      else some (self.endWriter, some (.hangUp channel), [])
    | _ => none
  | .channelClosed =>
    if self.writer = .selecting ∧
        (self.texts = [] ∧ ¬ connected ∨ self.pings = [] ∧ ¬ self.reading) then
      some (self.endWriter, some (.hangUp channel), [])
    else none
  | .receive received =>
    if ¬ self.reading then none
    else match received with
      | .message (.ping data) =>
        if self.writer = .ended then some ({ self with reading := false }, none, [])
        else some ({ self with pings := self.pings ++ [data] }, none, [])
      | .message .close | .failed | .ended => some ({ self with reading := false }, none, [])
      | .message _ => some (self, none, [])
  | .finish =>
    if self.handling ∧ (self.writer = .ended ∨ ¬ self.reading) then
      some ({ self with handling := false }, some (.removeConnection self.id), [])
    else none

/-- What a step does. -/
inductive Move {Event Kind : Type} (channel : ChannelId) (s : ConnectionTasks) :
    ConnectionStep → ConnectionTasks → Option (WebSocketInput Event Kind) → List SocketMessage →
      Prop
  | tookText (content : Str) (texts : List Str) (hwriter : s.writer = .selecting)
      (htexts : s.texts = content :: texts) :
    Move channel s .takeText { s with writer := .sending (.text content), texts } none []
  | tookPing (data : List UInt8) (pings : List (List UInt8)) (hwriter : s.writer = .selecting)
      (hpings : s.pings = data :: pings) :
    Move channel s .takePing { s with writer := .sending (.pong data), pings } none []
  | wrote (message : SocketMessage) (hwriter : s.writer = .sending message) :
    Move channel s (.sent true) { s with writer := .selecting } none [message]
  /-- A message could not be sent, or a channel was closed. -/
  | writerEnded (input : ConnectionStep) (hinput : input = .sent false ∨ input = .channelClosed)
      (hwriter : s.writer ≠ .ended) :
    Move channel s input s.endWriter (some (.hangUp channel)) []
  | pinged (data : List UInt8) (hwriter : s.writer ≠ .ended) (hreading : s.reading = true) :
    Move channel s (.receive (.message (.ping data))) { s with pings := s.pings ++ [data] } none []
  | readerEnded (received : Received)
      (hping : ∀ data, received = .message (.ping data) → s.writer = .ended)
      (hreading : s.reading = true) :
    Move channel s (.receive received) { s with reading := false } none []
  | ignored (message : SocketMessage) (hping : ∀ data, message ≠ .ping data)
      (hreading : s.reading = true) :
    Move channel s (.receive (.message message)) s none []
  | finished (hhandling : s.handling = true) :
    Move channel s .finish { s with handling := false } (some (.removeConnection s.id)) []

/-- **Case analysis.** Every step is a move. -/
theorem step_move {Event Kind : Type} {channel : ChannelId} {connected : Bool}
    {s s' : ConnectionTasks} {input : ConnectionStep} {call : Option (WebSocketInput Event Kind)}
    {written : List SocketMessage}
    (h : s.step channel connected input = some (s', call, written)) :
    Move channel s input s' call written := by
  cases input with
  | takeText =>
    simp only [step] at h
    split at h
    · next content texts hwriter htexts =>
      cases h
      exact .tookText content texts hwriter htexts
    · cases h
  | takePing =>
    simp only [step] at h
    split at h
    · next data pings hwriter hpings =>
      cases h
      exact .tookPing data pings hwriter hpings
    · cases h
  | sent ok =>
    simp only [step] at h
    split at h
    · next message hwriter =>
      cases ok with
      | true =>
        cases h
        exact .wrote message hwriter
      | false =>
        cases h
        exact .writerEnded _ (.inl rfl) (by simp [hwriter])
    · cases h
  | channelClosed =>
    obtain ⟨⟨hwriter, -⟩, h⟩ := Option.ite_none_right_eq_some.mp h
    cases h
    exact .writerEnded _ (.inr rfl) (by simp [hwriter])
  | receive received =>
    obtain ⟨hreading, h⟩ := Option.ite_none_left_eq_some.mp h
    replace hreading : s.reading = true := not_not.mp hreading
    split at h
    · split at h
      · next hwriter =>
        cases h
        exact .readerEnded _ (fun _ _ => hwriter) hreading
      · next hwriter =>
        cases h
        exact .pinged _ hwriter hreading
    · cases h
      exact .readerEnded _ (by simp) hreading
    · cases h
      exact .readerEnded _ (by simp) hreading
    · cases h
      exact .readerEnded _ (by simp) hreading
    · next hping _ _ =>
      cases h
      exact .ignored _ hping hreading
  | finish =>
    obtain ⟨⟨hhandling, -⟩, h⟩ := Option.ite_none_right_eq_some.mp h
    cases h
    exact .finished hhandling

/-! ### What becomes of messages and pings -/

/-- The message that is being sent. -/
def inFlight (self : ConnectionTasks) : List SocketMessage :=
  match self.writer with
  | .sending message => [message]
  | _ => []

/-- The ping data that the reader gets in a step. -/
def pingOf : ConnectionStep → List (List UInt8)
  | .receive (.message (.ping data)) => [data]
  | _ => []

/-- What was queued and pinged was written, or is being written, or waits, up to what a writer that
has ended leaves behind; and nothing else is written. -/
structure Accounted (self : ConnectionTasks) (queued : List Str) (pinged : List (List UInt8))
    (written : List SocketMessage) : Prop where
  texts : ∃ lost, textsOf (written ++ self.inFlight) ++ self.texts ++ lost = queued ∧
    (self.writer ≠ .ended → lost = [])
  pongs : ∃ lost, pongsOf (written ++ self.inFlight) ++ self.pings ++ lost = pinged ∧
    (self.writer ≠ .ended → lost = [])
  shape : ∀ message ∈ written ++ self.inFlight,
    (∃ content, message = .text content) ∨ ∃ data, message = .pong data

variable {Event Kind : Type} {channel : ChannelId} {s s' : ConnectionTasks} {input : ConnectionStep}
  {call : Option (WebSocketInput Event Kind)} {written out : List SocketMessage}
  {queued : List Str} {pinged : List (List UInt8)}

@[simp] theorem id_push (self : ConnectionTasks) (messages : List Str) :
    (self.push messages).id = self.id := by
  unfold ConnectionTasks.push
  split <;> rfl

@[simp] theorem handling_push (self : ConnectionTasks) (messages : List Str) :
    (self.push messages).handling = self.handling := by
  unfold ConnectionTasks.push
  split <;> rfl

@[simp] theorem writer_push (self : ConnectionTasks) (messages : List Str) :
    (self.push messages).writer = self.writer := by
  unfold ConnectionTasks.push
  split <;> rfl

theorem Move.id_eq (hmove : s.Move channel input s' call out) : s'.id = s.id := by
  cases hmove <;> rfl

theorem Move.writer_ended (hmove : s.Move channel input s' call out) (h : s.writer = .ended) :
    s'.writer = .ended := by
  cases hmove with
  | tookText _ _ hwriter => cases hwriter.symm.trans h
  | tookPing _ _ hwriter => cases hwriter.symm.trans h
  | wrote _ hwriter => cases hwriter.symm.trans h
  | writerEnded => rfl
  | _ => exact h

theorem Move.handling_le (hmove : s.Move channel input s' call out) (h : s'.handling = true) :
    s.handling = true := by
  cases hmove with
  | finished => cases h
  | _ => exact h

/-- A bound on the steps that the writer and the handler still take by themselves. -/
def workLeft (self : ConnectionTasks) : ℕ :=
  self.handling.toNat + match self.writer with
    | .selecting => 2 * (self.texts.length + self.pings.length) + 1
    | .sending _ => 2 * (self.texts.length + self.pings.length) + 2
    | .ended => 0

/-- Without a reader, every step of the tasks brings them closer to their end. -/
theorem Move.workLeft_lt (hmove : s.Move channel input s' call out) (hreading : s.reading = false) :
    s'.workLeft < s.workLeft ∧ s'.reading = false := by
  cases hmove with
  | tookText content texts hwriter htexts =>
    exact ⟨by simp [workLeft, hwriter, htexts]; omega, hreading⟩
  | tookPing data pings hwriter hpings =>
    exact ⟨by simp [workLeft, hwriter, hpings]; omega, hreading⟩
  | wrote message hwriter => exact ⟨by simp [workLeft, hwriter], hreading⟩
  | writerEnded _ hinput hwriter =>
    refine ⟨?_, hreading⟩
    cases hstage : s.writer with
    | ended => exact absurd hstage hwriter
    | _ =>
      simp only [workLeft, endWriter, hstage]
      omega
  | pinged _ _ hreading' => cases hreading.symm.trans hreading'
  | readerEnded _ _ hreading' => cases hreading.symm.trans hreading'
  | ignored _ _ hreading' => cases hreading.symm.trans hreading'
  | finished hhandling => exact ⟨by simp [workLeft, hhandling], hreading⟩

/-- Without a reader, the tasks can go on until all have ended. -/
theorem exists_step (Event Kind : Type) (channel : ChannelId) (connected : Bool)
    (hreading : s.reading = false) (hleft : s.writer ≠ .ended ∨ s.handling = true) :
    ∃ input, (s.step channel connected input :
      Option (_ × Option (WebSocketInput Event Kind) × _)).isSome := by
  cases hhandling : s.handling with
  | true => exact ⟨.finish, by simp [step, hhandling, hreading]⟩
  | false =>
    cases hwriter : s.writer with
    | ended => simp [hwriter, hhandling] at hleft
    | sending message => exact ⟨.sent true, by simp [step, hwriter]⟩
    | selecting =>
      cases hpings : s.pings with
      | nil => exact ⟨.channelClosed, by simp [step, hwriter, hpings, hreading]⟩
      | cons data pings => exact ⟨.takePing, by simp [step, hwriter, hpings]⟩

theorem Accounted.push (h : s.Accounted queued pinged written) (messages : List Str) :
    (s.push messages).Accounted (queued ++ messages) pinged written := by
  obtain ⟨⟨lost, rfl, hlost⟩, hpongs, hshape⟩ := h
  unfold ConnectionTasks.push
  split
  · next hended =>
    exact ⟨⟨lost ++ messages, by simp, fun hwriter => absurd hended hwriter⟩, hpongs, hshape⟩
  · next hwriter =>
    obtain rfl := hlost hwriter
    exact ⟨⟨[], by simp [inFlight], fun _ => rfl⟩, hpongs, hshape⟩

theorem Move.accounted (hmove : s.Move channel input s' call out)
    (h : s.Accounted queued pinged written) :
    s'.Accounted queued (pinged ++ pingOf input) (written ++ out) := by
  obtain ⟨⟨lost, rfl, hlost⟩, ⟨lost', rfl, hlost'⟩, hshape⟩ := h
  cases hmove with
  | tookText content texts hwriter htexts =>
    have hwriter' : s.writer ≠ .ended := by simp [hwriter]
    refine ⟨⟨lost, ?_, fun _ => hlost hwriter'⟩, ⟨lost', ?_, fun _ => hlost' hwriter'⟩, ?_⟩
    · simp [inFlight, hwriter, htexts, textsOf]
    · simp [inFlight, hwriter, pongsOf, pingOf]
    · simpa [inFlight, hwriter, or_imp, forall_and] using hshape
  | tookPing data pings hwriter hpings =>
    have hwriter' : s.writer ≠ .ended := by simp [hwriter]
    refine ⟨⟨lost, ?_, fun _ => hlost hwriter'⟩, ⟨lost', ?_, fun _ => hlost' hwriter'⟩, ?_⟩
    · simp [inFlight, hwriter, textsOf]
    · simp [inFlight, hwriter, hpings, pongsOf, pingOf]
    · simpa [inFlight, hwriter, or_imp, forall_and] using hshape
  | wrote message hwriter =>
    have hwriter' : s.writer ≠ .ended := by simp [hwriter]
    refine ⟨⟨lost, ?_, fun _ => hlost hwriter'⟩, ⟨lost', ?_, fun _ => hlost' hwriter'⟩, ?_⟩
    · simp [inFlight, hwriter]
    · simp [inFlight, hwriter, pingOf]
    · simpa [inFlight, hwriter] using hshape
  | writerEnded _ hinput hwriter =>
    have hping : pingOf input = [] := by rcases hinput with rfl | rfl <;> rfl
    refine ⟨⟨textsOf s.inFlight ++ s.texts ++ lost, ?_, nofun⟩,
      ⟨pongsOf s.inFlight ++ s.pings ++ lost', ?_, nofun⟩, ?_⟩
    · simp [inFlight, endWriter]
    · simp [inFlight, endWriter, hping]
    · intro message hmessage
      exact hshape message (List.mem_append_left _ (by simpa [inFlight, endWriter] using hmessage))
  | pinged data hwriter =>
    obtain rfl := hlost' hwriter
    refine ⟨⟨lost, ?_, hlost⟩, ⟨[], ?_, fun _ => rfl⟩, ?_⟩
    · simp [inFlight]
    · simp [inFlight, pingOf]
    · simpa [inFlight] using hshape
  | readerEnded received hping hreading =>
    refine ⟨⟨lost, ?_, hlost⟩, ⟨lost' ++ pingOf (.receive received), ?_, fun hwriter => ?_⟩, ?_⟩
    · simp [inFlight]
    · simp [inFlight]
    · cases received with
      | message message =>
        cases message with
        | ping data => exact absurd (hping data rfl) hwriter
        | _ => simpa [pingOf] using hlost' hwriter
      | _ => simpa [pingOf] using hlost' hwriter
    · simpa [inFlight] using hshape
  | ignored message hping =>
    have hnone : pingOf (.receive (.message message)) = [] := by
      cases message with
      | ping data => exact absurd rfl (hping data)
      | _ => rfl
    rw [hnone, List.append_nil, List.append_nil]
    exact ⟨⟨lost, rfl, hlost⟩, ⟨lost', rfl, hlost'⟩, hshape⟩
  | finished hhandling =>
    refine ⟨⟨lost, ?_, hlost⟩, ⟨lost', ?_, hlost'⟩, ?_⟩
    · simp [inFlight]
    · simp [inFlight, pingOf]
    · simpa [inFlight] using hshape

end ConnectionTasks

/-! ### All connections -/

/-- The manager, and the tasks of each connection that was made, by its channel. -/
structure Sockets (D : DashMaps) where
  manager : WebSocketState D
  tasks : List ConnectionTasks

inductive SocketInput (Event Kind : Type)
  | connect (query : Option Str) (order : HashSetOrder Kind) (draws : List Str)
  | broadcast (event : Event)
  | task (channel : ChannelId) (step : ConnectionStep)

inductive SocketEffect
  /-- A message is queued to a connection. -/
  | queued (message : ChannelId × Str)
  /-- A message is written to the socket of a connection. -/
  | wrote (channel : ChannelId) (message : SocketMessage)

namespace SocketEffect

def messagesOf : List SocketEffect → List (ChannelId × Str) :=
  List.filterMap fun | queued message => some message | wrote .. => none

/-- What is written to the socket of a connection. -/
def writtenTo (channel : ChannelId) : List SocketEffect → List SocketMessage :=
  List.filterMap fun
    | queued _ => none
    | wrote channel' message => if channel' = channel then some message else none

variable (t u : List SocketEffect) (channel channel' : ChannelId)

@[simp] theorem messagesOf_append : messagesOf (t ++ u) = messagesOf t ++ messagesOf u :=
  List.filterMap_append

@[simp] theorem writtenTo_append :
    writtenTo channel (t ++ u) = writtenTo channel t ++ writtenTo channel u :=
  List.filterMap_append

@[simp] theorem messagesOf_queued (messages : List (ChannelId × Str)) :
    messagesOf (messages.map queued) = messages := by
  rw [messagesOf, List.filterMap_map]
  exact List.filterMap_some

@[simp] theorem messagesOf_wrote (written : List SocketMessage) :
    messagesOf (written.map (wrote channel)) = [] := by
  simp [messagesOf, List.filterMap_map]

@[simp] theorem writtenTo_queued (messages : List (ChannelId × Str)) :
    writtenTo channel (messages.map queued) = [] := by
  simp [writtenTo, List.filterMap_map]

theorem writtenTo_wrote (written : List SocketMessage) :
    writtenTo channel (written.map (wrote channel')) =
      if channel' = channel then written else [] := by
  rw [writtenTo, List.filterMap_map]
  split
  · next heq => simp [heq]
  · next hne => simp [hne]

end SocketEffect

namespace Sockets

open WebSocketState SocketEffect

variable {D : DashMaps} {Event Kind : Type} (types : EventTypes Event Kind)

def new : Sockets D := { manager := .new, tasks := [] }

/-- The map holds the sender of a channel, under the identifier of its connection. -/
def isConnected (self : Sockets D) (channel : ChannelId) : Bool :=
  self.tasks[channel]?.any fun tasks =>
    (D.get self.manager.connections tasks.id).any fun c => c.sender = channel

/-- A step of a task, with what it does at the manager. -/
def stepTask (self : Sockets D) (channel : ChannelId) (input : ConnectionStep) :
    Option (ConnectionTasks × Option (WebSocketInput Event Kind) × List SocketMessage) :=
  self.tasks[channel]?.bind fun tasks => tasks.step channel (self.isConnected channel) input

def callManager (self : Sockets D) :
    Option (WebSocketInput Event Kind) → Option (WebSocketState D)
  | none => some self.manager
  | some call => (self.manager.step types call).map Prod.fst

def step (self : Sockets D) :
    SocketInput Event Kind → Option (Sockets D × List SocketEffect)
  | .connect query order draws =>
    (self.manager.addConnection types self.manager.nextChannel (types.getEventTypes order query)
      draws).map fun added =>
        ({ manager := { added.1 with nextChannel := self.manager.nextChannel + 1 }
           tasks := self.tasks ++ [.new added.2] }, [])
  | .broadcast event =>
    let (manager, sent, _) := self.manager.broadcast types event
    some ({ manager, tasks := self.tasks.mapIdx fun channel tasks =>
      tasks.push (queuedTo channel sent) }, sent.map .queued)
  | .task channel input =>
    (self.stepTask channel input).bind fun next =>
      (self.callManager types next.2.1).map fun manager =>
        (⟨manager, self.tasks.set channel next.1⟩, next.2.2.map (.wrote channel))

/-- What a step is for the manager. -/
def managerInput (self : Sockets D) : SocketInput Event Kind → Option (WebSocketInput Event Kind)
  | .connect query order draws => some (.connect query order draws)
  | .broadcast event => some (.broadcast event)
  | .task channel input => (self.stepTask channel input).bind fun next => next.2.1

/-- The history of the manager. -/
def managerHistory (h : List (Sockets D × SocketInput Event Kind)) :
    List (WebSocketState D × WebSocketInput Event Kind) :=
  h.filterMap fun p => (p.1.managerInput p.2).map fun input => (p.1.manager, input)

variable {types}

/-- What a step does. -/
inductive Turn (types : EventTypes Event Kind) (s : Sockets D) :
    SocketInput Event Kind → Sockets D → List SocketEffect → Prop
  | connected (query : Option Str) (order : HashSetOrder Kind) (draws : List Str) (id : Str)
      (manager : WebSocketState D)
      (hmanager : s.manager.step types (.connect query order draws) = some (manager, []))
      (hfind : draws.find? (!D.containsKey s.manager.connections ·) = some id) :
    Turn types s (.connect query order draws) ⟨manager, s.tasks ++ [.new id]⟩ []
  | broadcast (event : Event) (manager : WebSocketState D) (sent : List (ChannelId × Str))
      (hmanager : s.manager.step types (.broadcast event) = some (manager, sent)) :
    Turn types s (.broadcast event)
      ⟨manager, s.tasks.mapIdx fun channel tasks => tasks.push (queuedTo channel sent)⟩
      (sent.map .queued)
  | moved (channel : ChannelId) (input : ConnectionStep) (tasks tasks' : ConnectionTasks)
      (call : Option (WebSocketInput Event Kind)) (written : List SocketMessage)
      (manager : WebSocketState D) (htasks : s.tasks[channel]? = some tasks)
      (hmove : tasks.Move channel input tasks' call written)
      (hcall : s.managerInput (.task channel input) = call)
      (hmanager : call = none ∧ manager = s.manager ∨
        ∃ call', call = some call' ∧ s.manager.step types call' = some (manager, [])) :
    Turn types s (.task channel input) ⟨manager, s.tasks.set channel tasks'⟩
      (written.map (.wrote channel))

variable {s s' : Sockets D} {input : SocketInput Event Kind} {out : List SocketEffect}

/-- **Case analysis.** Every step is a turn. -/
theorem step_turn (h : s.step types input = some (s', out)) : Turn types s input s' out := by
  cases input with
  | connect query order draws =>
    obtain ⟨⟨added, id⟩, hadded, h⟩ := Option.map_eq_some_iff.mp h
    obtain ⟨rfl, rfl⟩ := Prod.mk.inj h
    refine .connected query order draws id _ ?_ (addConnection_eq hadded).1
    rw [WebSocketState.step, hadded]
    rfl
  | broadcast event =>
    obtain ⟨rfl, rfl⟩ := Prod.mk.inj (Option.some_inj.mp h)
    exact .broadcast event _ _ rfl
  | task channel input =>
    obtain ⟨⟨tasks', call, written⟩, hnext, h⟩ := Option.bind_eq_some_iff.mp h
    obtain ⟨tasks, htasks, hstep⟩ := Option.bind_eq_some_iff.mp hnext
    obtain ⟨manager, hmanager, h⟩ := Option.map_eq_some_iff.mp h
    obtain ⟨rfl, rfl⟩ := Prod.mk.inj h
    have hmove := ConnectionTasks.step_move hstep
    have hcall : s.managerInput (.task channel input) = call := by rw [managerInput, hnext]; rfl
    refine .moved channel input tasks tasks' call written manager htasks hmove hcall ?_
    cases call with
    | none => exact .inl ⟨rfl, (Option.some_inj.mp hmanager).symm⟩
    | some call =>
      obtain ⟨⟨manager', sent⟩, hsome, rfl⟩ := Option.map_eq_some_iff.mp hmanager
      refine .inr ⟨call, rfl, ?_⟩
      -- the tasks have nothing broadcast
      have hsent : sent = [] := by
        have hmanager' := WebSocketState.step_move hsome
        cases hmove with
        | writerEnded => cases hmanager'; rfl
        | finished => cases hmanager'; rfl
      exact hsent ▸ hsome

/-! ### The manager in a run -/

theorem step_manager (hstep : s.step types input = some (s', out)) :
    (∀ input', s.managerInput input = some input' →
        s.manager.step types input' = some (s'.manager, messagesOf out)) ∧
      (s.managerInput input = none → s'.manager = s.manager ∧ messagesOf out = []) := by
  cases step_turn hstep with
  | connected query order draws id manager hmanager =>
    refine ⟨fun input' hinput => ?_, fun hinput => (by cases hinput)⟩
    obtain rfl := Option.some_inj.mp hinput
    exact hmanager
  | broadcast event manager sent hmanager =>
    refine ⟨fun input' hinput => ?_, fun hinput => (by cases hinput)⟩
    obtain rfl := Option.some_inj.mp hinput
    rwa [messagesOf_queued]
  | moved channel input tasks tasks' call written manager htasks hmove hcall hmanager =>
    rw [hcall, messagesOf_wrote]
    rcases hmanager with ⟨rfl, rfl⟩ | ⟨call', rfl, hmanager⟩
    · exact ⟨fun _ hinput => (by cases hinput), fun _ => ⟨rfl, rfl⟩⟩
    · refine ⟨fun input' hinput => ?_, fun hinput => (by cases hinput)⟩
      obtain rfl := Option.some_inj.mp hinput
      exact hmanager

variable {h : List (Sockets D × SocketInput Event Kind)} {t : List SocketEffect}

/-- **Projection.** For the manager, a run is a run of its own. -/
theorem run_manager {s₀ : Sockets D} (hrun : Run (step types) s₀ h s t) :
    Run (WebSocketState.step types) s₀.manager (managerHistory h) s.manager (messagesOf t) :=
  hrun.component (π := manager) (f := managerInput) fun _ _ _ _ => step_manager

/-- The events of a history. -/
def eventsOf : List (Sockets D × SocketInput Event Kind) → List Event :=
  List.filterMap fun p => match p.2 with
    | .broadcast event => some event
    | _ => none

/-- The tasks broadcast nothing. -/
theorem broadcastsOf_managerHistory (h : List (Sockets D × SocketInput Event Kind)) :
    Outlets.broadcastsOf (managerHistory h) = eventsOf h := by
  rw [Outlets.broadcastsOf, managerHistory, List.filterMap_filterMap, eventsOf]
  refine List.filterMap_congr fun p _ => ?_
  obtain ⟨s, input⟩ := p
  cases input with
  | connect => rfl
  | broadcast event => rfl
  | task channel input =>
    cases hcall : s.managerInput (.task channel input) with
    | none => simp
    | some call =>
      obtain ⟨⟨tasks', _, written⟩, hnext, rfl⟩ := Option.bind_eq_some_iff.mp hcall
      obtain ⟨tasks, -, hstep⟩ := Option.bind_eq_some_iff.mp hnext
      cases ConnectionTasks.step_move hstep <;> simp

/-- Each channel has its tasks. -/
theorem run_length (hrun : Run (step types) new h s t) :
    s.manager.nextChannel = s.tasks.length := by
  refine hrun.induct (P := fun _ s _ => s.manager.nextChannel = s.tasks.length) rfl ?_
  intro h s t input s' out _ ih hstep
  cases step_turn hstep with
  | connected query order draws id manager hmanager =>
    cases WebSocketState.step_move hmanager
    simp [ih]
  | broadcast event manager sent hmanager =>
    cases WebSocketState.step_move hmanager <;> simp [ih]
  | moved channel input tasks tasks' call written manager htasks hmove hcall hmanager =>
    rw [List.length_set]
    rcases hmanager with ⟨rfl, rfl⟩ | ⟨call', rfl, hmanager⟩
    · exact ih
    · cases hmove with
      | writerEnded => cases WebSocketState.step_move hmanager; exact ih
      | finished => cases WebSocketState.step_move hmanager; exact ih

/-! ### What is written -/

/-- The ping data that a client sends. -/
def pingedTo (channel : ChannelId) :
    List (Sockets D × SocketInput Event Kind) → List (List UInt8) :=
  List.flatMap fun p => match p.2 with
    | .task channel' input => if channel' = channel then ConnectionTasks.pingOf input else []
    | _ => []

theorem pingedTo_append (channel : ChannelId)
    (h h' : List (Sockets D × SocketInput Event Kind)) :
    pingedTo channel (h ++ h') = pingedTo channel h ++ pingedTo channel h' :=
  List.flatMap_append

theorem pingedTo_task (s : Sockets D) (channel channel' : ChannelId) (input : ConnectionStep) :
    pingedTo channel [(s, (.task channel' input : SocketInput Event Kind))] =
      if channel' = channel then ConnectionTasks.pingOf input else [] := by
  simp [pingedTo]

/-- Nothing is queued to a channel that was not made. -/
theorem run_unqueued (hrun : Run (step types) new h s t) {channel : ChannelId}
    (hchannel : s.tasks.length ≤ channel) : queuedTo channel (messagesOf t) = [] :=
  (run_channels (run_manager hrun)).2 channel (run_length hrun ▸ hchannel)

/-- The accounts of all channels are in order. -/
structure Balanced (h : List (Sockets D × SocketInput Event Kind)) (s : Sockets D)
    (t : List SocketEffect) : Prop where
  fresh : ∀ channel, s.tasks.length ≤ channel →
    pingedTo channel h = [] ∧ writtenTo channel t = []
  accounted : ∀ channel (tasks : ConnectionTasks), s.tasks[channel]? = some tasks →
    tasks.Accounted (queuedTo channel (messagesOf t)) (pingedTo channel h) (writtenTo channel t)

theorem run_balanced (hrun : Run (step types) new h s t) : Balanced h s t := by
  refine hrun.induct (P := Balanced) ⟨fun _ _ => ⟨rfl, rfl⟩, by simp [new]⟩ ?_
  rintro h s t input s' out hrun ⟨hfresh, haccounted⟩ hstep
  cases step_turn hstep with
  | connected query order draws id manager hmanager =>
    have hnothing : ∀ channel, pingedTo channel
        [(s, (.connect query order draws : SocketInput Event Kind))] = [] := fun _ => rfl
    refine ⟨fun channel hchannel => ?_, fun channel tasks htasks => ?_⟩ <;>
      rw [pingedTo_append, hnothing, List.append_nil, List.append_nil]
    · rw [List.length_append] at hchannel
      exact hfresh channel (by omega)
    · rcases lt_or_ge channel s.tasks.length with hchannel | hchannel
      · rw [List.getElem?_append_left hchannel] at htasks
        exact haccounted channel tasks htasks
      · obtain ⟨hpinged, hwritten⟩ := hfresh channel hchannel
        rw [run_unqueued hrun hchannel, hpinged, hwritten]
        obtain rfl : tasks = .new id := by
          rw [List.getElem?_append_right hchannel, List.getElem?_singleton] at htasks
          exact (Option.some_inj.mp (Option.ite_none_right_eq_some.mp htasks).2).symm
        exact ⟨⟨[], rfl, fun _ => rfl⟩, ⟨[], rfl, fun _ => rfl⟩, by simp [ConnectionTasks.inFlight,
          ConnectionTasks.new]⟩
  | broadcast event manager sent hmanager =>
    have hnothing : ∀ channel, pingedTo channel
        [(s, (.broadcast event : SocketInput Event Kind))] = [] := fun _ => rfl
    refine ⟨fun channel hchannel => ?_, fun channel tasks htasks => ?_⟩ <;>
      rw [pingedTo_append, hnothing, writtenTo_append, writtenTo_queued, List.append_nil,
        List.append_nil]
    · rw [List.length_mapIdx] at hchannel
      exact hfresh channel hchannel
    · rw [List.getElem?_mapIdx] at htasks
      obtain ⟨tasks₀, htasks₀, rfl⟩ := Option.map_eq_some_iff.mp htasks
      rw [messagesOf_append, messagesOf_queued, queuedTo_append]
      exact (haccounted channel tasks₀ htasks₀).push _
  | moved channel input tasks tasks' call written manager htasks hmove hcall hmanager =>
    have hchannel : channel < s.tasks.length := (List.getElem?_eq_some_iff.mp htasks).1
    refine ⟨fun channel' hchannel' => ?_, fun channel' tasks'' htasks' => ?_⟩ <;>
      rw [pingedTo_append, pingedTo_task, writtenTo_append, writtenTo_wrote]
    · rw [List.length_set] at hchannel'
      have hne : channel ≠ channel' := (lt_of_lt_of_le hchannel hchannel').ne
      rw [if_neg hne, if_neg hne, List.append_nil, List.append_nil]
      exact hfresh channel' hchannel'
    · rw [messagesOf_append, messagesOf_wrote, List.append_nil]
      rcases eq_or_ne channel channel' with rfl | hne
      · rw [List.getElem?_set_self hchannel, Option.some_inj] at htasks'
        subst htasks'
        rw [if_pos rfl, if_pos rfl]
        exact hmove.accounted (haccounted channel tasks htasks)
      · rw [List.getElem?_set_ne hne] at htasks'
        rw [if_neg hne, if_neg hne, List.append_nil, List.append_nil]
        exact haccounted channel' tasks'' htasks'

/-! ### Which connections are in the map -/

/-- The identifiers of the connections that were made. -/
def ids (self : Sockets D) : List Str := self.tasks.map ConnectionTasks.id

theorem getElem?_ids {channel : ChannelId} {id : Str} :
    s.ids[channel]? = some id ↔ ∃ tasks, s.tasks[channel]? = some tasks ∧ tasks.id = id := by
  rw [ids, List.getElem?_map, Option.map_eq_some_iff]

/-- Connections keep their identifiers. -/
theorem step_ids (hstep : s.step types input = some (s', out)) : s.ids <+: s'.ids := by
  cases step_turn hstep with
  | connected query order draws id => exact ⟨[id], by simp [ids, ConnectionTasks.new]⟩
  | broadcast event manager sent =>
    have hids : s.ids = (s.tasks.mapIdx fun channel tasks =>
        tasks.push (queuedTo channel sent)).map ConnectionTasks.id := by
      refine List.ext_getElem? fun channel => ?_
      cases htasks : s.tasks[channel]? <;> simp [ids, htasks]
    exact hids ▸ List.prefix_refl _
  | moved channel input tasks tasks' call written manager htasks hmove =>
    have hids : s.ids = (s.tasks.set channel tasks').map ConnectionTasks.id := by
      have hchannel := (List.getElem?_eq_some_iff.mp htasks).1
      refine List.ext_getElem? fun channel' => ?_
      rcases eq_or_ne channel channel' with rfl | hne
      · simp only [ids, List.getElem?_map, htasks, List.getElem?_set_self hchannel,
          Option.map_some, hmove.id_eq]
      · simp [ids, hne]
    exact hids ▸ List.prefix_refl _

theorem run_ids {s₀ : Sockets D} (hrun : Run (step types) s₀ h s t) : s₀.ids <+: s.ids :=
  hrun.induct (P := fun _ s _ => s₀.ids <+: s.ids) (List.prefix_refl _)
    fun _ _ _ _ _ _ _ ih hstep => ih.trans (step_ids hstep)

/-- An entry of the map belongs to a connection whose handler runs. -/
def Owned (s : Sockets D) : Prop :=
  ∀ id c, D.get s.manager.connections id = some c →
    ∃ tasks, s.tasks[c.sender]? = some tasks ∧ tasks.id = id ∧ tasks.handling

/-- Only a writer that has ended has dropped its receiver. -/
def ClosedEnded (s : Sockets D) : Prop :=
  ∀ channel ∈ s.manager.closed, ∃ tasks, s.tasks[channel]? = some tasks ∧ tasks.writer = .ended

/-- A connection whose handler and writer run is in the map. -/
def Open (s : Sockets D) : Prop :=
  ∀ channel (tasks : ConnectionTasks), s.tasks[channel]? = some tasks → tasks.handling →
    tasks.writer ≠ .ended → s.manager.Registered tasks.id channel

theorem step_closedEnded (hclosed : s.ClosedEnded) (hstep : s.step types input = some (s', out)) :
    s'.ClosedEnded := by
  cases step_turn hstep with
  | connected query order draws id manager hmanager =>
    cases WebSocketState.step_move hmanager
    intro channel hchannel
    obtain ⟨tasks, htasks, hwriter⟩ := hclosed channel hchannel
    exact ⟨tasks, (List.getElem?_append_left (List.getElem?_eq_some_iff.mp htasks).1).trans htasks,
      hwriter⟩
  | broadcast event manager sent hmanager =>
    have heq : manager.closed = s.manager.closed := by
      cases WebSocketState.step_move hmanager <;> rfl
    intro channel hchannel
    obtain ⟨tasks, htasks, hwriter⟩ := hclosed channel (heq ▸ hchannel)
    exact ⟨tasks.push (queuedTo channel sent), by simp [htasks], by simpa using hwriter⟩
  | moved channel input tasks tasks' call written manager htasks hmove hcall hmanager =>
    have hchannel : channel < s.tasks.length := (List.getElem?_eq_some_iff.mp htasks).1
    have hset : ∀ channel' ∈ s.manager.closed, ∃ tasks'',
        (s.tasks.set channel tasks')[channel']? = some tasks'' ∧ tasks''.writer = .ended := by
      intro channel' hclosed'
      obtain ⟨tasks₀, htasks₀, hwriter⟩ := hclosed channel' hclosed'
      rcases eq_or_ne channel channel' with rfl | hne
      · obtain rfl := Option.some_inj.mp (htasks.symm.trans htasks₀)
        exact ⟨tasks', List.getElem?_set_self hchannel, hmove.writer_ended hwriter⟩
      · exact ⟨tasks₀, (List.getElem?_set_ne hne).trans htasks₀, hwriter⟩
    rcases hmanager with ⟨rfl, rfl⟩ | ⟨call', rfl, hmanager⟩
    · exact hset
    · cases hmove with
      | writerEnded =>
        cases WebSocketState.step_move hmanager
        intro channel' hchannel'
        rcases List.mem_cons.mp hchannel' with rfl | hchannel'
        · exact ⟨_, List.getElem?_set_self hchannel, rfl⟩
        · exact hset channel' hchannel'
      | finished =>
        cases WebSocketState.step_move hmanager
        exact hset

theorem step_owned (hlength : s.manager.nextChannel = s.tasks.length) (howned : s.Owned)
    (hstep : s.step types input = some (s', out)) : s'.Owned := by
  cases step_turn hstep with
  | connected query order draws id manager hmanager hfind =>
    have hmove := WebSocketState.step_move hmanager
    cases hmove with
    | connected _ _ _ id' hfind' =>
      obtain rfl := Option.some_inj.mp (hfind.symm.trans hfind')
      intro id' c hc
      rcases eq_or_ne id' id with rfl | hne
      · rw [DashMaps.get_insert_self, Option.some_inj] at hc
        subst hc
        exact ⟨.new id', by simp [hlength], rfl, rfl⟩
      · rw [DashMaps.get_insert_of_ne hne] at hc
        obtain ⟨tasks, htasks, hid⟩ := howned id' c hc
        exact ⟨tasks,
          (List.getElem?_append_left (List.getElem?_eq_some_iff.mp htasks).1).trans htasks, hid⟩
  | broadcast event manager sent hmanager =>
    have hkept : ∀ id c, D.get manager.connections id = some c →
        D.get s.manager.connections id = some c := by
      cases WebSocketState.step_move hmanager with
      | failed => exact fun _ _ => id
      | broadcast => exact fun id c hc => (lookup_delivered.mp hc).1
    intro id c hc
    obtain ⟨tasks, htasks, hid⟩ := howned id c (hkept id c hc)
    exact ⟨tasks.push (queuedTo c.sender sent), by simp [htasks], by simpa using hid⟩
  | moved channel input tasks tasks' call written manager htasks hmove hcall hmanager =>
    have hchannel : channel < s.tasks.length := (List.getElem?_eq_some_iff.mp htasks).1
    have hset : (tasks.handling → tasks'.handling) → ∀ id c,
        D.get s.manager.connections id = some c → ∃ tasks'',
          (s.tasks.set channel tasks')[c.sender]? = some tasks'' ∧ tasks''.id = id ∧
            tasks''.handling := by
      intro hhandling id c hc
      obtain ⟨tasks₀, htasks₀, hid, hhandling₀⟩ := howned id c hc
      by_cases heq : channel = c.sender
      · subst heq
        obtain rfl := Option.some_inj.mp (htasks.symm.trans htasks₀)
        exact ⟨tasks', List.getElem?_set_self hchannel, hmove.id_eq.trans hid, hhandling hhandling₀⟩
      · exact ⟨tasks₀, (List.getElem?_set_ne heq).trans htasks₀, hid, hhandling₀⟩
    cases hmove with
    | finished =>
      rcases hmanager with ⟨hnone, -⟩ | ⟨call', hsome, hmanager⟩
      · cases hnone
      obtain rfl := Option.some_inj.mp hsome
      cases WebSocketState.step_move hmanager
      intro id c hc
      obtain ⟨hne, hc⟩ := DashMaps.get_remove_eq_some_iff.mp hc
      obtain ⟨tasks₀, htasks₀, hid, hhandling₀⟩ := howned id c hc
      have hother : channel ≠ c.sender := by
        rintro rfl
        obtain rfl := Option.some_inj.mp (htasks.symm.trans htasks₀)
        exact hne hid.symm
      exact ⟨tasks₀, (List.getElem?_set_ne hother).trans htasks₀, hid, hhandling₀⟩
    | writerEnded =>
      rcases hmanager with ⟨hnone, -⟩ | ⟨call', hsome, hmanager⟩
      · cases hnone
      obtain rfl := Option.some_inj.mp hsome
      cases WebSocketState.step_move hmanager
      exact hset id
    | _ =>
      rcases hmanager with ⟨-, rfl⟩ | ⟨call', hsome, -⟩
      · exact hset id
      · cases hsome

/-- A connection is pruned only if its receiver is gone. -/
theorem deliver_fst {manager : WebSocketState D} {c : StoredConnection}
    (hopen : c.sender ∉ manager.closed) (message : Str) (eventBit : UInt8) :
    (manager.deliver message eventBit c).1 = true := by
  unfold deliver
  split
  · rfl
  · rfl

theorem step_open (hclosed : s.ClosedEnded) (hlength : s.manager.nextChannel = s.tasks.length)
    (hopen : s.Open) (hstep : s.step types input = some (s', out)) (hunique : s'.ids.Nodup) :
    s'.Open := by
  cases step_turn hstep with
  | connected query order draws id manager hmanager hfind =>
    cases WebSocketState.step_move hmanager with
    | connected _ _ _ id' hfind' hnew =>
      obtain rfl := Option.some_inj.mp (hfind.symm.trans hfind')
      intro channel tasks htasks hhandling hwriter
      rcases lt_or_ge channel s.tasks.length with hchannel | hchannel
      · rw [List.getElem?_append_left hchannel] at htasks
        obtain ⟨mask, hmask⟩ := hopen channel tasks htasks hhandling hwriter
        refine ⟨mask, (DashMaps.get_insert_of_ne ?_).trans hmask⟩
        rintro rfl
        cases hnew.symm.trans hmask
      · rw [List.getElem?_append_right hchannel, List.getElem?_singleton] at htasks
        obtain ⟨hlast, htasks⟩ := Option.ite_none_right_eq_some.mp htasks
        obtain rfl := Option.some_inj.mp htasks
        obtain rfl : channel = s.manager.nextChannel :=
          hlength ▸ le_antisymm (Nat.sub_eq_zero_iff_le.mp hlast) hchannel
        exact ⟨_, DashMaps.get_insert_self⟩
  | broadcast event manager sent hmanager =>
    intro channel tasks htasks hhandling hwriter
    rw [List.getElem?_mapIdx] at htasks
    obtain ⟨tasks₀, htasks₀, rfl⟩ := Option.map_eq_some_iff.mp htasks
    rw [ConnectionTasks.handling_push] at hhandling
    rw [ConnectionTasks.writer_push] at hwriter
    rw [ConnectionTasks.id_push]
    obtain ⟨mask, hmask⟩ := hopen channel tasks₀ htasks₀ hhandling hwriter
    have hreceiver : channel ∉ s.manager.closed := fun hmem => by
      obtain ⟨tasks₁, htasks₁, hended⟩ := hclosed channel hmem
      obtain rfl := Option.some_inj.mp (htasks₀.symm.trans htasks₁)
      exact hwriter hended
    cases WebSocketState.step_move hmanager with
    | failed => exact ⟨mask, hmask⟩
    | broadcast => exact ⟨mask, lookup_delivered.mpr ⟨hmask, deliver_fst hreceiver _ _⟩⟩
  | moved channel input tasks tasks' call written manager htasks hmove hcall hmanager =>
    have hchannel : channel < s.tasks.length := (List.getElem?_eq_some_iff.mp htasks).1
    have hset : ∀ channel' tasks'', (s.tasks.set channel tasks')[channel']? = some tasks'' →
        tasks''.handling → tasks''.writer ≠ .ended →
          s.manager.Registered tasks''.id channel' := by
      intro channel' tasks'' htasks'' hhandling hwriter
      rcases eq_or_ne channel channel' with rfl | hne
      · rw [List.getElem?_set_self hchannel, Option.some_inj] at htasks''
        subst htasks''
        rw [hmove.id_eq]
        exact hopen channel tasks htasks (hmove.handling_le hhandling)
          fun hended => hwriter (hmove.writer_ended hended)
      · exact hopen channel' tasks'' ((List.getElem?_set_ne hne).symm.trans htasks'') hhandling
          hwriter
    cases hmove with
    | finished =>
      rcases hmanager with ⟨hnone, -⟩ | ⟨call', hsome, hmanager⟩
      · cases hnone
      obtain rfl := Option.some_inj.mp hsome
      cases WebSocketState.step_move hmanager
      intro channel' tasks'' htasks'' hhandling hwriter
      obtain ⟨mask, hmask⟩ := hset channel' tasks'' htasks'' hhandling hwriter
      refine ⟨mask, DashMaps.get_remove_eq_some_iff.mpr ⟨fun heq => ?_, hmask⟩⟩
      -- the identifier is that of the connection that is removed
      obtain rfl : channel' = channel := by
        have hlength' := (List.getElem?_eq_some_iff.mp htasks'').1
        refine (List.getElem?_inj (by simpa [ids] using hlength') hunique).mp ?_
        rw [getElem?_ids.mpr ⟨_, htasks'', heq⟩, getElem?_ids.mpr
          ⟨_, List.getElem?_set_self hchannel, rfl⟩]
      rw [List.getElem?_set_self hchannel, Option.some_inj] at htasks''
      subst htasks''
      cases hhandling
    | writerEnded =>
      rcases hmanager with ⟨hnone, -⟩ | ⟨call', hsome, hmanager⟩
      · cases hnone
      obtain rfl := Option.some_inj.mp hsome
      cases WebSocketState.step_move hmanager
      exact hset
    | _ =>
      rcases hmanager with ⟨-, rfl⟩ | ⟨call', hsome, -⟩
      · exact hset
      · cases hsome

theorem run_owned (hrun : Run (step types) new h s t) : s.Owned := by
  refine hrun.induct (P := fun _ s _ => s.Owned) (by simp [Owned, new, WebSocketState.new]) ?_
  exact fun _ _ _ _ _ _ hrun ih hstep => step_owned (run_length hrun) ih hstep

theorem run_open (hrun : Run (step types) new h s t) (hunique : s.ids.Nodup) : s.Open := by
  have hboth : s.ClosedEnded ∧ (s.ids.Nodup → s.Open) := by
    refine hrun.induct (P := fun _ s _ => s.ClosedEnded ∧ (s.ids.Nodup → s.Open)) ?_ ?_
    · exact ⟨by simp [ClosedEnded, new, WebSocketState.new], by simp [Open, new]⟩
    · rintro h s t input s' out hrun ⟨hclosed, hopen⟩ hstep
      refine ⟨step_closedEnded hclosed hstep, fun hunique => ?_⟩
      have hunique' : s.ids.Nodup := (step_ids hstep).sublist.nodup hunique
      exact step_open hclosed (run_length hrun) (hopen hunique') hstep hunique
  exact hboth.2 hunique

/-- **Delivery.** What the writer of a connection hands to its socket are, in order and without
gaps, texts for the first of the events that it asks for and that follow its registration, and pongs
for the first of its pings; the pongs that the socket sends by itself are not counted. As long as
its writer runs, what is missing of those queued to it and of the pings is being written or waits;
and if its handler runs too, no event was passed over, given that no identifier was drawn twice. -/
theorem written_inOrder (hrun : Run (step types) new h s t)
    {h₁ h₂ : List (Sockets D × SocketInput Event Kind)} {s₁ : Sockets D} {query : Option Str}
    {order : HashSetOrder Kind} {draws : List Str}
    (heq : h = h₁ ++ (s₁, .connect query order draws) :: h₂) :
    ∃ (channel : ChannelId) (tasks : ConnectionTasks) (during after : List Event),
      channel = s₁.tasks.length ∧ s.tasks[channel]? = some tasks ∧
      draws.find? (!D.containsKey s₁.manager.connections ·) = some tasks.id ∧
      Outlets.acceptedEvents types query (eventsOf h₂) = during ++ after ∧
      textsOf (writtenTo channel t) <+:
        during.filterMap (fun event => (types.serialize event).toOption) ∧
      pongsOf (writtenTo channel t) <+: pingedTo channel h ∧
      (∀ message ∈ writtenTo channel t,
        (∃ content, message = .text content) ∨ ∃ data, message = .pong data) ∧
      (tasks.writer ≠ .ended →
        textsOf (writtenTo channel t ++ tasks.inFlight) ++ tasks.texts =
          during.filterMap (fun event => (types.serialize event).toOption) ∧
        pongsOf (writtenTo channel t ++ tasks.inFlight) ++ tasks.pings = pingedTo channel h) ∧
      (tasks.writer ≠ .ended → tasks.handling → s.ids.Nodup → after = []) := by
  obtain ⟨t₁, s₂, out, t₂, hrun₁, hstep, hrun₂, rfl⟩ := hrun.split heq
  have hsplit : managerHistory h = managerHistory h₁ ++
      (s₁.manager, .connect query order draws) :: managerHistory h₂ := by
    rw [heq, managerHistory, List.filterMap_append, List.filterMap_cons]
    rfl
  obtain ⟨id, during, after, hfind, hevents, hqueued, hregistered⟩ :=
    Outlets.queued_events (run_manager hrun) hsplit
  rw [broadcastsOf_managerHistory] at hevents
  rw [run_length hrun₁] at hqueued hregistered
  -- the connection has the identifier that it was registered with
  have hid : s.ids[s₁.tasks.length]? = some id := by
    cases step_turn hstep with
    | connected _ _ _ id' manager hmanager hfind' =>
      obtain rfl := Option.some_inj.mp (hfind.symm.trans hfind')
      obtain ⟨later, hlater⟩ := run_ids hrun₂
      rw [← hlater]
      simp [ids, ConnectionTasks.new]
  obtain ⟨tasks, htasks, rfl⟩ := getElem?_ids.mp hid
  obtain ⟨⟨lost, htexts, hlost⟩, ⟨lost', hpongs, hlost'⟩, hshape⟩ :=
    (run_balanced hrun).accounted _ tasks htasks
  rw [hqueued] at htexts
  refine ⟨_, tasks, during, after, rfl, htasks, hfind, hevents, ?_, ?_, ?_, ?_, ?_⟩
  · simp only [← htexts, textsOf_append, List.append_assoc]
    exact List.prefix_append _ _
  · simp only [← hpongs, pongsOf_append, List.append_assoc]
    exact List.prefix_append _ _
  · exact fun message hmessage => hshape message (List.mem_append_left _ hmessage)
  · intro hwriter
    rw [hlost hwriter, List.append_nil] at htexts
    rw [hlost' hwriter, List.append_nil] at hpongs
    exact ⟨htexts, hpongs⟩
  · intro hwriter hhandling hunique
    exact hregistered (run_open hrun hunique _ tasks htasks hhandling hwriter)

/-- The client is sent an event and a pong; another event waits. -/
theorem written_inOrder_pong :
    let connect : SocketInput (EventKind × Str) EventKind := .connect none (.dedup _) ["a".toList]
    ∃ (h₂ : List (Sockets .ofAList × SocketInput (EventKind × Str) EventKind))
      (s : Sockets .ofAList) (t : List SocketEffect),
      Run (step .standard) new ((new, connect) :: h₂) s t ∧
      writtenTo 0 t = [.text "first".toList, .pong [1]] ∧
      ∃ during after, Outlets.acceptedEvents .standard none (eventsOf h₂) = during ++ after ∧
        textsOf (writtenTo 0 t) <+:
          during.filterMap fun event => (EventTypes.standard.serialize event).toOption := by
  intro connect
  obtain ⟨s, t, -, hrun, hwritten⟩ := Run.of_execute (step .standard) (new : Sockets .ofAList)
    [connect, .broadcast (.incomingMessage, "first".toList), .task 0 .takeText,
      .task 0 (.receive (.message (.ping [1]))), .task 0 (.sent true),
      .broadcast (.deliveryReport, "last".toList), .task 0 .takePing, .task 0 (.sent true)]
    (fun r => writtenTo 0 r.2) (b := [.text "first".toList, .pong [1]]) (by decide +kernel)
  obtain ⟨_, _, during, after, rfl, -, -, hevents, htexts, -⟩ :=
    written_inOrder hrun (show _ = [] ++ _ from rfl)
  exact ⟨_, s, t, hrun, hwritten, during, after, hevents, htexts⟩

/-- **The map.** In every run, the entries of the map belong to connections whose handler runs; and
given that no identifier was drawn twice, a connection whose writer has not ended is in the map
exactly while its handler runs. -/
theorem registered_iff (hrun : Run (step types) new h s t) :
    (∀ id c, D.get s.manager.connections id = some c →
      ∃ tasks, s.tasks[c.sender]? = some tasks ∧ tasks.id = id ∧ tasks.handling) ∧
    (s.ids.Nodup → ∀ channel (tasks : ConnectionTasks), s.tasks[channel]? = some tasks →
      tasks.writer ≠ .ended → (s.manager.Registered tasks.id channel ↔ tasks.handling)) := by
  refine ⟨run_owned hrun, fun hunique channel tasks htasks hwriter => ⟨?_, fun hhandling =>
    run_open hrun hunique channel tasks htasks hhandling hwriter⟩⟩
  rintro ⟨mask, hmask⟩
  obtain ⟨tasks', htasks', -, hhandling⟩ := run_owned hrun _ _ hmask
  obtain rfl := Option.some_inj.mp (htasks.symm.trans htasks')
  exact hhandling

/-- Of two connections, the first is closed by its client. -/
theorem registered_iff_closed :
    ∃ (h : List (Sockets .ofAList × SocketInput (EventKind × Str) EventKind))
      (s : Sockets .ofAList) (t : List SocketEffect),
      Run (step .standard) new h s t ∧ s.ids = ["a".toList, "b".toList] ∧
      AList.keys s.manager.connections = ["b".toList] ∧
      ∀ channel (tasks : ConnectionTasks), s.tasks[channel]? = some tasks → tasks.writer ≠ .ended →
        (s.manager.Registered tasks.id channel ↔ tasks.handling) := by
  obtain ⟨s, t, -, hrun, hfacts⟩ := Run.of_execute (step .standard) (new : Sockets .ofAList)
    [.connect none (.dedup _) ["a".toList], .connect none (.dedup _) ["a".toList, "b".toList],
      .task 0 (.receive (.message .close)), .task 0 .finish]
    (fun r => (r.1.ids, AList.keys r.1.manager.connections))
    (b := (["a".toList, "b".toList], ["b".toList])) (by decide +kernel)
  obtain ⟨hids, hkeys⟩ := Prod.mk.inj hfacts
  exact ⟨_, s, t, hrun, hids, hkeys, (registered_iff hrun).2 (hids ▸ by decide)⟩

/-! ### The end of the tasks -/

/-- A bound on the steps that all tasks still take by themselves. -/
def workLeft (self : Sockets D) : ℕ := (self.tasks.map ConnectionTasks.workLeft).sum

/-- The step is one of a task of a connection. -/
def IsTask : SocketInput Event Kind → Prop
  | .task _ _ => True
  | _ => False

/-- Without readers, a step of a task leaves less to do. -/
theorem step_workLeft (hgone : ∀ tasks ∈ s.tasks, tasks.reading = false) (htask : IsTask input)
    (hstep : s.step types input = some (s', out)) :
    s'.workLeft < s.workLeft ∧ ∀ tasks ∈ s'.tasks, tasks.reading = false := by
  cases step_turn hstep with
  | connected => exact htask.elim
  | broadcast => exact htask.elim
  | moved channel input tasks tasks' call written manager htasks hmove =>
    obtain ⟨hlt, hreading⟩ := hmove.workLeft_lt (hgone tasks (List.mem_of_getElem? htasks))
    refine ⟨?_, fun tasks'' hmem => ?_⟩
    · have hsum := sum_map_set ConnectionTasks.workLeft (b := tasks') htasks
      show ((s.tasks.set channel tasks').map ConnectionTasks.workLeft).sum < s.workLeft
      rw [workLeft]
      omega
    · rcases List.mem_or_eq_of_mem_set hmem with hmem | rfl
      · exact hgone tasks'' hmem
      · exact hreading

/-- A step of a task is not held up by the manager. -/
theorem exists_step (types : EventTypes Event Kind)
    (hlength : s.manager.nextChannel = s.tasks.length) {channel : ChannelId}
    {input : ConnectionStep}
    (hinput : (s.stepTask channel input :
      Option (_ × Option (WebSocketInput Event Kind) × _)).isSome) :
    (s.step types (.task channel input)).isSome := by
  obtain ⟨⟨tasks', call, written⟩, hnext⟩ := Option.isSome_iff_exists.mp hinput
  obtain ⟨tasks, htasks, hstep⟩ := Option.bind_eq_some_iff.mp hnext
  have hchannel : channel < s.manager.nextChannel :=
    hlength ▸ (List.getElem?_eq_some_iff.mp htasks).1
  have hcall : (s.callManager types call).isSome := by
    cases ConnectionTasks.step_move hstep with
    | writerEnded => simp [callManager, WebSocketState.step, hchannel]
    | finished => simp [callManager, WebSocketState.step]
    | _ => rfl
  rw [step, hnext]
  simpa using hcall

/-- **No leak.** Once the readers of all connections have ended, the steps that the tasks take by
themselves come to an end, and when none is left, every writer and every handler has ended and the
map is empty. -/
theorem cleaned_up (hrun : Run (step types) new h s t)
    (hgone : ∀ tasks ∈ s.tasks, tasks.reading = false)
    {h' : List (Sockets D × SocketInput Event Kind)} {t' : List SocketEffect}
    (hrun' : Run (step types) s h' s' t') (htask : ∀ p ∈ h', IsTask p.2) :
    h'.length + s'.workLeft ≤ s.workLeft ∧
      ((∀ input, IsTask input → s'.step types input = none) →
        (∀ tasks ∈ s'.tasks, tasks.writer = .ended ∧ tasks.handling = false) ∧
          ∀ id, D.get s'.manager.connections id = none) := by
  have hwhole := hrun.append hrun'
  obtain ⟨hwork, hgone'⟩ : h'.length + s'.workLeft ≤ s.workLeft ∧
      ∀ tasks ∈ s'.tasks, tasks.reading = false := by
    refine hrun'.induct (P := fun h' s' _ => (∀ p ∈ h', IsTask p.2) →
      h'.length + s'.workLeft ≤ s.workLeft ∧ ∀ tasks ∈ s'.tasks, tasks.reading = false)
      (fun _ => ⟨by simp, hgone⟩) ?_ htask
    intro h₁ s₁ _ input s₂ _ _ ih hstep htask
    obtain ⟨hbefore, hlast⟩ := List.forall_mem_append.mp htask
    obtain ⟨hwork, hgone₁⟩ := ih hbefore
    obtain ⟨hlt, hgone₂⟩ := step_workLeft hgone₁ (hlast _ (List.mem_singleton_self _)) hstep
    refine ⟨?_, hgone₂⟩
    rw [List.length_append, List.length_singleton]
    omega
  refine ⟨hwork, fun hstuck => ?_⟩
  have hended : ∀ tasks ∈ s'.tasks, tasks.writer = .ended ∧ tasks.handling = false := by
    intro tasks hmem
    obtain ⟨channel, htasks⟩ := List.mem_iff_getElem?.mp hmem
    by_contra hleft
    have hleft' : tasks.writer ≠ .ended ∨ tasks.handling = true := by
      by_cases hwriter : tasks.writer = .ended
      · exact .inr (by simpa [hwriter] using hleft)
      · exact .inl hwriter
    obtain ⟨input, hinput⟩ := ConnectionTasks.exists_step Event Kind channel
      (s'.isConnected channel) (hgone' tasks hmem) hleft'
    have hsome := exists_step types (run_length hwhole)
      (show (s'.stepTask channel input).isSome by simpa [stepTask, htasks] using hinput)
    rw [hstuck (.task channel input) trivial] at hsome
    cases hsome
  refine ⟨hended, fun id => Option.eq_none_iff_forall_ne_some.mpr fun c hc => ?_⟩
  obtain ⟨tasks, htasks, -, hhandling⟩ := run_owned hwhole id c hc
  exact absurd hhandling (by simp [(hended tasks (List.mem_of_getElem? htasks)).2])

/-- A client closes its connection: the handler and the writer are left to end. -/
theorem cleaned_up_closed :
    let s : Sockets .ofAList :=
      { manager := {
          connections := DashMaps.ofAList.insert DashMaps.ofAList.new "a".toList
            ⟨0, EventTypes.standard.eventMask none⟩
          closed := []
          nextChannel := 1 }
        tasks := [{ ConnectionTasks.new "a".toList with reading := false }] }
    ∃ (s' : Sockets .ofAList)
      (h' : List (Sockets .ofAList × SocketInput (EventKind × Str) EventKind))
      (t' : List SocketEffect), Run (step .standard) s h' s' t' ∧
      h'.map Prod.snd = [.task 0 .finish, .task 0 .channelClosed] ∧
      AList.keys s'.manager.connections = [] ∧ h'.length + s'.workLeft ≤ s.workLeft := by
  intro s
  obtain ⟨s₁, t, -, hrun, hs⟩ := Run.of_execute (step .standard) (new : Sockets .ofAList)
    [.connect none (.dedup _) ["a".toList], .task 0 (.receive (.message .close))]
    (fun r => r.1) (b := s) rfl
  obtain rfl : s₁ = s := hs
  obtain ⟨s', t', hinputs, hrun', hkeys⟩ := Run.of_execute (step .standard) s
    [.task 0 .finish, .task 0 .channelClosed]
    (fun r => AList.keys r.1.manager.connections) (b := []) (by decide +kernel)
  have htask : ∀ p ∈ history (step .standard) s [.task 0 .finish, .task 0 .channelClosed],
      IsTask p.2 := by
    have hmem : ∀ input ∈ (history (step .standard) s
        [.task 0 .finish, .task 0 .channelClosed]).map Prod.snd, IsTask input := by
      rw [hinputs]
      simp [IsTask]
    exact fun p hp => hmem p.2 (List.mem_map_of_mem hp)
  exact ⟨s', _, t', hrun', hinputs, hkeys, (cleaned_up hrun (by simp [s]) hrun' htask).1⟩

end Sockets

end SmsServer
