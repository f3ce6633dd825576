import SmsServer.Http.EventFilter
import SmsServer.Library.DashMap
import SmsServer.Library.Machine

/-!
# WebSocket subscriptions

The connections of `WebSocketManager` (`http/websocket.rs`) over whole histories. A client opens a
connection, its receiver goes away at some time, and its handler removes it; events are broadcast
in between. `broadcast` prunes as it sends: a connection whose receiver is gone leaves the map
when an event is sent to it. Its walk over the map is a single step here; in the code, another task
may get in between, and for one connection the step is when the walk comes to it.

`subscription` says what is queued to a connection in terms of that connection alone.
-/

namespace SmsServer

open RustStd Machine

/-- The identity of the channel of a connection. -/
abbrev ChannelId := ℕ

structure StoredConnection where
  sender : ChannelId
  eventMask : UInt8
  deriving DecidableEq, Repr

structure WebSocketState (D : DashMaps) where
  connections : D.DashMap Str StoredConnection
  /-- The channels whose receiver is gone. -/
  closed : List ChannelId
  nextChannel : ChannelId

inductive WebSocketInput (Event Kind : Type)
  /-- A client connects with an `events` parameter, and identifiers are drawn for it. -/
  | connect (query : Option Str) (order : HashSetOrder Kind) (draws : List Str)
  /-- The receiver of a channel is dropped. -/
  | hangUp (channel : ChannelId)
  | broadcast (event : Event)
  | removeConnection (id : Str)

namespace WebSocketState

variable {D : DashMaps} {Event Kind : Type} (types : EventTypes Event Kind)

def new : WebSocketState D := { connections := D.new, closed := [], nextChannel := 0 }

/-- The closure of `broadcast`: whether a connection is retained, and what is sent to it. -/
def deliver (self : WebSocketState D) (message : Str) (eventBit : UInt8)
    (connection : StoredConnection) : Bool × List (ChannelId × Str) :=
  if connection.eventMask &&& eventBit = 0 then (true, [])
  else if connection.sender ∉ self.closed then (true, [(connection.sender, message)])
  else (false, [])

/-- `broadcast`, with the messages that are queued and their number. -/
def broadcast (self : WebSocketState D) (event : Event) :
    WebSocketState D × List (ChannelId × Str) × ℕ :=
  match types.serialize event with
  | .error _ => (self, [], 0)
  | .ok message =>
    let eventBit := types.toBit (types.kindOf event)
    let (connections, sent) :=
      D.retain (fun _ => self.deliver message eventBit) self.connections
    ({ self with connections }, sent, sent.length)

/-- `add_connection`, which returns the identifier: the first that is drawn and not in use. It
does not return, `none`, while there is no such draw. -/
def addConnection (self : WebSocketState D) (tx : ChannelId) (events : Option (List Kind)) :
    List Str → Option (WebSocketState D × Str)
  | [] => none
  | id :: draws =>
    if !D.containsKey self.connections id then
      let connections := D.insert self.connections id ⟨tx, types.eventMask events⟩
      some ({ self with connections }, id)
    else self.addConnection tx events draws

def removeConnection (self : WebSocketState D) (id : Str) : WebSocketState D :=
  { self with connections := D.remove self.connections id }

def step (self : WebSocketState D) :
    WebSocketInput Event Kind → Option (WebSocketState D × List (ChannelId × Str))
  | .connect query order draws =>
    (self.addConnection types self.nextChannel (types.getEventTypes order query) draws).map
      fun added => ({ added.1 with nextChannel := self.nextChannel + 1 }, [])
  | .hangUp channel =>
    if channel < self.nextChannel then some ({ self with closed := channel :: self.closed }, [])
    else none
  | .broadcast event =>
    let (state, sent, _) := self.broadcast types event
    some (state, sent)
  | .removeConnection id => some (self.removeConnection id, [])

/-! ### What is queued and what is accepted -/

/-- The messages queued to a channel. -/
def queuedTo (channel : ChannelId) : List (ChannelId × Str) → List Str :=
  List.filterMap fun e => if e.1 = channel then some e.2 else none

/-- The messages of the events that are broadcast in a history and asked for by a query. -/
def acceptedMessages (query : Option Str) :
    List (WebSocketState D × WebSocketInput Event Kind) → List Str :=
  List.filterMap fun p => match p.2 with
    | .broadcast event =>
      if types.Accepts query (types.kindOf event) then (types.serialize event).toOption else none
    | _ => none

/-- The step drops the connection: it is removed, or its receiver is gone and an event it asks for
is broadcast. -/
def Drops (self : WebSocketState D) (query : Option Str) (id : Str) (channel : ChannelId) :
    WebSocketInput Event Kind → Prop
  | .removeConnection id' => id' = id
  | .broadcast event => types.Accepts query (types.kindOf event) ∧ channel ∈ self.closed ∧
      ∃ message, types.serialize event = .ok message
  | _ => False

instance (self : WebSocketState D) (query : Option Str) (id : Str) (channel : ChannelId) :
    DecidablePred (self.Drops types query id channel)
  | .removeConnection id' => inferInstanceAs (Decidable (id' = id))
  | .broadcast event =>
    match h : types.serialize event with
    | .ok message => decidable_of_iff
        (types.Accepts query (types.kindOf event) ∧ channel ∈ self.closed) (by simp [Drops, h])
    | .error _ => isFalse fun hdrops => by simp [Drops, h] at hdrops
  | .connect .. | .hangUp _ => inferInstanceAs (Decidable False)

/-- The steps of a history up to the one that drops the connection. -/
def lifetime (query : Option Str) (id : Str) (channel : ChannelId)
    (h : List (WebSocketState D × WebSocketInput Event Kind)) :
    List (WebSocketState D × WebSocketInput Event Kind) :=
  h.takeWhile fun p => ¬ p.1.Drops types query id channel p.2

/-- The connection of a channel is in the map. -/
def Registered (self : WebSocketState D) (id : Str) (channel : ChannelId) : Prop :=
  ∃ mask, D.get self.connections id = some ⟨channel, mask⟩

/-! ### What a step does to a connection -/

variable {types}

@[simp] theorem queuedTo_append (channel : ChannelId) (t u : List (ChannelId × Str)) :
    queuedTo channel (t ++ u) = queuedTo channel t ++ queuedTo channel u :=
  List.filterMap_append

@[simp] theorem acceptedMessages_append (query : Option Str)
    (h h' : List (WebSocketState D × WebSocketInput Event Kind)) :
    acceptedMessages types query (h ++ h') =
      acceptedMessages types query h ++ acceptedMessages types query h' :=
  List.filterMap_append

/-- Channels are used once. -/
structure WellFormed (s : WebSocketState D) : Prop where
  fresh : ∀ id c, D.get s.connections id = some c → c.sender < s.nextChannel
  unique : ∀ id id' c c', D.get s.connections id = some c → D.get s.connections id' = some c' →
    c.sender = c'.sender → id = id'

/-- No connection has the channel. -/
def Absent (s : WebSocketState D) (channel : ChannelId) : Prop :=
  ∀ id c, D.get s.connections id = some c → c.sender ≠ channel

theorem wellFormed_new : (new : WebSocketState D).WellFormed := by
  constructor <;> simp [new]

variable {s s' : WebSocketState D} {input : WebSocketInput Event Kind}
  {out : List (ChannelId × Str)}

/-- A new connection gets an identifier that is not in use. -/
theorem addConnection_eq {tx : ChannelId} {events : Option (List Kind)} {draws : List Str}
    {id : Str} (h : s.addConnection types tx events draws = some (s', id)) :
    draws.find? (!D.containsKey s.connections ·) = some id ∧ D.get s.connections id = none ∧
      s' = { s with connections := D.insert s.connections id ⟨tx, types.eventMask events⟩ } := by
  induction draws with
  | nil => cases h
  | cons draw draws ih =>
    rw [addConnection] at h
    split at h
    · next hnew =>
      obtain ⟨rfl, rfl⟩ := Prod.mk.inj (Option.some_inj.mp h)
      have hfree : D.containsKey s.connections draw = false := by simpa using hnew
      exact ⟨by simp [hfree], DashMaps.containsKey_eq_false_iff.mp hfree, rfl⟩
    · next hused =>
      obtain ⟨hfind, hrest⟩ := ih h
      exact ⟨by rw [List.find?_cons_of_neg (by simpa using hused), hfind], hrest⟩

/-- What a step does to the map, and what it queues. -/
inductive Move (types : EventTypes Event Kind) (s : WebSocketState D) :
    WebSocketInput Event Kind → WebSocketState D → List (ChannelId × Str) → Prop
  | connected (query : Option Str) (order : HashSetOrder Kind) (draws : List Str) (id : Str)
      (hfind : draws.find? (!D.containsKey s.connections ·) = some id)
      (hnew : D.get s.connections id = none) :
    Move types s (.connect query order draws)
      { s with
        connections := D.insert s.connections id
          ⟨s.nextChannel, types.eventMask (types.getEventTypes order query)⟩
        nextChannel := s.nextChannel + 1 } []
  | hungUp (channel : ChannelId) :
    Move types s (.hangUp channel) { s with closed := channel :: s.closed } []
  /-- The event was not serialized. -/
  | failed (event : Event) (e : Str) (hmessage : types.serialize event = .error e) :
    Move types s (.broadcast event) s []
  | broadcast (event : Event) (message : Str) (hmessage : types.serialize event = .ok message) :
    Move types s (.broadcast event)
      { s with connections := (D.retain
          (fun _ => s.deliver message (types.toBit (types.kindOf event))) s.connections).1 }
      (D.retain
        (fun _ => s.deliver message (types.toBit (types.kindOf event))) s.connections).2
  | removed (id : Str) :
    Move types s (.removeConnection id) { s with connections := D.remove s.connections id } []

/-- **Case analysis.** Every step is a move. -/
theorem step_move (h : s.step types input = some (s', out)) : Move types s input s' out := by
  cases input with
  | connect query order draws =>
    obtain ⟨⟨added, id⟩, hadded, h⟩ := Option.map_eq_some_iff.mp h
    obtain ⟨rfl, rfl⟩ := Prod.mk.inj h
    obtain ⟨hfind, hnew, rfl⟩ := addConnection_eq hadded
    exact .connected query order draws id hfind hnew
  | hangUp channel =>
    obtain ⟨-, h⟩ := Option.ite_none_right_eq_some.mp h
    obtain ⟨rfl, rfl⟩ := Prod.mk.inj (Option.some_inj.mp h)
    exact .hungUp channel
  | broadcast event =>
    simp only [step, broadcast] at h
    cases hmessage : types.serialize event with
    | error e =>
      rw [hmessage] at h
      obtain ⟨rfl, rfl⟩ := Prod.mk.inj (Option.some_inj.mp h)
      exact .failed event e hmessage
    | ok message =>
      rw [hmessage] at h
      obtain ⟨rfl, rfl⟩ := Prod.mk.inj (Option.some_inj.mp h)
      exact .broadcast event message hmessage
  | removeConnection id =>
    obtain ⟨rfl, rfl⟩ := Prod.mk.inj (Option.some_inj.mp h)
    exact .removed id

/-- Each connection is retained or not for itself. -/
theorem lookup_delivered {message : Str} {eventBit : UInt8} {id : Str} {c : StoredConnection} :
    D.get (D.retain (fun _ => s.deliver message eventBit) s.connections).1 id = some c ↔
      D.get s.connections id = some c ∧ (s.deliver message eventBit c).1 :=
  DashMaps.get_retain_eq_some_iff

/-- A map that only shrinks stays well formed. -/
theorem WellFormed.mono (hwf : s.WellFormed)
    (hlookup : ∀ id c, D.get s'.connections id = some c → D.get s.connections id = some c)
    (hnext : s'.nextChannel = s.nextChannel) : s'.WellFormed where
  fresh id c hc := hnext ▸ hwf.fresh id c (hlookup id c hc)
  unique id id' c c' hc hc' := hwf.unique id id' c c' (hlookup id c hc) (hlookup id' c' hc')

theorem Move.wellFormed (hmove : Move types s input s' out) (hwf : s.WellFormed) :
    s'.WellFormed := by
  cases hmove with
  | connected query order draws id hfind hnew =>
    -- the new connection has a channel that no other has
    have hlookup : ∀ id' c, D.get (D.insert s.connections id
          ⟨s.nextChannel, types.eventMask (types.getEventTypes order query)⟩) id' = some c →
        id' = id ∧ c.sender = s.nextChannel ∨
          D.get s.connections id' = some c ∧ c.sender < s.nextChannel := by
      intro id' c hc
      by_cases heq : id' = id
      · subst heq
        rw [DashMaps.get_insert_self] at hc
        obtain rfl := Option.some_inj.mp hc
        exact .inl ⟨rfl, rfl⟩
      · rw [DashMaps.get_insert_of_ne heq] at hc
        exact .inr ⟨hc, hwf.fresh id' c hc⟩
    refine ⟨fun id' c hc => ?_, fun id₁ id₂ c₁ c₂ hc₁ hc₂ heq => ?_⟩
    · rcases hlookup id' c hc with ⟨-, hsender⟩ | ⟨-, hsender⟩
      · exact hsender.symm ▸ Nat.lt_succ_self _
      · exact Nat.lt_succ_of_lt hsender
    · rcases hlookup id₁ c₁ hc₁ with ⟨rfl, h₁⟩ | ⟨hold₁, h₁⟩ <;>
        rcases hlookup id₂ c₂ hc₂ with ⟨rfl, h₂⟩ | ⟨hold₂, h₂⟩
      · rfl
      · exact absurd (heq.symm.trans h₁) h₂.ne
      · exact absurd (heq.trans h₂) h₁.ne
      · exact hwf.unique id₁ id₂ c₁ c₂ hold₁ hold₂ heq
  | hungUp => exact ⟨hwf.fresh, hwf.unique⟩
  | failed => exact hwf
  | broadcast => exact hwf.mono (fun id c hc => (lookup_delivered.mp hc).1) rfl
  | removed => exact hwf.mono (fun id c hc => (DashMaps.get_remove_eq_some_iff.mp hc).2) rfl

/-- A connection is sent to on its own channel. -/
theorem queuedTo_deliver {channel : ChannelId} {c : StoredConnection} (h : c.sender ≠ channel)
    (message : Str) (eventBit : UInt8) :
    queuedTo channel (s.deliver message eventBit c).2 = [] := by
  unfold deliver
  split
  · rfl
  · split
    · simp [queuedTo, h]
    · rfl

theorem Move.nextChannel_le (hmove : Move types s input s' out) :
    s.nextChannel ≤ s'.nextChannel := by
  cases hmove with
  | connected => exact Nat.le_succ _
  | _ => exact le_refl _

/-- A channel without a connection gets nothing. -/
theorem Move.queuedTo_eq_nil (hmove : Move types s input s' out) {channel : ChannelId}
    (habsent : s.Absent channel) : queuedTo channel out = [] := by
  cases hmove with
  | broadcast =>
    exact DashMaps.filterMap_retain_eq_nil fun id c hc => queuedTo_deliver (habsent id c hc) _ _
  | _ => rfl

/-- A channel that was used does not get a connection again. -/
theorem Move.absent (hmove : Move types s input s' out) {channel : ChannelId}
    (hchannel : channel < s.nextChannel) (habsent : s.Absent channel) : s'.Absent channel := by
  cases hmove with
  | connected query order draws id =>
    intro id' c hc
    by_cases heq : id' = id
    · subst heq
      rw [DashMaps.get_insert_self] at hc
      obtain rfl := Option.some_inj.mp hc
      exact hchannel.ne'
    · rw [DashMaps.get_insert_of_ne heq] at hc
      exact habsent id' c hc
  | hungUp => exact habsent
  | failed => exact habsent
  | broadcast => exact fun id c hc => habsent id c (lookup_delivered.mp hc).1
  | removed => exact fun id c hc => habsent id c (DashMaps.get_remove_eq_some_iff.mp hc).2

/-- The bit test of a connection asks whether its query accepts the event. -/
theorem deliver_eq {query : Option Str} {mask : UInt8}
    (hmask : ∀ k, mask &&& types.toBit k ≠ 0 ↔ types.Accepts query k) (message : Str) (k : Kind)
    (channel : ChannelId) :
    s.deliver message (types.toBit k) ⟨channel, mask⟩ =
      if types.Accepts query k then
        if channel ∈ s.closed then (false, []) else (true, [(channel, message)])
      else (true, []) := by
  by_cases haccepts : types.Accepts query k
  · have hbit := (hmask k).mpr haccepts
    simp [deliver, hbit, haccepts, ite_not]
  · have hbit : mask &&& types.toBit k = 0 := not_not.mp fun hne => haccepts ((hmask k).mp hne)
    simp [deliver, hbit, haccepts]

/-- The step drops the connection and queues nothing to it, or keeps it and queues what it
accepts. -/
theorem Move.registered (hmove : Move types s input s' out) (hwf : s.WellFormed)
    {query : Option Str} {id : Str} {channel : ChannelId} {mask : UInt8}
    (hmask : ∀ k, mask &&& types.toBit k ≠ 0 ↔ types.Accepts query k)
    (hlookup : D.get s.connections id = some ⟨channel, mask⟩) :
    s.Drops types query id channel input ∧ s'.Absent channel ∧ queuedTo channel out = [] ∨
      ¬ s.Drops types query id channel input ∧
        D.get s'.connections id = some ⟨channel, mask⟩ ∧
        queuedTo channel out = acceptedMessages types query [(s, input)] := by
  -- the channel belongs to no other connection
  have hother : ∀ id' c, id' ≠ id → D.get s.connections id' = some c → c.sender ≠ channel :=
    fun id' c hne hc heq => hne (hwf.unique id' id c _ hc hlookup heq)
  cases hmove with
  | connected query' order draws id' hfind hnew =>
    refine .inr ⟨fun hdrops => hdrops, ?_, rfl⟩
    rw [DashMaps.get_insert_of_ne, hlookup]
    rintro rfl
    rw [hnew] at hlookup
    cases hlookup
  | hungUp => exact .inr ⟨fun hdrops => hdrops, hlookup, rfl⟩
  | failed event e hmessage =>
    refine .inr ⟨?_, hlookup, ?_⟩
    · rintro ⟨-, -, message, hok⟩
      rw [hmessage] at hok
      cases hok
    · simp [acceptedMessages, hmessage, Except.toOption, queuedTo]
  | broadcast event message hmessage =>
    have hsent := DashMaps.filterMap_retain (g := fun e : ChannelId × Str =>
        if e.1 = channel then some e.2 else none)
      (f := fun _ => s.deliver message (types.toBit (types.kindOf event))) hlookup
      fun id' c hne hc => queuedTo_deliver (hother id' c hne hc) _ _
    have hdeliver := s.deliver_eq hmask message (types.kindOf event) channel
    by_cases haccepts : types.Accepts query (types.kindOf event)
    · rw [if_pos haccepts] at hdeliver
      by_cases hclosed : channel ∈ s.closed
      · rw [if_pos hclosed] at hdeliver
        refine .inl ⟨⟨haccepts, hclosed, message, hmessage⟩, fun id' c hc heq => ?_, ?_⟩
        · obtain ⟨hc, hkept⟩ := lookup_delivered.mp hc
          by_cases hid : id' = id
          · subst hid
            obtain rfl := Option.some_inj.mp (hc.symm.trans hlookup)
            rw [hdeliver] at hkept
            cases hkept
          · exact hother id' c hid hc heq
        · rw [queuedTo, hsent, hdeliver]
          rfl
      · rw [if_neg hclosed] at hdeliver
        refine .inr ⟨fun hdrops => hclosed hdrops.2.1,
          lookup_delivered.mpr ⟨hlookup, by rw [hdeliver]⟩, ?_⟩
        rw [queuedTo, hsent, hdeliver]
        simp [acceptedMessages, haccepts, hmessage, Except.toOption]
    · rw [if_neg haccepts] at hdeliver
      refine .inr ⟨fun hdrops => haccepts hdrops.1,
        lookup_delivered.mpr ⟨hlookup, by rw [hdeliver]⟩, ?_⟩
      rw [queuedTo, hsent, hdeliver]
      simp [acceptedMessages, haccepts]
  | removed id' =>
    by_cases heq : id' = id
    · subst heq
      refine .inl ⟨rfl, fun id₁ c hc => ?_, rfl⟩
      obtain ⟨hne, hc⟩ := DashMaps.get_remove_eq_some_iff.mp hc
      exact hother id₁ c hne hc
    · exact .inr ⟨heq, DashMaps.get_remove_eq_some_iff.mpr ⟨Ne.symm heq, hlookup⟩, rfl⟩

/-! ### Histories -/

section

variable {query : Option Str} {id : Str} {channel : ChannelId}
  {h h' : List (WebSocketState D × WebSocketInput Event Kind)} {t : List (ChannelId × Str)}

theorem lifetime_of_forall (hkept : ∀ p ∈ h, ¬ p.1.Drops types query id channel p.2) :
    lifetime types query id channel h = h :=
  List.takeWhile_eq_self_iff.mpr fun p hp => decide_eq_true (hkept p hp)

/-- A connection that is not dropped outlives the history. -/
theorem lifetime_append_of_forall (hkept : ∀ p ∈ h, ¬ p.1.Drops types query id channel p.2) :
    lifetime types query id channel (h ++ h') = h ++ lifetime types query id channel h' :=
  List.takeWhile_append_of_pos fun p hp => decide_eq_true (hkept p hp)

/-- What comes after a connection was dropped is not part of its lifetime. -/
theorem lifetime_append_of_exists (hdropped : ∃ p ∈ h, p.1.Drops types query id channel p.2) :
    lifetime types query id channel (h ++ h') = lifetime types query id channel h := by
  obtain ⟨p, hp, hdrops⟩ := hdropped
  rw [lifetime, List.takeWhile_append, if_neg, lifetime]
  intro hlength
  have hall := List.takeWhile_eq_self_iff.mp ((List.takeWhile_prefix _).eq_of_length hlength) p hp
  exact of_decide_eq_true hall hdrops

/-- From its registration on, what is queued to a connection is what it accepts in its lifetime,
and it is in the map until the lifetime ends. -/
theorem run_lifetime {s₀ : WebSocketState D} (hwf : s₀.WellFormed) {mask : UInt8}
    (hmask : ∀ k, mask &&& types.toBit k ≠ 0 ↔ types.Accepts query k)
    (hlookup : D.get s₀.connections id = some ⟨channel, mask⟩)
    (hrun : Run (step types) s₀ h s t) :
    queuedTo channel t = acceptedMessages types query (lifetime types query id channel h) ∧
      s.WellFormed ∧
      ((∀ p ∈ h, ¬ p.1.Drops types query id channel p.2) ∧
          D.get s.connections id = some ⟨channel, mask⟩ ∨
        (∃ p ∈ h, p.1.Drops types query id channel p.2) ∧ channel < s.nextChannel ∧
          s.Absent channel) := by
  induction hrun with
  | start => exact ⟨rfl, hwf, .inl ⟨by simp, hlookup⟩⟩
  | @next h s s' t out input hrun hstep ih =>
    have hmove := step_move hstep
    obtain ⟨hqueued, hwf, ⟨hkept, hlookup⟩ | ⟨hdropped, hchannel, habsent⟩⟩ := ih
    · have hchannel := hwf.fresh id _ hlookup
      rw [lifetime_of_forall hkept] at hqueued
      rcases hmove.registered hwf hmask hlookup with
        ⟨hdrops, habsent, hout⟩ | ⟨hkeeps, hlookup', hout⟩
      · refine ⟨?_, hmove.wellFormed hwf, .inr ⟨⟨(s, input), by simp, hdrops⟩,
          lt_of_lt_of_le hchannel hmove.nextChannel_le, habsent⟩⟩
        rw [lifetime_append_of_forall hkept, lifetime, List.takeWhile_cons_of_neg (by simpa),
          List.append_nil, queuedTo_append, hqueued, hout, List.append_nil]
      · refine ⟨?_, hmove.wellFormed hwf, .inl ⟨?_, hlookup'⟩⟩
        · rw [lifetime_append_of_forall hkept, lifetime, List.takeWhile_cons_of_pos (by simpa),
            queuedTo_append, hqueued, hout, acceptedMessages_append]
          rfl
        · exact List.forall_mem_append.mpr ⟨hkept, by simpa using hkeeps⟩
    · obtain ⟨p, hp, hdrops⟩ := hdropped
      refine ⟨?_, hmove.wellFormed hwf, .inr ⟨⟨p, List.mem_append_left _ hp, hdrops⟩,
        lt_of_lt_of_le hchannel hmove.nextChannel_le, hmove.absent hchannel habsent⟩⟩
      rw [lifetime_append_of_exists ⟨p, hp, hdrops⟩, queuedTo_append, hqueued,
        hmove.queuedTo_eq_nil habsent, List.append_nil]

/-- Nothing is queued to a channel before it is made. -/
theorem run_channels (hrun : Run (step types) new h s t) :
    s.WellFormed ∧ ∀ channel, s.nextChannel ≤ channel → queuedTo channel t = [] := by
  refine hrun.induct (P := fun _ s t => s.WellFormed ∧
    ∀ channel, s.nextChannel ≤ channel → queuedTo channel t = [])
    ⟨wellFormed_new, fun _ _ => rfl⟩ ?_
  rintro h s t input s' out - ⟨hwf, hqueued⟩ hstep
  have hmove := step_move hstep
  refine ⟨hmove.wellFormed hwf, fun channel hle => ?_⟩
  have hunused : s.nextChannel ≤ channel := hmove.nextChannel_le.trans hle
  have habsent : s.Absent channel := fun id c hc =>
    (lt_of_lt_of_le (hwf.fresh id c hc) hunused).ne
  rw [queuedTo_append, hqueued channel hunused, hmove.queuedTo_eq_nil habsent, List.append_nil]

/-- **Subscriptions.** After any history, what was queued to a connection since it was made is,
in order and once each, the messages of the events it asks for that were broadcast before it was
dropped. It is in the map until it is removed, or an event it asks for is broadcast when its
receiver is gone; no other step, and nothing that happens to another connection, drops it. -/
theorem subscription (hrun : Run (step types) new h s t)
    {h₁ h₂ : List (WebSocketState D × WebSocketInput Event Kind)} {s₁ : WebSocketState D}
    {query : Option Str} {order : HashSetOrder Kind} {draws : List Str}
    (heq : h = h₁ ++ (s₁, .connect query order draws) :: h₂) :
    ∃ id, draws.find? (!D.containsKey s₁.connections ·) = some id ∧
      queuedTo s₁.nextChannel t =
        acceptedMessages types query (lifetime types query id s₁.nextChannel h₂) ∧
      (s.Registered id s₁.nextChannel ↔
        ∀ p ∈ h₂, ¬ p.1.Drops types query id s₁.nextChannel p.2) := by
  obtain ⟨t₁, s₂, out, t₂, hrun₁, hstep, hrun₂, rfl⟩ := hrun.split heq
  obtain ⟨hwf, hqueued⟩ := run_channels hrun₁
  have hmove := step_move hstep
  have hwf₂ := hmove.wellFormed hwf
  cases hmove with
  | connected _ _ _ id hfind hnew =>
    obtain ⟨hlifetime, -, hregistered⟩ := run_lifetime hwf₂
      (fun k => EventTypes.mask_and_toBit_ne_zero_iff order query k) DashMaps.get_insert_self hrun₂
    have hbefore := hqueued s₁.nextChannel le_rfl
    refine ⟨id, hfind, by simpa [hbefore] using hlifetime, ?_⟩
    rcases hregistered with ⟨hkept, hlookup⟩ | ⟨⟨p, hp, hdrops⟩, -, habsent⟩
    · exact iff_of_true ⟨_, hlookup⟩ hkept
    · exact iff_of_false (fun ⟨mask, hlookup⟩ => habsent id _ hlookup rfl)
        fun hkept => hkept p hp hdrops

end

/-- A client asks for incoming messages, and another for everything, whose receiver goes away: the
first gets the incoming messages, and the second is dropped by the next event. -/
theorem subscription_filtered :
    ∃ (h₂ : List (WebSocketState .ofAList × WebSocketInput (EventKind × Str) EventKind))
      (s : WebSocketState .ofAList) (t : List (ChannelId × Str)),
      Run (step .standard) new
        ((new, .connect (some " incoming , unknown".toList) (.dedup _) ["a".toList]) :: h₂) s t ∧
      AList.keys s.connections = ["a".toList] ∧
      queuedTo 0 t = ["first".toList, "last".toList] ∧ queuedTo 1 t = ["other".toList] ∧
      ∃ id, ["a".toList].find? (!DashMaps.ofAList.containsKey new.connections ·) = some id ∧
        queuedTo 0 t = acceptedMessages .standard (some " incoming , unknown".toList)
          (lifetime .standard (some " incoming , unknown".toList) id 0 h₂) ∧
        (s.Registered id 0 ↔
          ∀ p ∈ h₂, ¬ p.1.Drops .standard (some " incoming , unknown".toList) id 0 p.2) := by
  obtain ⟨s, t, -, hrun, hfacts⟩ := Run.of_execute (step .standard) (new : WebSocketState .ofAList)
    [.connect (some " incoming , unknown".toList) (.dedup _) ["a".toList],
      .broadcast (.incomingMessage, "first".toList), .connect none (.dedup _)
        ["a".toList, "b".toList], .broadcast (.deliveryReport, "other".toList), .hangUp 1,
      .broadcast (.incomingMessage, "last".toList)]
    (fun r => (AList.keys r.1.connections, queuedTo 0 r.2, queuedTo 1 r.2))
    (b := (["a".toList], ["first".toList, "last".toList], ["other".toList])) (by decide +kernel)
  obtain ⟨hkeys, hqueued⟩ := Prod.mk.inj hfacts
  obtain ⟨hfirst, hsecond⟩ := Prod.mk.inj hqueued
  exact ⟨_, s, t, hrun, hkeys, hfirst, hsecond, subscription hrun (show _ = [] ++ _ from rfl)⟩

end WebSocketState

end SmsServer
