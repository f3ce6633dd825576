import Mathlib.Data.List.Dedup
import Mathlib.Data.List.Perm.Subperm
import SmsServer.Library.Str

/-!
# Event filters

The kinds of events a WebSocket client asks for, from the `events` parameter of its query
(`WebSocketQuery::get_event_types` in `http/types.rs`) to the mask that is stored with its
connection (`add_connection` in `http/websocket.rs`). On the way the filter is a text, a set, an
optional list, where no list and every kind mean the same, and a mask of bits.

`mask_and_toBit_ne_zero_iff` reads the mask back: its bit test is `Accepts`, which is stated for
the text.
-/

namespace SmsServer

open RustStd

/-- `Event` and `EventKind` of `sms-types`, whose source is not part of the repository, with what
is relied on. -/
structure EventTypes (Event Kind : Type) where
  /-- `EventKind::from`. -/
  kindOf : Event → Kind
  /-- `serde_json::to_string`. -/
  serialize : Event → Except Str Str
  name : Kind → Str
  /-- `EventKind::try_from`, which accepts the names. -/
  tryFrom : Str → Option Kind
  tryFrom_eq_some_iff : ∀ s k, tryFrom s = some k ↔ s = name k
  /-- A bit of its own for each kind. -/
  toBit : Kind → UInt8
  toBit_single : ∀ k, ∃ i : Fin 8, toBit k = 1 <<< i.val.toUInt8
  toBit_injective : Function.Injective toBit
  eventsToMask : List Kind → UInt8
  eventsToMask_eq : ∀ kinds, eventsToMask kinds = kinds.foldr (fun k mask => toBit k ||| mask) 0
  /-- The kinds. -/
  kinds : List Kind
  kinds_nodup : kinds.Nodup
  mem_kinds : ∀ k, k ∈ kinds
  allBits : UInt8
  allBits_eq : allBits = eventsToMask kinds
  /-- `EventKind::COUNT`. -/
  count : ℕ
  count_eq : count = kinds.length

/-- The order in which a `HashSet` made of a list is iterated. -/
structure HashSetOrder (Kind : Type) where
  toVec : List Kind → List Kind
  nodup : ∀ kinds, (toVec kinds).Nodup
  mem_toVec : ∀ kinds k, k ∈ toVec kinds ↔ k ∈ kinds

/-- Iteration in the order of the last occurrences. -/
def HashSetOrder.dedup (Kind : Type) [DecidableEq Kind] : HashSetOrder Kind where
  toVec := List.dedup
  nodup := List.nodup_dedup
  mem_toVec _ _ := List.mem_dedup

namespace EventTypes

variable {Event Kind : Type} (types : EventTypes Event Kind)

/-- `get_event_types`. -/
def getEventTypes (order : HashSetOrder Kind) (query : Option Str) : Option (List Kind) :=
  match query with
  | none => none
  | some eventsStr =>
    if eventsStr = "*".toList then none
    else
      let events := order.toVec ((split ',' eventsStr).filterMap fun s => types.tryFrom (trim s))
      -- none or all: no filter
      if events.length = 0 ∨ events.length = types.count then none else some events

/-- The mask of a new connection. -/
def eventMask (events : Option (List Kind)) : UInt8 :=
  match events with
  | some eventTypes => types.eventsToMask eventTypes
  | none => types.allBits

/-- The query asks for a kind: there is none, it is `*`, none of its trimmed tokens is the name of
a kind, or one of them is the name of this kind. -/
def Accepts (query : Option Str) (k : Kind) : Prop :=
  ∀ events, query = some events → events = "*".toList ∨
    (∀ token ∈ split ',' events, ∀ k', trim token ≠ types.name k') ∨
    ∃ token ∈ split ',' events, trim token = types.name k

instance (query : Option Str) (k : Kind) : Decidable (types.Accepts query k) :=
  match query with
  | none => isTrue nofun
  | some events => decidable_of_iff (events = "*".toList ∨
      (∀ token ∈ split ',' events, ∀ k' ∈ types.kinds, trim token ≠ types.name k') ∨
      ∃ token ∈ split ',' events, trim token = types.name k) (by simp [Accepts, types.mem_kinds])

/-- The kinds in the set are those that a token names. -/
theorem mem_toVec_tryFrom (order : HashSetOrder Kind) (events : Str) (k : Kind) :
    k ∈ order.toVec ((split ',' events).filterMap fun s => types.tryFrom (trim s)) ↔
      ∃ token ∈ split ',' events, trim token = types.name k := by
  simp [order.mem_toVec, types.tryFrom_eq_some_iff]

/-! ### Masks -/

variable {types}

theorem toBit_and_toBit (k k' : Kind) : types.toBit k &&& types.toBit k' = 0 ↔ k ≠ k' := by
  have hbits : ∀ i j : Fin 8, (1 <<< i.val.toUInt8 : UInt8) &&& 1 <<< j.val.toUInt8 = 0 ↔
      (1 <<< i.val.toUInt8 : UInt8) ≠ 1 <<< j.val.toUInt8 := by decide
  obtain ⟨i, hi⟩ := types.toBit_single k
  obtain ⟨j, hj⟩ := types.toBit_single k'
  rw [← types.toBit_injective.ne_iff, hi, hj]
  exact hbits i j

theorem or_and_eq_zero_iff (a b c : UInt8) : (a ||| b) &&& c = 0 ↔ a &&& c = 0 ∧ b &&& c = 0 := by
  have hdistrib : (a ||| b) &&& c = (a &&& c) ||| (b &&& c) := by
    refine UInt8.toBitVec_inj.mp (BitVec.eq_of_getLsbD_eq fun i _ => ?_)
    simp [Bool.and_or_distrib_right]
  rw [hdistrib, UInt8.or_eq_zero_iff]

/-- The mask of a list of kinds has the bits of its members. -/
theorem eventsToMask_and_toBit (kinds : List Kind) (k : Kind) :
    types.eventsToMask kinds &&& types.toBit k = 0 ↔ k ∉ kinds := by
  rw [types.eventsToMask_eq]
  induction kinds with
  | nil => simp
  | cons k' kinds ih =>
    rw [List.foldr_cons, or_and_eq_zero_iff, toBit_and_toBit, ih, List.mem_cons, not_or, ne_comm]

/-- As many different kinds as there are kinds are all of them. -/
theorem mem_of_length_eq_count {kinds : List Kind} (hnodup : kinds.Nodup)
    (hlength : kinds.length = types.count) (k : Kind) : k ∈ kinds := by
  have hsubperm : kinds.Subperm types.kinds := hnodup.subperm fun k _ => types.mem_kinds k
  have hperm := hsubperm.perm_of_length_le (by rw [hlength, types.count_eq])
  exact hperm.mem_iff.mpr (types.mem_kinds k)

/-- **The filter.** The bit test of the mask that is made of a query tells whether the query asks
for the kind. -/
theorem mask_and_toBit_ne_zero_iff (order : HashSetOrder Kind) (query : Option Str) (k : Kind) :
    types.eventMask (types.getEventTypes order query) &&& types.toBit k ≠ 0 ↔
      types.Accepts query k := by
  have hall : types.allBits &&& types.toBit k ≠ 0 := by
    rw [types.allBits_eq, Ne, eventsToMask_and_toBit]
    exact not_not.mpr (types.mem_kinds k)
  cases query with
  | none => exact iff_of_true hall nofun
  | some events =>
    have hmem := types.mem_toVec_tryFrom order events
    simp only [getEventTypes]
    split
    · next hstar =>
      refine iff_of_true hall fun _ heq => .inl ?_
      rwa [← Option.some_inj.mp heq]
    next hstar =>
    generalize hkinds : order.toVec _ = kinds at hmem ⊢
    split
    · next hsize =>
      refine iff_of_true hall fun _ heq => .inr ?_
      obtain rfl := Option.some_inj.mp heq
      rcases hsize with hnone | hcount
      · refine .inl fun token htoken k' hname => ?_
        have hk' := (hmem k').mpr ⟨token, htoken, hname⟩
        rw [List.eq_nil_of_length_eq_zero hnone] at hk'
        cases hk'
      · refine .inr ((hmem k).mp (mem_of_length_eq_count ?_ hcount k))
        rw [← hkinds]
        exact order.nodup _
    · next hsize =>
      rw [eventMask, Ne, eventsToMask_and_toBit, not_not, hmem]
      refine ⟨fun h _ heq => .inr (.inr (Option.some_inj.mp heq ▸ h)), fun h => ?_⟩
      rcases h events rfl with hstar' | hnone | hsome
      · exact absurd hstar' hstar
      · -- some kind was named
        obtain ⟨k', hk'⟩ := List.exists_mem_of_length_pos
          (Nat.pos_of_ne_zero fun hzero => hsize (.inl hzero))
        obtain ⟨token, htoken, hname⟩ := (hmem k').mp hk'
        exact absurd hname (hnone token htoken k')
      · exact hsome

end EventTypes

/-! ### The kinds of the tests -/

inductive EventKind
  | incomingMessage
  | outgoingMessage
  | deliveryReport
  | modemStatusUpdate
  | gnssPositionReport
  deriving DecidableEq, Repr

namespace EventKind

def name : EventKind → Str
  | incomingMessage => "incoming".toList
  | outgoingMessage => "outgoing".toList
  | deliveryReport => "delivery".toList
  | modemStatusUpdate => "modem_status_update".toList
  | gnssPositionReport => "gnss_position_report".toList

def all : List EventKind :=
  [incomingMessage, outgoingMessage, deliveryReport, modemStatusUpdate, gnssPositionReport]

def toBit : EventKind → UInt8
  | incomingMessage => 1
  | outgoingMessage => 2
  | deliveryReport => 4
  | modemStatusUpdate => 8
  | gnssPositionReport => 16

end EventKind

/-- Events that are a kind and their text. -/
def EventTypes.standard : EventTypes (EventKind × Str) EventKind where
  kindOf := Prod.fst
  serialize event := .ok event.2
  name := EventKind.name
  tryFrom s := EventKind.all.find? (·.name = s)
  tryFrom_eq_some_iff s k := by
    constructor
    · intro h
      have hname := List.find?_some h
      exact (of_decide_eq_true hname).symm
    · rintro rfl
      cases k <;> decide
  toBit := EventKind.toBit
  toBit_single k := by cases k <;> decide
  toBit_injective k k' h := by cases k <;> cases k' <;> first | rfl | exact absurd h (by decide)
  eventsToMask kinds := kinds.foldr (fun k mask => k.toBit ||| mask) 0
  eventsToMask_eq _ := rfl
  kinds := EventKind.all
  kinds_nodup := by decide
  mem_kinds k := by cases k <;> decide
  allBits := 31
  allBits_eq := by decide
  count := 5
  count_eq := rfl

end SmsServer
