import SmsServer.Library.Machine
import SmsServer.Modem.Worker

/-!
# Unsolicited messages

What an unsolicited message does to the machine and to the command it interrupts.

* A complete block (a header, and the payload line if its kind has one) is transparent: a
  sequence of events and the same sequence with its blocks deleted leave the same state, queue
  the same writes and answer the same commands (`run_deleteBlocks`).
* A message is handed to the unsolicited handler, exactly once, unless its header arrives while
  the payload of an earlier header is still awaited; then both are lost
  (`delivered_iff_listening`).
-/

namespace SmsServer

open RustStd Machine Effect

variable {X : Crates}

namespace StateMachineState

/-- One line or prompt, with the channels as they are then. A failed transition is as final as
the error branch of the worker makes it (`ModemWorker.processLineEvent_eq`). -/
def handleEvent (self : StateMachineState) (input : Peers × LineEvent) :
    StateMachineState × List (Effect X) :=
  ((self.transitionState (X := X) input.1 input.2).1,
    (self.transitionState input.1 input.2).2.effects)

theorem handleEvent_of {peers : Peers} {self s' : StateMachineState} {lineEvent : LineEvent}
    {outcome : Outcome X (TransitionError X) Unit}
    (h : transitionState peers self lineEvent = (s', outcome)) :
    self.handleEvent (peers, lineEvent) = (s', outcome.effects) := by
  rw [handleEvent, h]

/-- The kind an unsolicited header line announces. -/
def header? : LineEvent → Option UnsolicitedMessageKind
  | .line content => UnsolicitedMessageKind.fromHeader (trim content)
  | .prompt _ => none

theorem isPayload_eq {lineEvent : LineEvent} :
    isPayload lineEvent ↔ (∃ content, lineEvent = .line content) ∧ header? lineEvent = none := by
  cases lineEvent <;> simp [isPayload, header?]

/-! ### Transparency -/

/-- Sequences of events in which every header of a kind with a next line is followed by a
payload line. -/
inductive Blocks : List (Peers × LineEvent) → Prop
  | nil : Blocks []
  | other {e : Peers × LineEvent} {es : List (Peers × LineEvent)} (hheader : header? e.2 = none) :
    Blocks es → Blocks (e :: es)
  | notice {e : Peers × LineEvent} {es : List (Peers × LineEvent)}
      {messageKind : UnsolicitedMessageKind} (hheader : header? e.2 = some messageKind)
      (hkind : messageKind.hasNextLine = false) : Blocks es → Blocks (e :: es)
  | message {e payload : Peers × LineEvent} {es : List (Peers × LineEvent)}
      (messageKind : UnsolicitedMessageKind) (hheader : header? e.2 = some messageKind)
      (hkind : messageKind.hasNextLine = true) (hpayload : isPayload payload.2) :
    Blocks es → Blocks (e :: payload :: es)

/-- The sequence without headers and payload lines. -/
def deleteBlocks : List (Peers × LineEvent) → List (Peers × LineEvent)
  | [] => []
  | [e] => if (header? e.2).isSome then [] else [e]
  | e :: payload :: es =>
    match header? e.2 with
    | none => e :: deleteBlocks (payload :: es)
    | some messageKind =>
      if messageKind.hasNextLine then deleteBlocks es else deleteBlocks (payload :: es)

theorem deleteBlocks_other {e : Peers × LineEvent} (h : header? e.2 = none)
    (es : List (Peers × LineEvent)) : deleteBlocks (e :: es) = e :: deleteBlocks es := by
  cases es <;> simp [deleteBlocks, h]

theorem deleteBlocks_notice {e : Peers × LineEvent} {messageKind : UnsolicitedMessageKind}
    (h : header? e.2 = some messageKind) (hkind : messageKind.hasNextLine = false)
    (es : List (Peers × LineEvent)) : deleteBlocks (e :: es) = deleteBlocks es := by
  cases es <;> simp [deleteBlocks, h, hkind]

theorem deleteBlocks_message {e : Peers × LineEvent} {messageKind : UnsolicitedMessageKind}
    (h : header? e.2 = some messageKind) (hkind : messageKind.hasNextLine = true)
    (payload : Peers × LineEvent) (es : List (Peers × LineEvent)) :
    deleteBlocks (e :: payload :: es) = deleteBlocks es := by
  simp [deleteBlocks, h, hkind]

/-- What is no header leaves the machine idle or running a command, and is not handed to the
unsolicited handler. -/
theorem handleEvent_noHeader {self : StateMachineState} (hs : self.awaitsPayload = false)
    {input : Peers × LineEvent} (h : header? input.2 = none) :
    (self.handleEvent (X := X) input).1.awaitsPayload = false ∧
      unsolicitedOf (self.handleEvent (X := X) input).2 = [] := by
  have hcases := transitionState_cases (X := X) input.1 self input.2
  have hnot : ∀ messageKind header,
      self.classify input.2 ≠ .unsolicitedMessage messageKind header := by
    intro messageKind header hevent
    obtain ⟨content, hline, -, hkind⟩ := classify_eq_unsolicited_iff.mp hevent
    rw [hline, header?, hkind] at h
    cases h
  unfold handleEvent
  generalize transitionState (X := X) input.1 self input.2 = r at hcases ⊢
  generalize self.classify input.2 = event at hcases hnot
  obtain ⟨s', outcome⟩ := r
  cases hcases with
  | payload => cases hs
  | notice => exact absurd rfl (hnot _ _)
  | header => exact absurd rfl (hnot _ _)
  | pdu => exact ⟨rfl, rfl⟩
  | finished execution _ response =>
    obtain ⟨delivered, hrespond⟩ := execution.command.respond_effects (X := X) input.1 response
    refine ⟨rfl, ?_⟩
    simp only [hrespond]
    rfl
  | progress => exact ⟨rfl, rfl⟩
  | ignored => exact ⟨rfl, rfl⟩
  | invalid => cases hs

/-- **Transparency.** From an idle machine or a running command, a sequence of events and the
sequence without its unsolicited blocks lead to the same state, queue the same writes, and give
the same commands the same responses. -/
theorem run_deleteBlocks {events : List (Peers × LineEvent)} (hblocks : Blocks events)
    {s : StateMachineState} (hs : s.awaitsPayload = false) :
    (Transducer.run (handleEvent (X := X)) s events).1 =
        (Transducer.run (handleEvent (X := X)) s (deleteBlocks events)).1 ∧
      writeCommandsOf (Transducer.run (handleEvent (X := X)) s events).2 =
        writeCommandsOf (Transducer.run (handleEvent (X := X)) s (deleteBlocks events)).2 ∧
      responsesOf (Transducer.run (handleEvent (X := X)) s events).2 =
        responsesOf (Transducer.run (handleEvent (X := X)) s (deleteBlocks events)).2 := by
  induction hblocks generalizing s with
  | nil => exact ⟨rfl, rfl, rfl⟩
  | @other e es hheader _ ih =>
    obtain ⟨hstate, hwrites, hresponses⟩ := ih (handleEvent_noHeader (X := X) hs hheader).1
    rw [deleteBlocks_other hheader, Transducer.run_cons, Transducer.run_cons]
    simp only [writeCommandsOf_append, responsesOf_append]
    exact ⟨hstate, by rw [hwrites], by rw [hresponses]⟩
  | @notice e es messageKind hheader hkind _ ih =>
    obtain ⟨peers, content | content⟩ := e
    · have hstep := handleEvent_of (transitionState_notice (X := X) peers hs hheader hkind)
      rw [deleteBlocks_notice hheader hkind, Transducer.run_cons, hstep]
      simp only [writeCommandsOf_append, responsesOf_append, writeCommandsOf_handleUnsolicited,
        responsesOf_handleUnsolicited, List.nil_append]
      exact ih hs
    · cases hheader
  | @message e payload es messageKind hheader hkind hpayload _ ih =>
    obtain ⟨peers, content | content⟩ := e
    · obtain ⟨peers', line | line⟩ := payload
      · have hstep := handleEvent_of (transitionState_header (X := X) peers hs hheader hkind)
        have hresume := handleEvent_of
          (transitionState_payload (X := X) peers' hpayload messageKind s.execution)
        have hback : resume s.execution = s := by
          cases s with
          | unsolicitedMessage => cases hs
          | _ => rfl
        rw [deleteBlocks_message hheader hkind, Transducer.run_cons, hstep, Transducer.run_cons,
          hresume, hback]
        simp only [writeCommandsOf_append, responsesOf_append,
          writeCommandsOf_handleUnsolicited, responsesOf_handleUnsolicited, List.nil_append]
        exact ih hs
      · cases hpayload
    · cases hheader

/-- An SMS whose payload line reads `OK`, while a signal strength query runs. -/
theorem run_deleteBlocks_query :
    let peers : Peers := { eventRx := true, receiver := fun _ => true }
    let running := command (.new 0 (.new 1 0 .getSignalStrength none) .waitingForData)
    let events := [(peers, .line "+CMT: ,23".toList), (peers, .line "OK".toList),
      (peers, .line "+CSQ: 20,99".toList), (peers, .line "OK".toList)]
    (Transducer.run (handleEvent (X := .rejecting)) running events).1 = idle ∧
      responsesOf (Transducer.run (handleEvent (X := .rejecting)) running events).2 =
        responsesOf (Transducer.run (handleEvent (X := .rejecting)) running (events.drop 2)).2 := by
  intro peers running events
  have hblocks : Blocks events :=
    .message .incomingSms rfl rfl rfl (.other rfl (.other rfl .nil))
  obtain ⟨hstate, -, hresponses⟩ := run_deleteBlocks (X := .rejecting) hblocks (s := running) rfl
  exact ⟨by rw [hstate]; rfl, hresponses⟩

/-! ### Delivery -/

/-- What happens to the machine while the modem is online. -/
inductive MachineInput
  | event (peers : Peers) (event : LineEvent)
  | start (peers : Peers) (now : Millis) (cmd : OutgoingCommand)
  | tick (peers : Peers) (now : Millis)

/-- A command is only started when the machine accepts one. -/
def machineStep (self : StateMachineState) :
    MachineInput → Option (StateMachineState × List (Effect X))
  | .event peers event => some (self.handleEvent (peers, event))
  | .start peers now cmd =>
    if self.canAcceptCommand then
      some ((self.startCommand (X := X) peers now cmd).1,
        (self.startCommand peers now cmd).2.effects)
    else none
  | .tick peers now =>
    some ((self.handleCommandTimeout (X := X) peers now).1,
      (self.handleCommandTimeout peers now).2.effects)

/-- A message the modem announced: whether the machine was listening when the header came, the
kind, and the text for the handler. -/
structure Notification where
  listening : Bool
  messageKind : UnsolicitedMessageKind
  text : Str
  deriving DecidableEq, Repr

/-- The kind of the header just before, if a payload line may follow, with whether the machine
was listening then. -/
abbrev Announced := Option (Bool × UnsolicitedMessageKind)

/-- Reads the stream of line events for what it announces: a header of a kind without a next
line, or the line right after a header of a kind with one. -/
def announce (announced : Announced) (p : StateMachineState × LineEvent) :
    Announced × List Notification :=
  match p.2 with
  | .prompt _ => (none, [])
  | .line content =>
    match UnsolicitedMessageKind.fromHeader (trim content) with
    | some messageKind =>
      if messageKind.hasNextLine then (some (!p.1.awaitsPayload, messageKind), [])
      else (none, [⟨!p.1.awaitsPayload, messageKind, trim content⟩])
    | none => (none, (announced.map fun a => ⟨a.1, a.2, trim content⟩).toList)

/-- The line events of a history, each with the state it met. -/
def lineEvents (h : List (StateMachineState × MachineInput)) :
    List (StateMachineState × LineEvent) :=
  h.filterMap fun p => match p.2 with
    | .event _ event => some (p.1, event)
    | _ => none

/-- The messages the line events of a history announce. -/
def notifications (h : List (StateMachineState × MachineInput)) : List Notification :=
  (Transducer.run announce none (lineEvents h)).2

/-- The handler call a notification asks for. -/
def Notification.call (n : Notification) : UnsolicitedMessageKind × Str := (n.messageKind, n.text)

/-- The state of the machine agrees with the header just before. -/
def Agrees (announced : Announced) : StateMachineState → Prop
  | unsolicitedMessage messageKind _ => announced = some (true, messageKind)
  | _ => ∀ a, announced = some a → a.1 = false

theorem agrees_of_listening {announced : Announced} {s : StateMachineState}
    (hs : s.awaitsPayload = false) :
    Agrees announced s ↔ ∀ a, announced = some a → a.1 = false := by
  cases s with
  | unsolicitedMessage => cases hs
  | _ => rfl

/-- One line event: the handler is called for what was announced while the machine listened. -/
theorem announce_handleEvent {announced : Announced} {s : StateMachineState}
    (hagrees : Agrees announced s) (peers : Peers) (event : LineEvent) :
    Agrees (announce announced (s, event)).1 (s.handleEvent (X := X) (peers, event)).1 ∧
      unsolicitedOf (s.handleEvent (X := X) (peers, event)).2 =
        ((announce announced (s, event)).2.filter (·.listening)).map Notification.call := by
  cases hs : s.awaitsPayload with
  | false =>
    have hannounced := (agrees_of_listening hs).mp hagrees
    cases hheader : header? event with
    | none =>
      -- an announced payload has been lost with its header
      obtain ⟨hlistening, hcalls⟩ := handleEvent_noHeader (X := X) hs
        (show header? (peers, event).2 = none from hheader)
      rw [agrees_of_listening hlistening, hcalls]
      cases event with
      | prompt content => exact ⟨by simp [announce], by simp [announce]⟩
      | line content =>
        have hkind : UnsolicitedMessageKind.fromHeader (trim content) = none := hheader
        cases announced with
        | none => simp [announce, hkind]
        | some a => simp [announce, hkind, hannounced a rfl]
    | some messageKind =>
      cases event with
      | prompt content => cases hheader
      | line content =>
        have hkind : UnsolicitedMessageKind.fromHeader (trim content) = some messageKind := hheader
        cases hnext : messageKind.hasNextLine with
        | false =>
          rw [handleEvent_of (transitionState_notice (X := X) peers hs hkind hnext)]
          simp [announce, hkind, hnext, hs, agrees_of_listening, Notification.call]
        | true =>
          rw [handleEvent_of (transitionState_header (X := X) peers hs hkind hnext)]
          simp [announce, hkind, hnext, hs, Agrees, unsolicitedOf]
  | true =>
    obtain ⟨awaited, interrupted, rfl⟩ : ∃ k i, s = unsolicitedMessage k i := by
      cases s with
      | unsolicitedMessage k i => exact ⟨k, i, rfl⟩
      | _ => cases hs
    have hannounced : announced = some (true, awaited) := hagrees
    cases hpayload : isPayload event with
    | true =>
      obtain ⟨⟨content, rfl⟩, hkind⟩ := isPayload_eq.mp hpayload
      have hlistening : (resume interrupted).awaitsPayload = false := by cases interrupted <;> rfl
      rw [header?] at hkind
      rw [handleEvent_of (transitionState_payload (X := X) peers hpayload awaited interrupted),
        agrees_of_listening hlistening]
      simp [announce, hkind, hannounced, Notification.call]
    | false =>
      rw [handleEvent_of (transitionState_invalid (X := X) peers hpayload awaited interrupted)]
      cases event with
      | prompt content => simp [announce, Agrees, unsolicitedOf]
      | line content =>
        obtain ⟨messageKind, hkind⟩ : ∃ k, UnsolicitedMessageKind.fromHeader (trim content) =
            some k := by
          simpa [isPayload, Option.isNone_eq_false_iff, Option.isSome_iff_exists] using hpayload
        cases hnext : messageKind.hasNextLine <;>
        simp [announce, hkind, hnext, hs, Agrees, unsolicitedOf]

/-- Starting a command and timeout ticks call no handler and leave an idle or running machine
idle or running. -/
theorem agrees_machineStep {announced : Announced} {s s' : StateMachineState}
    {input : MachineInput} {out : List (Effect X)} (hagrees : Agrees announced s)
    (hinput : ∀ peers event, input ≠ .event peers event)
    (hstep : s.machineStep input = some (s', out)) :
    Agrees announced s' ∧ unsolicitedOf out = [] := by
  cases input with
  | event peers event => exact absurd rfl (hinput peers event)
  | start peers now cmd =>
    obtain ⟨haccept, heq⟩ := Option.ite_none_right_eq_some.mp hstep
    obtain ⟨rfl, rfl⟩ := Prod.mk.inj (Option.some_inj.mp heq)
    obtain rfl : s = idle := canAcceptCommand_iff.mp haccept
    cases heventRx : peers.eventRx with
    | true =>
      rw [startCommand_eq heventRx]
      exact ⟨hagrees, rfl⟩
    | false =>
      simp only [startCommand, ModemEventHandlers.commandSender, ModemEventHandlers.write,
        ModemEventHandlers.send, heventRx]
      exact ⟨hagrees, rfl⟩
  | tick peers now =>
    obtain ⟨rfl, rfl⟩ := Prod.mk.inj (Option.some_inj.mp hstep)
    rcases handleCommandTimeout_cases (X := X) peers now s with
      h | ⟨execution, delivered, result, rfl, -, h⟩
    · rw [h]
      exact ⟨hagrees, rfl⟩
    · rw [h]
      exact ⟨hagrees, rfl⟩

/-- The handler calls of a run are the notifications announced while the machine listened. -/
theorem run_unsolicitedOf {h : List (StateMachineState × MachineInput)} {s : StateMachineState}
    {t : List (Effect X)} (hrun : Run machineStep idle h s t) :
    Agrees (Transducer.run announce none (lineEvents h)).1 s ∧
      unsolicitedOf t = ((notifications h).filter (·.listening)).map Notification.call := by
  refine hrun.induct (P := fun h s t =>
    Agrees (Transducer.run announce none (lineEvents h)).1 s ∧
      unsolicitedOf t = ((notifications h).filter (·.listening)).map Notification.call) ?_ ?_
  · exact ⟨by simp [lineEvents, Agrees], rfl⟩
  · rintro h s t input s' out - ⟨hagrees, hcalls⟩ hstep
    rw [unsolicitedOf_append, hcalls]
    have happend : lineEvents (h ++ [(s, input)]) = lineEvents h ++ lineEvents [(s, input)] :=
      List.filterMap_append
    have hnotifications : notifications (h ++ [(s, input)]) = notifications h ++
        (Transducer.run announce (Transducer.run announce none (lineEvents h)).1
          (lineEvents [(s, input)])).2 := by
      rw [notifications, happend, Transducer.run_append]
      rfl
    rw [hnotifications, happend, Transducer.run_append, List.filter_append, List.map_append]
    by_cases hevent : ∃ peers event, input = .event peers event
    · obtain ⟨peers, event, rfl⟩ := hevent
      have hhandle : s.handleEvent (peers, event) = (s', out) := Option.some_inj.mp hstep
      obtain ⟨hagrees', hcalls'⟩ := announce_handleEvent (X := X) hagrees peers event
      rw [hhandle] at hagrees' hcalls'
      refine ⟨hagrees', ?_⟩
      rw [hcalls']
      simp [lineEvents, Transducer.run_cons]
    · have hother : ∀ peers event, input ≠ .event peers event :=
        fun peers event heq => hevent ⟨peers, event, heq⟩
      obtain ⟨hagrees', hcalls'⟩ := agrees_machineStep hagrees hother hstep
      have hnone : lineEvents [(s, input)] = [] := by
        cases input with
        | event peers event => exact absurd rfl (hother peers event)
        | _ => rfl
      rw [hcalls', hnone]
      exact ⟨hagrees', by simp⟩

/-- **Delivery.** Over any run of the machine, the unsolicited handler is called exactly once
for each announced message, in order and for nothing else, if and only if every announcing
header arrived while the machine was not awaiting the payload of an earlier header. -/
theorem delivered_iff_listening {h : List (StateMachineState × MachineInput)}
    {s : StateMachineState} {t : List (Effect X)} (hrun : Run machineStep idle h s t) :
    unsolicitedOf t = (notifications h).map Notification.call ↔
      ∀ n ∈ notifications h, n.listening = true := by
  rw [(run_unsolicitedOf hrun).2]
  constructor
  · intro heq
    have hlength := congrArg List.length heq
    rw [List.length_map, List.length_map] at hlength
    exact List.length_filter_eq_length_iff.mp hlength
  · intro hall
    rw [List.filter_eq_self.mpr hall]

/-- A delivery report that interrupts a query is handled once. -/
theorem delivered_iff_listening_report :
    ∃ (h : List (StateMachineState × MachineInput)) (s : StateMachineState)
      (t : List (Effect .rejecting)), Run machineStep idle h s t ∧
      (notifications h).map Notification.call = [(.deliveryReport, "PDU".toList)] ∧
      (unsolicitedOf t = (notifications h).map Notification.call ↔
        ∀ n ∈ notifications h, n.listening = true) := by
  let peers : Peers := ⟨true, fun _ => true⟩
  obtain ⟨s, t, -, hrun, -⟩ := Run.of_execute (machineStep (X := .rejecting)) idle
    [.start peers 0 (.new 1 0 .getSignalStrength none), .event peers (.line "+CDS: 25".toList),
      .tick peers 1000, .event peers (.line "PDU".toList),
      .event peers (.line "+CSQ: 20,99".toList), .event peers (.line "OK".toList)]
    (fun r => r.1) (b := idle) (by decide +kernel)
  exact ⟨_, s, t, hrun, by decide +kernel, delivered_iff_listening hrun⟩

/-- Two headers in a row: the second message is lost although its payload follows. -/
theorem secondHeader_loses_message :
    ∃ (h : List (StateMachineState × MachineInput)) (s : StateMachineState)
      (t : List (Effect .rejecting)),
      (lineEvents h).map Prod.snd =
        [.line "+CMT: ,23".toList, .line "+CMT: ,24".toList, .line "PDU".toList] ∧
      Run machineStep idle h s t ∧
      (notifications h).map Notification.call = [(.incomingSms, "PDU".toList)] ∧
      unsolicitedOf t = [] := by
  let peers : Peers := ⟨true, fun _ => true⟩
  obtain ⟨s, t, -, hrun, hcalls⟩ := Run.of_execute (machineStep (X := .rejecting)) idle
    [.event peers (.line "+CMT: ,23".toList), .event peers (.line "+CMT: ,24".toList),
      .event peers (.line "PDU".toList)]
    (fun r => unsolicitedOf r.2) (b := []) (by decide +kernel)
  exact ⟨_, s, t, by decide +kernel, hrun, by decide +kernel, hcalls⟩

end StateMachineState

end SmsServer
