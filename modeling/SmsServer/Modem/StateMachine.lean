import SmsServer.Modem.Buffer
import SmsServer.Modem.Handlers

/-!
# The modem state machine

`modem/state_machine.rs`. At most one command runs at a time; an unsolicited header whose data
comes on a line of its own parks it until that line arrives. `process_event` takes the state
out of the machine, which leaves `Idle` behind, and `transition_state` puts a state back only
when no error was raised; `transitionState` keeps that behaviour.

`transitionState_cases` says once what a line or prompt can do. Everything else about the
machine is derived from it.
-/

namespace SmsServer

open RustStd ModemEventHandlers

variable {X : Crates}

structure CommandExecution where
  context : CommandContext
  command : OutgoingCommand
  timeoutAt : Millis
  deriving DecidableEq, Repr

namespace CommandExecution

def new (now : Millis) (command : OutgoingCommand) (commandState : CommandState) :
    CommandExecution :=
  { context := { sequence := command.sequence, state := commandState, responseBuffer := [] },
    command, timeoutAt := now + command.getRequestTimeout }

def isTimedOut (self : CommandExecution) (now : Millis) : Bool := self.timeoutAt ≤ now

/-- `execution.context.state = state`. -/
def setState (self : CommandExecution) (state : CommandState) : CommandExecution :=
  { self with context := { self.context with state } }

/-- Appends a line to the response buffer. -/
def push (self : CommandExecution) (content : Str) : CommandExecution :=
  { self with context :=
      { self.context with responseBuffer := self.context.responseBuffer ++ content ++ ['\n'] } }

@[simp] theorem setState_command (self : CommandExecution) (state : CommandState) :
    (self.setState state).command = self.command := rfl

@[simp] theorem setState_responseBuffer (self : CommandExecution) (state : CommandState) :
    (self.setState state).context.responseBuffer = self.context.responseBuffer := rfl

@[simp] theorem setState_state (self : CommandExecution) (state : CommandState) :
    (self.setState state).context.state = state := rfl

@[simp] theorem push_command (self : CommandExecution) (content : Str) :
    (self.push content).command = self.command := rfl

@[simp] theorem push_state (self : CommandExecution) (content : Str) :
    (self.push content).context.state = self.context.state := rfl

@[simp] theorem push_responseBuffer (self : CommandExecution) (content : Str) :
    (self.push content).context.responseBuffer =
      self.context.responseBuffer ++ content ++ ['\n'] := rfl

end CommandExecution

inductive StateMachineState
  | idle
  | command (execution : CommandExecution)
  | unsolicitedMessage (messageKind : UnsolicitedMessageKind)
      (interruptedCommand : Option CommandExecution)
  deriving DecidableEq, Repr

/-- What `transition_state` fails with. -/
inductive TransitionError (X : Crates)
  /-- Responding to the command failed. -/
  | respond (error : RespondError X)
  /-- "Invalid state transition: … with event …". -/
  | invalid (readState : StateMachineState) (event : ModemEvent)
  /-- The `unreachable!` of `process_command`, a panic. -/
  | unreachable

namespace StateMachineState

/-! ### The held command -/

/-- The execution of the running or parked command. -/
def execution : StateMachineState → Option CommandExecution
  | idle => none
  | command execution => some execution
  | unsolicitedMessage _ interrupted => interrupted

/-- The command held by the machine, running or parked. -/
def held (self : StateMachineState) : List OutgoingCommand :=
  (self.execution.map (·.command)).toList

/-- The state in which a parked command, if any, runs again. -/
def resume : Option CommandExecution → StateMachineState
  | some execution => command execution
  | none => idle

@[simp] theorem execution_idle : idle.execution = none := rfl

@[simp] theorem execution_command (execution : CommandExecution) :
    (command execution).execution = some execution := rfl

@[simp] theorem execution_unsolicitedMessage (messageKind : UnsolicitedMessageKind)
    (interrupted : Option CommandExecution) :
    (unsolicitedMessage messageKind interrupted).execution = interrupted := rfl

@[simp] theorem held_idle : idle.held = [] := rfl

@[simp] theorem held_command (execution : CommandExecution) :
    (command execution).held = [execution.command] := rfl

theorem held_eq_nil_iff {s : StateMachineState} : s.held = [] ↔ s.execution = none := by
  cases h : s.execution <;> simp [held, h]

theorem mem_held_iff {s : StateMachineState} {c : OutgoingCommand} :
    c ∈ s.held ↔ ∃ execution, s.execution = some execution ∧ execution.command = c := by
  simp [held]

/-! ### Commands -/

def canAcceptCommand : StateMachineState → Bool
  | idle => true
  | _ => false

theorem canAcceptCommand_iff {s : StateMachineState} : s.canAcceptCommand ↔ s = idle := by
  cases s <;> simp [canAcceptCommand]

def failActiveCommand (peers : Peers) (reason : Str) :
    StateMachineState → StateMachineState × List (Effect X)
  | command execution => (idle, (execution.command.respond peers (.error reason)).effects)
  | unsolicitedMessage _ (some execution) =>
    (idle, (execution.command.respond peers (.error reason)).effects)
  | other => (other, [])

/-- `start_command`: the machine is replaced whatever it held. -/
def startCommand (peers : Peers) (now : Millis) (self : StateMachineState)
    (cmd : OutgoingCommand) : StateMachineState × Outcome X Str Unit :=
  -- if the AT command cannot be queued the machine stays as it is
  let sent := commandSender peers cmd.request
  match sent.result with
  | .ok commandState =>
    (command (.new now cmd commandState), ⟨.started cmd :: sent.effects, .ok ()⟩)
  | .error e => (self, ⟨.started cmd :: sent.effects, .error e⟩)

def handleCommandTimeout (peers : Peers) (now : Millis) :
    StateMachineState → StateMachineState × Outcome X (RespondError X) Bool
  | command execution =>
    if ¬ execution.isTimedOut now then (command execution, ⟨[], .ok false⟩)
    else
      let answered := execution.command.respond peers (.error "Command timed out!".toList)
      (idle, ⟨answered.effects, answered.result.map fun _ => true⟩)
  | other => (other, ⟨[], .ok false⟩)

/-! ### Events -/

def classifyLine (self : StateMachineState) (content : Str) : ModemEvent :=
  let trimmed := trim content
  match UnsolicitedMessageKind.fromHeader trimmed with
  | some messageKind => .unsolicitedMessage messageKind trimmed
  | none =>
    match self with
    | command exec =>
      if trimmed = "OK".toList ∨ trimmed = "ERROR".toList ∨
          startsWith trimmed exec.command.request.expectedResponsePrefix ∨
          startsWith trimmed "+CME ERROR:".toList ∨ startsWith trimmed "+CMS ERROR:".toList then
        .commandResponse trimmed
      else .data trimmed
    | _ => .data trimmed

/-- The event a line or prompt is for the machine. -/
def classify (self : StateMachineState) : LineEvent → ModemEvent
  | .line content => self.classifyLine content
  | .prompt content => .prompt content

theorem classifyLine_header {content : Str} {messageKind : UnsolicitedMessageKind}
    (h : UnsolicitedMessageKind.fromHeader (trim content) = some messageKind)
    (self : StateMachineState) :
    self.classifyLine content = .unsolicitedMessage messageKind (trim content) := by
  simp only [classifyLine, h]

theorem classifyLine_noHeader {content : Str}
    (h : UnsolicitedMessageKind.fromHeader (trim content) = none) (self : StateMachineState) :
    self.classifyLine content = .commandResponse (trim content) ∨
      self.classifyLine content = .data (trim content) := by
  simp only [classifyLine, h]
  split
  · exact ite_eq_or_eq _ _ _
  · exact .inr rfl

theorem classify_eq_prompt_iff {self : StateMachineState} {lineEvent : LineEvent} {content : Str} :
    self.classify lineEvent = .prompt content ↔ lineEvent = .prompt content := by
  cases lineEvent with
  | prompt prompt => simp [classify]
  | line line =>
    cases hkind : UnsolicitedMessageKind.fromHeader (trim line) with
    | some k => simp [classify, classifyLine_header hkind]
    | none => rcases classifyLine_noHeader hkind self with h | h <;> simp [classify, h]

/-- Response lines and data are trimmed lines. -/
theorem classify_content {self : StateMachineState} {lineEvent : LineEvent} {content : Str}
    (h : self.classify lineEvent = .commandResponse content ∨
      self.classify lineEvent = .data content) :
    ∃ line, lineEvent = .line line ∧ content = trim line := by
  cases lineEvent with
  | prompt prompt => simp [classify] at h
  | line line =>
    refine ⟨line, rfl, ?_⟩
    cases hkind : UnsolicitedMessageKind.fromHeader (trim line) with
    | some k => simp [classify, classifyLine_header hkind] at h
    | none =>
      rcases classifyLine_noHeader hkind self with hevent | hevent <;>
      simp only [classify, hevent, reduceCtorEq, false_or, or_false,
        ModemEvent.commandResponse.injEq, ModemEvent.data.injEq] at h <;>
      exact h.symm

/-- Whether the event can be the data line of an unsolicited message. -/
def isPayload : LineEvent → Bool
  | .line content => (UnsolicitedMessageKind.fromHeader (trim content)).isNone
  | .prompt _ => false

/-- A header line, whatever the state. -/
theorem classify_eq_unsolicited_iff {self : StateMachineState} {lineEvent : LineEvent}
    {messageKind : UnsolicitedMessageKind} {header : Str} :
    self.classify lineEvent = .unsolicitedMessage messageKind header ↔
      ∃ content, lineEvent = .line content ∧ trim content = header ∧
        UnsolicitedMessageKind.fromHeader (trim content) = some messageKind := by
  cases lineEvent with
  | prompt content => simp [classify]
  | line line =>
    cases hkind : UnsolicitedMessageKind.fromHeader (trim line) with
    | some k =>
      simp only [classify, classifyLine_header hkind, ModemEvent.unsolicitedMessage.injEq,
        LineEvent.line.injEq, exists_eq_left', hkind, Option.some_inj]
      exact and_comm
    | none =>
      rcases classifyLine_noHeader hkind self with h | h <;> simp [classify, h, hkind]

/-- `handle_unsolicited`: failures are logged only. -/
def handleUnsolicited (peers : Peers) (messageKind : UnsolicitedMessageKind) (content : Str) :
    List (Effect X) :=
  let handled : Outcome X Str _ := handleUnsolicitedMessage peers messageKind content
  .unsolicited messageKind content :: handled.effects ++
    match handled.result with
    | .ok (some message) => [.mainMessage message]
    | _ => []

/-- `execution.command.respond(response).await?; Ok(StateMachineState::Idle)`. -/
def finish (peers : Peers) (execution : CommandExecution) (response : ModemResponse X) :
    Outcome X (TransitionError X) StateMachineState :=
  let answered := execution.command.respond peers response
  ⟨answered.effects, (answered.result.mapError .respond).map fun _ => idle⟩

/-- A line of the running command. -/
def processContent (peers : Peers) (execution : CommandExecution) (content : Str) :
    Outcome X (TransitionError X) StateMachineState :=
  -- the line is part of the response, also the one that completes it
  let execution := execution.push content
  if execution.context.state.isComplete content then
    match commandResponder execution.command.request execution.context.responseBuffer with
    | .ok response => finish peers execution response
    | .error e => finish peers execution (.error e)
  else ⟨[], .ok (command execution)⟩

def processCommand (peers : Peers) (execution : CommandExecution) :
    ModemEvent → Outcome X (TransitionError X) StateMachineState
  | .prompt _ =>
    let handled := promptHandler peers execution.command.request
    match handled.result with
    | .ok (some newState) => ⟨handled.effects, .ok (command (execution.setState newState))⟩
    | .ok none =>
      finish peers execution (.error "Command completed during prompt handling".toList)
    | .error e => finish peers execution (.error ("Prompt handler error: ".toList ++ e))
  | .commandResponse content => processContent peers execution content
  | .data content => processContent peers execution content
  | .unsolicitedMessage .. => ⟨[], .error .unreachable⟩

def processEvent (peers : Peers) (readState : StateMachineState) (event : ModemEvent) :
    Outcome X (TransitionError X) StateMachineState :=
  match readState, event with
  -- unsolicited message completion
  | unsolicitedMessage messageKind interrupted, .data content =>
    ⟨handleUnsolicited peers messageKind content, .ok (resume interrupted)⟩
  -- unsolicited message start
  | command execution, .unsolicitedMessage messageKind header =>
    if ¬ messageKind.hasNextLine then
      ⟨handleUnsolicited peers messageKind header, .ok (command execution)⟩
    else ⟨[], .ok (unsolicitedMessage messageKind (some execution))⟩
  | idle, .unsolicitedMessage messageKind header =>
    if ¬ messageKind.hasNextLine then
      ⟨handleUnsolicited peers messageKind header, .ok idle⟩
    else ⟨[], .ok (unsolicitedMessage messageKind none)⟩
  -- command responses
  | command execution, event => processCommand peers execution event
  -- unexpected events when idle are ignored
  | idle, .prompt _ => ⟨[], .ok idle⟩
  | idle, .commandResponse _ => ⟨[], .ok idle⟩
  | idle, .data _ => ⟨[], .ok idle⟩
  | readState, event => ⟨[], .error (.invalid readState event)⟩

def transitionState (peers : Peers) (self : StateMachineState) (lineEvent : LineEvent) :
    StateMachineState × Outcome X (TransitionError X) Unit :=
  let processed := processEvent peers self (self.classify lineEvent)
  match processed.result with
  | .ok newState => (newState, ⟨processed.effects, .ok ()⟩)
  -- `take` left the default state behind
  | .error e => (idle, ⟨processed.effects, .error e⟩)

/-! ### What one event can do -/

/-- The machine waits for the line that belongs to an unsolicited header. -/
def awaitsPayload : StateMachineState → Bool
  | unsolicitedMessage .. => true
  | _ => false

/-- While a payload is awaited, exactly the payload lines are classified as data. -/
theorem classify_eq_data_iff {self : StateMachineState} (h : self.awaitsPayload)
    {lineEvent : LineEvent} {content : Str} :
    self.classify lineEvent = .data content ↔
      isPayload lineEvent ∧ ∃ line, lineEvent = .line line ∧ trim line = content := by
  cases lineEvent with
  | prompt prompt => simp [classify, isPayload]
  | line line =>
    cases self with
    | idle => cases h
    | command execution => cases h
    | unsolicitedMessage messageKind interrupted =>
      simp only [classify, classifyLine, isPayload]
      cases hkind : UnsolicitedMessageKind.fromHeader (trim line) <;> simp

theorem isPayload_eq_false {self : StateMachineState} (h : self.awaitsPayload)
    {lineEvent : LineEvent} (hdata : ∀ content, self.classify lineEvent ≠ .data content) :
    isPayload lineEvent = false := by
  by_contra hpayload
  have htrue : isPayload lineEvent = true := by simpa using hpayload
  cases lineEvent with
  | prompt content => cases htrue
  | line line => exact hdata _ ((classify_eq_data_iff h).mpr ⟨htrue, line, rfl, rfl⟩)

/-- The response with which an event ends the running command, `none` if it goes on. -/
def finalResponse? (peers : Peers) (execution : CommandExecution) :
    ModemEvent → Option (ModemResponse X)
  | .prompt _ =>
    match (promptHandler (X := X) peers execution.command.request).result with
    | .ok (some _) => none
    | .ok none => some (.error "Command completed during prompt handling".toList)
    | .error e => some (.error ("Prompt handler error: ".toList ++ e))
  | .commandResponse content | .data content =>
    if execution.context.state.isComplete content then
      some (match commandResponder execution.command.request
          (execution.push content).context.responseBuffer with
        | .ok response => response
        | .error e => .error e)
    else none
  | .unsolicitedMessage .. => none

/-- The transitions of the machine: the state before, the classified event, the state after and
the outcome. -/
inductive Transition (peers : Peers) : StateMachineState → ModemEvent → StateMachineState →
    Outcome X (TransitionError X) Unit → Prop
  /-- The awaited line is handled and the parked command runs again. -/
  | payload (messageKind : UnsolicitedMessageKind) (interrupted : Option CommandExecution)
      (content : Str) :
    Transition peers (unsolicitedMessage messageKind interrupted) (.data content)
      (resume interrupted) ⟨handleUnsolicited peers messageKind content, .ok ()⟩
  /-- A notification without data is handled on the spot. -/
  | notice (s : StateMachineState) (messageKind : UnsolicitedMessageKind) (header : Str)
      (hs : s.awaitsPayload = false) (hkind : messageKind.hasNextLine = false) :
    Transition peers s (.unsolicitedMessage messageKind header) s
      ⟨handleUnsolicited peers messageKind header, .ok ()⟩
  /-- A header parks the running command. -/
  | header (s : StateMachineState) (messageKind : UnsolicitedMessageKind) (header : Str)
      (hs : s.awaitsPayload = false) (hkind : messageKind.hasNextLine = true) :
    Transition peers s (.unsolicitedMessage messageKind header)
      (unsolicitedMessage messageKind s.execution) ⟨[], .ok ()⟩
  /-- A prompt queues the PDU of the running command. -/
  | pdu (execution : CommandExecution) (len : ℕ) (pdu content : Str)
      (hrequest : execution.command.request = .sendSms len pdu) (heventRx : peers.eventRx) :
    Transition peers (command execution) (.prompt content)
      (command (execution.setState .waitingForOk))
      ⟨[.workerEvent (.writeCommand (pduBytes pdu))], .ok ()⟩
  /-- The running command is answered. -/
  | finished (execution : CommandExecution) (event : ModemEvent) (response : ModemResponse X)
      (hresponse : finalResponse? peers execution event = some response) :
    Transition peers (command execution) event idle
      ⟨(execution.command.respond peers response).effects,
        (execution.command.respond peers response).result.mapError .respond⟩
  /-- A line is added to the response of the running command. -/
  | progress (execution : CommandExecution) (event : ModemEvent) (content : Str)
      (hevent : event = .commandResponse content ∨ event = .data content)
      (hcomplete : execution.context.state.isComplete content = false) :
    Transition peers (command execution) event (command (execution.push content)) ⟨[], .ok ()⟩
  /-- Nothing is expected when idle. -/
  | ignored (event : ModemEvent) (hevent : ∀ k header, event ≠ .unsolicitedMessage k header) :
    Transition peers idle event idle ⟨[], .ok ()⟩
  /-- Anything but a payload line is an error while one is awaited, and what was parked is
  gone. -/
  | invalid (messageKind : UnsolicitedMessageKind) (interrupted : Option CommandExecution)
      (event : ModemEvent) (hevent : ∀ content, event ≠ .data content) :
    Transition peers (unsolicitedMessage messageKind interrupted) event idle
      ⟨[], .error (.invalid (unsolicitedMessage messageKind interrupted) event)⟩

/-- The outcome of `process_event`, put back into the machine. -/
def settle (processed : Outcome X (TransitionError X) StateMachineState) :
    StateMachineState × Outcome X (TransitionError X) Unit :=
  match processed.result with
  | .ok newState => (newState, ⟨processed.effects, .ok ()⟩)
  | .error e => (idle, ⟨processed.effects, .error e⟩)

private theorem settle_finish (peers : Peers) (execution : CommandExecution)
    (response : ModemResponse X) :
    settle (finish peers execution response) =
      (idle, ⟨(execution.command.respond peers response).effects,
        (execution.command.respond peers response).result.mapError .respond⟩) := by
  rw [settle, finish]
  cases (execution.command.respond peers response).result <;> rfl

private theorem settle_processContent (peers : Peers) (execution : CommandExecution)
    {event : ModemEvent} {content : Str}
    (hevent : event = .commandResponse content ∨ event = .data content) :
    Transition peers (command execution) event
      (settle (processContent (X := X) peers execution content)).1
      (settle (processContent (X := X) peers execution content)).2 := by
  cases hcomplete : execution.context.state.isComplete content with
  | false =>
    simp only [processContent, CommandExecution.push_state, hcomplete, settle]
    exact .progress execution event content hevent hcomplete
  | true =>
    have hfinal : finalResponse? peers execution event =
        some (match commandResponder (X := X) execution.command.request
            (execution.push content).context.responseBuffer with
          | .ok response => response
          | .error e => .error e) := by
      rcases hevent with rfl | rfl <;> simp only [finalResponse?, hcomplete, if_true]
    simp only [processContent, CommandExecution.push_state, hcomplete, if_true,
      CommandExecution.push_command]
    split at hfinal
    · rw [settle_finish]
      exact .finished execution event _ hfinal
    · rw [settle_finish]
      exact .finished execution event _ hfinal

private theorem settle_prompt (peers : Peers) (execution : CommandExecution) (content : Str) :
    Transition peers (command execution) (.prompt content)
      (settle (processCommand (X := X) peers execution (.prompt content))).1
      (settle (processCommand (X := X) peers execution (.prompt content))).2 := by
  have hrefuse : ∀ message : Str,
      finalResponse? (X := X) peers execution (.prompt content) = some (.error message) →
      processCommand (X := X) peers execution (.prompt content) =
        finish peers execution (.error message) →
      Transition peers (command execution) (.prompt content)
        (settle (processCommand (X := X) peers execution (.prompt content))).1
        (settle (processCommand (X := X) peers execution (.prompt content))).2 := by
    intro message hfinal hprocess
    rw [hprocess, settle_finish]
    exact .finished execution _ _ hfinal
  cases hrequest : execution.command.request with
  | sendSms len pdu =>
    cases heventRx : peers.eventRx with
    | true =>
      have hprocess : processCommand (X := X) peers execution (.prompt content) =
          ⟨[.workerEvent (.writeCommand (pduBytes pdu))],
            .ok (command (execution.setState .waitingForOk))⟩ := by
        simp [processCommand, hrequest, promptHandler, write, send, heventRx, Except.map]
      rw [hprocess]
      exact .pdu execution len pdu content hrequest heventRx
    | false =>
      refine hrefuse ("Prompt handler error: ".toList ++
        "Failed to send write command event".toList) ?_ ?_ <;>
      simp [finalResponse?, processCommand, hrequest, promptHandler, write, send, heventRx,
        Except.map]
  | _ =>
    refine hrefuse "Command completed during prompt handling".toList ?_ ?_ <;>
    simp [finalResponse?, processCommand, hrequest, promptHandler]

/-- **Case analysis.** Every call of `transition_state` is one of the transitions. -/
theorem transitionState_cases (peers : Peers) (self : StateMachineState) (lineEvent : LineEvent) :
    Transition peers self (self.classify lineEvent)
      (transitionState (X := X) peers self lineEvent).1
      (transitionState (X := X) peers self lineEvent).2 := by
  have hsettle : transitionState (X := X) peers self lineEvent =
      settle (processEvent peers self (self.classify lineEvent)) := rfl
  rw [hsettle]
  generalize self.classify lineEvent = event
  cases self with
  | idle =>
    cases event with
    | unsolicitedMessage messageKind header =>
      cases hkind : messageKind.hasNextLine with
      | false => simpa [processEvent, hkind, settle] using .notice idle messageKind header rfl hkind
      | true => simpa [processEvent, hkind, settle] using .header idle messageKind header rfl hkind
    | commandResponse content => exact .ignored _ (by simp)
    | data content => exact .ignored _ (by simp)
    | prompt content => exact .ignored _ (by simp)
  | command execution =>
    cases event with
    | unsolicitedMessage messageKind header =>
      cases hkind : messageKind.hasNextLine with
      | false =>
        simpa [processEvent, hkind, settle] using
          .notice (command execution) messageKind header rfl hkind
      | true =>
        simpa [processEvent, hkind, settle] using
          .header (command execution) messageKind header rfl hkind
    | commandResponse content => exact settle_processContent peers execution (.inl rfl)
    | data content => exact settle_processContent peers execution (.inr rfl)
    | prompt content => exact settle_prompt peers execution content
  | unsolicitedMessage messageKind interrupted =>
    cases event with
    | data content => exact .payload messageKind interrupted content
    | unsolicitedMessage messageKind header => exact .invalid _ _ _ (by simp)
    | commandResponse content => exact .invalid _ _ _ (by simp)
    | prompt content => exact .invalid _ _ _ (by simp)

/-! ### The transitions as equations -/

section

variable (peers : Peers)

theorem transitionState_payload {content : Str} (h : isPayload (.line content))
    (messageKind : UnsolicitedMessageKind) (interrupted : Option CommandExecution) :
    transitionState (X := X) peers (unsolicitedMessage messageKind interrupted) (.line content) =
      (resume interrupted, ⟨handleUnsolicited peers messageKind (trim content), .ok ()⟩) := by
  have hdata : (unsolicitedMessage messageKind interrupted).classify (.line content) =
      .data (trim content) := (classify_eq_data_iff rfl).mpr ⟨h, content, rfl, rfl⟩
  rw [transitionState, hdata]
  rfl

theorem transitionState_invalid {lineEvent : LineEvent} (h : isPayload lineEvent = false)
    (messageKind : UnsolicitedMessageKind) (interrupted : Option CommandExecution) :
    transitionState (X := X) peers (unsolicitedMessage messageKind interrupted) lineEvent =
      (idle, ⟨[], .error (.invalid (unsolicitedMessage messageKind interrupted)
        ((unsolicitedMessage messageKind interrupted).classify lineEvent))⟩) := by
  rw [transitionState]
  cases hevent : (unsolicitedMessage messageKind interrupted).classify lineEvent with
  | data content =>
    rw [((classify_eq_data_iff rfl).mp hevent).1] at h
    cases h
  | _ => rfl

theorem transitionState_notice {self : StateMachineState} (hs : self.awaitsPayload = false)
    {content : Str} {messageKind : UnsolicitedMessageKind}
    (h : UnsolicitedMessageKind.fromHeader (trim content) = some messageKind)
    (hkind : messageKind.hasNextLine = false) :
    transitionState (X := X) peers self (.line content) =
      (self, ⟨handleUnsolicited peers messageKind (trim content), .ok ()⟩) := by
  rw [transitionState, classify, classifyLine_header h]
  cases self with
  | unsolicitedMessage => cases hs
  | idle => simp [processEvent, hkind]
  | command => simp [processEvent, hkind]

theorem transitionState_header {self : StateMachineState} (hs : self.awaitsPayload = false)
    {content : Str} {messageKind : UnsolicitedMessageKind}
    (h : UnsolicitedMessageKind.fromHeader (trim content) = some messageKind)
    (hkind : messageKind.hasNextLine = true) :
    transitionState (X := X) peers self (.line content) =
      (unsolicitedMessage messageKind self.execution, ⟨[], .ok ()⟩) := by
  rw [transitionState, classify, classifyLine_header h]
  cases self with
  | unsolicitedMessage => cases hs
  | idle => simp [processEvent, hkind]
  | command => simp [processEvent, hkind]

/-- A line of the running command. -/
theorem transitionState_content {content : Str} (h : isPayload (.line content))
    (execution : CommandExecution) :
    transitionState (X := X) peers (command execution) (.line content) =
      settle (processContent peers execution (trim content)) := by
  have hkind : UnsolicitedMessageKind.fromHeader (trim content) = none := by
    simpa [isPayload] using h
  have htransition : transitionState (X := X) peers (command execution) (.line content) =
      settle (processEvent peers (command execution)
        ((command execution).classifyLine content)) := rfl
  rw [htransition]
  rcases classifyLine_noHeader hkind (command execution) with hevent | hevent <;>
  rw [hevent] <;> rfl

theorem finalResponse?_content {content : Str} (h : isPayload (.line content))
    (execution : CommandExecution) :
    finalResponse? (X := X) peers execution ((command execution).classify (.line content)) =
      if execution.context.state.isComplete (trim content) then
        some (match commandResponder execution.command.request
            (execution.push (trim content)).context.responseBuffer with
          | .ok response => response
          | .error e => .error e)
      else none := by
  have hkind : UnsolicitedMessageKind.fromHeader (trim content) = none := by
    simpa [isPayload] using h
  rw [classify]
  rcases classifyLine_noHeader hkind (command execution) with hevent | hevent <;>
  rw [hevent] <;> rfl

theorem commandResponder_not_isError {request : ModemRequest} {text : Str}
    {response : ModemResponse X}
    (h : commandResponder request text = .ok response) :
    ¬ response.IsError := by
  have hbind : ∀ {A : Type} (x : Except Str A) (f : A → ModemResponse X),
      (∀ a, ¬ (f a).IsError) → (x >>= fun a => pure (f a)) = .ok response → ¬ response.IsError := by
    intro A x f hf hx
    cases x with
    | error e => cases hx
    | ok a =>
      obtain rfl : f a = response := Except.ok.inj hx
      exact hf a
  unfold commandResponder at h
  split at h
  · cases h
  · cases request <;> refine hbind _ _ (fun _ => ?_) h <;> exact not_false

/-- A running command is answered with a success exactly when a line completes it and its
response parses. -/
theorem finalResponse_not_isError_iff {peers : Peers} {execution : CommandExecution}
    {event : LineEvent} {response : ModemResponse X}
    (h : finalResponse? peers execution
      ((command execution).classify event) = some response) :
    ¬ response.IsError ↔ ∃ content, event = .line content ∧ isPayload event ∧
      execution.context.state.isComplete (trim content) ∧
      commandResponder (X := X) execution.command.request
        (execution.push (trim content)).context.responseBuffer = .ok response := by
  cases event with
  | prompt content =>
    have herror : response.IsError := by
      simp only [classify, finalResponse?] at h
      split at h
      · cases h
      · obtain rfl := Option.some_inj.mp h
        trivial
      · obtain rfl := Option.some_inj.mp h
        trivial
    simp [herror]
  | line content =>
    cases hkind : UnsolicitedMessageKind.fromHeader (trim content) with
    | some messageKind =>
      rw [classify, classifyLine_header hkind] at h
      cases h
    | none =>
      have hpayload : isPayload (.line content) := by
        simp [isPayload, hkind]
      rw [finalResponse?_content _ hpayload] at h
      obtain ⟨hcomplete, hresponse⟩ := Option.ite_none_right_eq_some.mp h
      split at hresponse
      · next hok =>
        obtain rfl := Option.some_inj.mp hresponse
        simp only [commandResponder_not_isError hok, not_false_eq_true, true_iff]
        exact ⟨content, rfl, hpayload, hcomplete, hok⟩
      · next e herror =>
        obtain rfl := Option.some_inj.mp hresponse
        refine iff_of_false (fun hnot => hnot trivial) ?_
        rintro ⟨content', heq, -, -, hok⟩
        obtain rfl := LineEvent.line.inj heq
        rw [herror] at hok
        cases hok

/-- An event that ends the running command. -/
theorem transitionState_finished {execution : CommandExecution} {lineEvent : LineEvent}
    {response : ModemResponse X}
    (h : finalResponse? peers execution ((command execution).classify lineEvent) =
      some response) :
    transitionState peers (command execution) lineEvent =
      (idle, ⟨(execution.command.respond peers response).effects,
        (execution.command.respond peers response).result.mapError .respond⟩) := by
  have hcases := transitionState_cases (X := X) peers (command execution) lineEvent
  generalize transitionState (X := X) peers (command execution) lineEvent = r at hcases ⊢
  generalize (command execution).classify lineEvent = event at hcases h
  obtain ⟨s', outcome⟩ := r
  cases hcases with
  | notice => cases h
  | header => cases h
  | pdu _ len pdu content hrequest heventRx =>
    simp [finalResponse?, promptHandler, write, send, hrequest, heventRx, Except.map] at h
  | finished _ _ response' hresponse =>
    rw [hresponse] at h
    obtain rfl := Option.some_inj.mp h
    rfl
  | progress _ _ content hevent hcomplete =>
    rcases hevent with rfl | rfl <;> simp [finalResponse?, hcomplete] at h

end

/-- A failed transition leaves the machine idle. -/
theorem transitionState_error {peers : Peers} {self : StateMachineState} {lineEvent : LineEvent}
    {e : TransitionError X} (h : (transitionState peers self lineEvent).2.result = .error e) :
    (transitionState (X := X) peers self lineEvent).1 = idle := by
  have hcases := transitionState_cases (X := X) peers self lineEvent
  generalize transitionState (X := X) peers self lineEvent = r at h hcases ⊢
  generalize self.classify lineEvent = event at hcases
  obtain ⟨s', outcome⟩ := r
  cases hcases with
  | payload => cases h
  | notice => cases h
  | header => cases h
  | pdu => cases h
  | finished => rfl
  | progress => cases h
  | ignored => cases h
  | invalid => rfl

/-! ### The other methods -/

theorem failActiveCommand_cases (peers : Peers) (reason : Str) (self : StateMachineState) :
    (self.execution = none ∧ failActiveCommand (X := X) peers reason self = (self, [])) ∨
      ∃ execution delivered, self.execution = some execution ∧
        failActiveCommand (X := X) peers reason self =
          (idle, [.respond execution.command (.error reason) delivered]) := by
  have hanswer : ∀ execution : CommandExecution, ∃ delivered,
      (execution.command.respond (X := X) peers (.error reason)).effects =
        [.respond execution.command (.error reason) delivered] :=
    fun execution => execution.command.respond_effects peers (.error reason)
  cases self with
  | idle => exact .inl ⟨rfl, rfl⟩
  | command execution =>
    obtain ⟨delivered, h⟩ := hanswer execution
    exact .inr ⟨execution, delivered, rfl, by rw [failActiveCommand, h]⟩
  | unsolicitedMessage messageKind interrupted =>
    cases interrupted with
    | none => exact .inl ⟨rfl, rfl⟩
    | some execution =>
      obtain ⟨delivered, h⟩ := hanswer execution
      exact .inr ⟨execution, delivered, rfl, by rw [failActiveCommand, h]⟩

/-- Failing the active command does nothing but answer with an error. -/
theorem mem_failActiveCommand {peers : Peers} {reason : Str} {self : StateMachineState}
    {e : Effect X} (he : e ∈ (failActiveCommand (X := X) peers reason self).2) :
    ∃ c delivered, e = .respond c (.error reason) delivered := by
  rcases failActiveCommand_cases (X := X) peers reason self with ⟨-, h⟩ | ⟨execution, d, -, h⟩
  · rw [h] at he
    cases he
  · rw [h] at he
    exact ⟨execution.command, d, List.mem_singleton.mp he⟩

@[simp] theorem execution_failActiveCommand (peers : Peers) (reason : Str)
    (self : StateMachineState) :
    (failActiveCommand (X := X) peers reason self).1.execution = none := by
  rcases failActiveCommand_cases (X := X) peers reason self with ⟨h, hfail⟩ | ⟨_, _, _, hfail⟩
  · rw [hfail, h]
  · rw [hfail, execution_idle]

@[simp] theorem held_failActiveCommand (peers : Peers) (reason : Str) (self : StateMachineState) :
    (failActiveCommand (X := X) peers reason self).1.held = [] :=
  held_eq_nil_iff.mpr (execution_failActiveCommand peers reason self)

/-- Failing the active command answers what was held. -/
@[simp] theorem answeredOf_failActiveCommand (peers : Peers) (reason : Str)
    (self : StateMachineState) :
    Effect.answeredOf (failActiveCommand (X := X) peers reason self).2 = self.held := by
  rcases failActiveCommand_cases (X := X) peers reason self with ⟨h, hfail⟩ | ⟨_, _, h, hfail⟩
  · rw [hfail, held_eq_nil_iff.mpr h]
    rfl
  · rw [hfail, held, h]
    rfl

/-- Failing the active command does nothing but respond. -/
theorem filterMap_failActiveCommand {B : Type} {f : Effect X → Option B}
    (h : ∀ c response delivered, f (.respond c response delivered) = none) (peers : Peers)
    (reason : Str) (self : StateMachineState) :
    (failActiveCommand (X := X) peers reason self).2.filterMap f = [] := by
  refine List.filterMap_eq_nil_iff.mpr fun e he => ?_
  obtain ⟨c, delivered, rfl⟩ := mem_failActiveCommand he
  exact h c _ delivered

@[simp] theorem takenOf_failActiveCommand (peers : Peers) (reason : Str)
    (self : StateMachineState) :
    Effect.takenOf (failActiveCommand (X := X) peers reason self).2 = [] :=
  filterMap_failActiveCommand (fun _ _ _ => rfl) peers reason self

@[simp] theorem unsolicitedOf_failActiveCommand (peers : Peers) (reason : Str)
    (self : StateMachineState) :
    Effect.unsolicitedOf (failActiveCommand (X := X) peers reason self).2 = [] :=
  filterMap_failActiveCommand (fun _ _ _ => rfl) peers reason self

theorem handleCommandTimeout_cases (peers : Peers) (now : Millis) (self : StateMachineState) :
    handleCommandTimeout (X := X) peers now self = (self, ⟨[], .ok false⟩) ∨
      ∃ execution delivered result, self = command execution ∧ execution.isTimedOut now ∧
        handleCommandTimeout (X := X) peers now self =
          (idle, ⟨[.respond execution.command (.error "Command timed out!".toList) delivered],
            result⟩) := by
  cases self with
  | idle => exact .inl rfl
  | unsolicitedMessage messageKind interrupted => exact .inl rfl
  | command execution =>
    cases htimedOut : execution.isTimedOut now with
    | false => exact .inl (by simp [handleCommandTimeout, htimedOut])
    | true =>
      obtain ⟨delivered, h⟩ := execution.command.respond_effects (X := X) peers
        (.error "Command timed out!".toList)
      refine .inr ⟨execution, delivered, (execution.command.respond (X := X) peers
        (.error "Command timed out!".toList)).result.map fun _ => true, rfl, htimedOut, ?_⟩
      simp only [handleCommandTimeout, htimedOut, not_true_eq_false, if_false, h]

/-- While the worker listens, a command always starts. -/
theorem startCommand_eq {peers : Peers} (heventRx : peers.eventRx) (now : Millis)
    (self : StateMachineState) (cmd : OutgoingCommand) :
    startCommand (X := X) peers now self cmd =
      (command (.new now cmd (initialState cmd.request)),
        ⟨[.started cmd, .workerEvent (.writeCommand (encodeUtf8 (atCommand cmd.request)))],
          .ok ()⟩) := by
  simp [startCommand, commandSender, write, send, heventRx, Except.map]

/-- The unsolicited handler is called once; otherwise it may announce a shutdown or send a
message. -/
theorem handleUnsolicited_cases (peers : Peers) (messageKind : UnsolicitedMessageKind)
    (content : Str) :
    ∃ rest, handleUnsolicited (X := X) peers messageKind content =
        .unsolicited messageKind content :: rest ∧
      ∀ e ∈ rest, e = .workerEvent (.setStatus .shuttingDown) ∨
        ∃ message, e = .mainMessage message := by
  refine ⟨_, rfl, fun e he => ?_⟩
  rcases List.mem_append.mp he with he | he
  · cases messageKind with
    | shuttingDown =>
      simp only [handleUnsolicitedMessage, setStatus, send] at he
      split at he
      · exact .inl (by simpa using he)
      · simp at he
    | _ => simp [handleUnsolicitedMessage] at he
  · split at he
    · exact .inr ⟨_, by simpa using he⟩
    · simp at he

/-- What a projection sees of the unsolicited handler. -/
private theorem filterMap_handleUnsolicited {β : Type} (f : Effect X → Option β)
    (hstatus : f (.workerEvent (.setStatus .shuttingDown)) = none)
    (hmessage : ∀ message, f (.mainMessage message) = none) (peers : Peers)
    (messageKind : UnsolicitedMessageKind) (content : Str) :
    (handleUnsolicited (X := X) peers messageKind content).filterMap f =
      (f (.unsolicited messageKind content)).toList := by
  obtain ⟨rest, heq, hrest⟩ := handleUnsolicited_cases (X := X) peers messageKind content
  have hnone : rest.filterMap f = [] := by
    refine List.filterMap_eq_nil_iff.mpr fun e he => ?_
    rcases hrest e he with rfl | ⟨message, rfl⟩
    · exact hstatus
    · exact hmessage message
  rw [heq, List.filterMap_cons, hnone]
  cases f (.unsolicited messageKind content) <;> rfl

section

variable (peers : Peers) (messageKind : UnsolicitedMessageKind) (content : Str)

@[simp] theorem takenOf_handleUnsolicited :
    Effect.takenOf (handleUnsolicited (X := X) peers messageKind content) = [] :=
  filterMap_handleUnsolicited _ rfl (fun _ => rfl) peers messageKind content

@[simp] theorem answeredOf_handleUnsolicited :
    Effect.answeredOf (handleUnsolicited (X := X) peers messageKind content) = [] :=
  filterMap_handleUnsolicited _ rfl (fun _ => rfl) peers messageKind content

@[simp] theorem responsesOf_handleUnsolicited :
    Effect.responsesOf (handleUnsolicited (X := X) peers messageKind content) = [] :=
  filterMap_handleUnsolicited _ rfl (fun _ => rfl) peers messageKind content

@[simp] theorem writeCommandsOf_handleUnsolicited :
    Effect.writeCommandsOf (handleUnsolicited (X := X) peers messageKind content) = [] :=
  filterMap_handleUnsolicited _ rfl (fun _ => rfl) peers messageKind content

@[simp] theorem unsolicitedOf_handleUnsolicited :
    Effect.unsolicitedOf (handleUnsolicited (X := X) peers messageKind content) =
      [(messageKind, content)] :=
  filterMap_handleUnsolicited _ rfl (fun _ => rfl) peers messageKind content

end

/-- An unsolicited message answers no command. -/
theorem respond_notMem_handleUnsolicited {peers : Peers} {messageKind : UnsolicitedMessageKind}
    {content : Str} {c : OutgoingCommand} {response : ModemResponse X} {delivered : Bool} :
    .respond c response delivered ∉ handleUnsolicited (X := X) peers messageKind content := by
  intro hmem
  obtain ⟨rest, heq, hrest⟩ := handleUnsolicited_cases (X := X) peers messageKind content
  rw [heq, List.mem_cons] at hmem
  rcases hmem with hmem | hmem
  · cases hmem
  · rcases hrest _ hmem with h | ⟨message, h⟩ <;> cases h

/-- The worker events of a transition: a shutdown was announced, or a PDU is to be written. -/
theorem workerEventsOf_transitionState {peers : Peers} {self : StateMachineState}
    {lineEvent : LineEvent} {e : WorkerEvent}
    (he : e ∈ Effect.workerEventsOf (transitionState (X := X) peers self lineEvent).2.effects) :
    e = .setStatus .shuttingDown ∨
      ∃ execution len pdu content, self = command execution ∧ lineEvent = .prompt content ∧
        execution.command.request = .sendSms len pdu ∧ e = .writeCommand (pduBytes pdu) := by
  have hnotice : ∀ messageKind content,
      e ∈ Effect.workerEventsOf (handleUnsolicited (X := X) peers messageKind content) →
      e = .setStatus .shuttingDown := by
    intro messageKind content he
    obtain ⟨rest, heq, hrest⟩ := handleUnsolicited_cases (X := X) peers messageKind content
    obtain ⟨x, hx, hxe⟩ := List.mem_filterMap.mp he
    rcases List.mem_cons.mp (heq ▸ hx) with rfl | hx
    · cases hxe
    · rcases hrest x hx with rfl | ⟨message, rfl⟩
      · exact (Option.some_inj.mp hxe).symm
      · cases hxe
  have hanswer : ∀ (command : OutgoingCommand) (response : ModemResponse X),
      e ∉ Effect.workerEventsOf (command.respond peers response).effects := by
    intro command response
    obtain ⟨delivered, h⟩ := command.respond_effects peers response
    rw [h]
    exact List.not_mem_nil
  have hcases := transitionState_cases (X := X) peers self lineEvent
  generalize transitionState (X := X) peers self lineEvent = r at he hcases
  generalize hevent : self.classify lineEvent = event at hcases
  obtain ⟨s', outcome⟩ := r
  cases hcases with
  | payload => exact .inl (hnotice _ _ he)
  | notice => exact .inl (hnotice _ _ he)
  | header => cases he
  | pdu execution len pdu content hrequest =>
    exact .inr ⟨execution, len, pdu, content, rfl, classify_eq_prompt_iff.mp hevent, hrequest,
      by simpa [Effect.workerEventsOf] using he⟩
  | finished => exact absurd he (hanswer _ _)
  | progress => cases he
  | ignored => cases he
  | invalid => cases he

/-- A transition hands on messages, queues worker events and answers; nothing else. -/
theorem mem_transitionState {peers : Peers} {self : StateMachineState} {lineEvent : LineEvent}
    {e : Effect X} (he : e ∈ (transitionState (X := X) peers self lineEvent).2.effects) :
    (∃ messageKind content, e = .unsolicited messageKind content) ∨
      (∃ event, e = .workerEvent event) ∨ (∃ message, e = .mainMessage message) ∨
      ∃ c response delivered, e = .respond c response delivered := by
  have hnotice : ∀ messageKind content,
      e ∈ handleUnsolicited (X := X) peers messageKind content →
      (∃ messageKind content, e = .unsolicited messageKind content) ∨
        (∃ event, e = .workerEvent event) ∨ (∃ message, e = .mainMessage message) ∨
        ∃ c response delivered, e = .respond c response delivered := by
    intro messageKind content he
    obtain ⟨rest, heq, hrest⟩ := handleUnsolicited_cases (X := X) peers messageKind content
    rcases List.mem_cons.mp (heq ▸ he) with rfl | h
    · exact .inl ⟨_, _, rfl⟩
    · rcases hrest _ h with rfl | ⟨message, rfl⟩
      · exact .inr (.inl ⟨_, rfl⟩)
      · exact .inr (.inr (.inl ⟨_, rfl⟩))
  have hcases := transitionState_cases (X := X) peers self lineEvent
  generalize transitionState (X := X) peers self lineEvent = r at he hcases
  generalize self.classify lineEvent = event at hcases
  obtain ⟨s', outcome⟩ := r
  cases hcases with
  | payload => exact hnotice _ _ he
  | notice => exact hnotice _ _ he
  | header => cases he
  | pdu => exact .inr (.inl ⟨_, List.mem_singleton.mp he⟩)
  | finished execution _ response =>
    obtain ⟨d, hrespond⟩ := execution.command.respond_effects peers response
    simp only [hrespond, List.mem_singleton] at he
    exact .inr (.inr (.inr ⟨_, _, _, he⟩))
  | progress => cases he
  | ignored => cases he
  | invalid => cases he

end StateMachineState

end SmsServer
