import SmsServer.Modem.Status
import SmsServer.Modem.Unsolicited

/-!
# Command timeouts

`handle_command_timeout` only looks at a running command. One that is parked behind an
unsolicited header keeps its deadline, but no tick reaches it while the payload line is awaited:
`timeoutHandled_iff` shows that these are the only commands the timeout misses.

Whether the line buffer is cleared with the command depends on the response: if its requester is
gone, what the modem had begun to answer stays in the buffer (`leavesNothing_iff`).
-/

namespace SmsServer

open RustStd Machine

variable {X : Crates}

namespace StateMachineState

/-- The command held by the machine, running or parked, has reached its deadline. -/
def Overdue (s : StateMachineState) (now : Millis) : Prop :=
  ∃ execution ∈ s.execution, execution.timeoutAt ≤ now

/-- A parked command has reached its deadline. -/
def ParkedOverdue (s : StateMachineState) (now : Millis) : Prop :=
  s.awaitsPayload ∧ s.Overdue now

instance (s : StateMachineState) : DecidablePred s.Overdue :=
  fun now => inferInstanceAs (Decidable (∃ execution ∈ s.execution, execution.timeoutAt ≤ now))

/-- What a timeout check at `now` owes: an overdue command is answered with an error and let go,
and without one nothing happens. -/
structure TimeoutHandled (X : Crates) (peers : Peers) (s : StateMachineState) (now : Millis) :
    Prop where
  overdue : ∀ execution, s.execution = some execution → execution.timeoutAt ≤ now →
    (∃ message delivered, (s.handleCommandTimeout (X := X) peers now).2.effects =
      [.respond execution.command (.error message) delivered]) ∧
    (s.handleCommandTimeout (X := X) peers now).1.held = []
  otherwise : ¬ s.Overdue now →
    (s.handleCommandTimeout (X := X) peers now).1 = s ∧
      (s.handleCommandTimeout (X := X) peers now).2.effects = []

variable {peers : Peers} {s : StateMachineState} {now : Millis}

/-- While a payload line is awaited, a timeout check does nothing. -/
theorem handleCommandTimeout_of_awaitsPayload (h : s.awaitsPayload) (peers : Peers)
    (now : Millis) : s.handleCommandTimeout (X := X) peers now = (s, ⟨[], .ok false⟩) := by
  cases s with
  | unsolicitedMessage => rfl
  | _ => cases h

/-- A check that does nothing is right exactly if nothing is overdue. -/
theorem timeoutHandled_iff_of_eq
    (h : s.handleCommandTimeout (X := X) peers now = (s, ⟨[], .ok false⟩)) :
    TimeoutHandled X peers s now ↔ ¬ s.Overdue now := by
  constructor
  · rintro hhandled ⟨execution, hexecution, hoverdue⟩
    obtain ⟨⟨message, delivered, heffects⟩, -⟩ := hhandled.overdue execution hexecution hoverdue
    rw [h] at heffects
    cases heffects
  · intro hnone
    refine ⟨fun execution hexecution hoverdue => ?_, fun _ => by rw [h]; exact ⟨rfl, rfl⟩⟩
    exact absurd ⟨execution, hexecution, hoverdue⟩ hnone

/-- A running command is timed out at its deadline, and not before. -/
theorem timeoutHandled_command (peers : Peers) (execution : CommandExecution) (now : Millis) :
    TimeoutHandled X peers (command execution) now := by
  rcases handleCommandTimeout_cases (X := X) peers now (command execution) with
    h | ⟨execution', delivered, result, heq, htimedOut, h⟩
  · rw [timeoutHandled_iff_of_eq h]
    rintro ⟨execution', hexecution, hoverdue⟩
    obtain rfl : execution = execution' := Option.some_inj.mp hexecution
    -- an overdue command would have been answered
    simp [handleCommandTimeout, CommandExecution.isTimedOut, hoverdue] at h
  · obtain rfl := command.inj heq
    have hoverdue : (command execution).Overdue now :=
      ⟨execution, rfl, of_decide_eq_true htimedOut⟩
    refine ⟨fun other hother _ => ?_, fun hnone => absurd hoverdue hnone⟩
    obtain rfl : execution = other := Option.some_inj.mp hother
    rw [h]
    exact ⟨⟨_, delivered, rfl⟩, rfl⟩

/-- **Timeouts.** In any state and at any instant, a timeout check answers and lets go of a held
command that has reached its deadline, and does nothing otherwise, if and only if that command is
not parked. -/
theorem timeoutHandled_iff (peers : Peers) (s : StateMachineState) (now : Millis) :
    TimeoutHandled X peers s now ↔ ¬ s.ParkedOverdue now := by
  cases s with
  | idle =>
    rw [timeoutHandled_iff_of_eq rfl]
    simp [Overdue, ParkedOverdue]
  | command execution =>
    exact iff_of_true (timeoutHandled_command peers execution now) fun h => nomatch h.1
  | unsolicitedMessage messageKind interrupted =>
    rw [timeoutHandled_iff_of_eq (handleCommandTimeout_of_awaitsPayload rfl peers now)]
    exact not_congr (and_iff_right rfl).symm

/-- A query is parked behind a header whose payload line never comes: a minute after its
deadline the timeout check leaves it parked. -/
theorem parked_misses_timeout :
    ∃ (h : List (StateMachineState × MachineInput)) (s : StateMachineState)
      (t : List (Effect .rejecting)),
      h.map Prod.snd = [.start ⟨true, fun _ => true⟩ 0 (.new 1 0 .getSignalStrength none),
        .event ⟨true, fun _ => true⟩ (.line "+CMT: ,23".toList)] ∧
      Run machineStep idle h s t ∧ s.held = [.new 1 0 .getSignalStrength none] ∧
      s.Overdue 65000 ∧ ¬ TimeoutHandled .rejecting ⟨true, fun _ => true⟩ s 65000 := by
  obtain ⟨s, t, hinputs, hrun, hfacts⟩ := Run.of_execute (machineStep (X := .rejecting)) idle
    [.start ⟨true, fun _ => true⟩ 0 (.new 1 0 .getSignalStrength none),
      .event ⟨true, fun _ => true⟩ (.line "+CMT: ,23".toList)]
    (fun r => r.1) (b := .unsolicitedMessage .incomingSms (some
      (.new 0 (.new 1 0 .getSignalStrength none) .waitingForData))) (by decide +kernel)
  obtain rfl := hfacts
  refine ⟨_, _, t, hinputs, hrun, rfl, by decide, fun hhandled => ?_⟩
  obtain ⟨⟨message, delivered, heffects⟩, -⟩ := hhandled.overdue _ rfl (by decide)
  cases heffects

end StateMachineState

/-! ### What a timed-out command leaves in the line buffer -/

/-- The bytes that an input brings. -/
def Input.received : Input → List UInt8
  | read (.ok data) => data
  | _ => []

def Input.IsRead : Input → Prop
  | read _ => True
  | _ => False

namespace RunState

/-- The bytes that were read in the steps of a history. -/
def receivedIn (h : List (RunState × Input)) : List UInt8 := h.flatMap fun p => p.2.received

/-- The tick removes a command whose time is over. -/
def Expires (s : RunState) : Input → Prop
  | .timeoutTick now =>
    ∃ execution, s.machine = .command execution ∧ execution.isTimedOut now
  | _ => False

/-- The requester of the held command waits for its response. -/
def RequesterWaits (s : RunState) : Prop :=
  ∀ c ∈ s.machine.held, ∃ tx, c.responseTx = some tx ∧ tx ∉ s.closed

/-- After a command has timed out, the line buffer is empty until the next read, and every line
that the machine is given then was cut out of bytes read later. -/
def LeavesNothing (h : List (RunState × Input)) (s : RunState) : Prop :=
  ∀ h₁ p h₂, h = h₁ ++ p :: h₂ → Expires p.1 p.2 →
    (∀ h₃ h₄, h₂ = h₃ ++ h₄ → (∀ q ∈ h₃, ¬ q.2.IsRead) →
      (firstState h₄ s).lineBuffer.buffer = []) ∧
    ∀ h₃ q h₄ content, h₂ = h₃ ++ q :: h₄ → q.1.phase.nextEvent? = some (.line content) →
      LineOf (receivedIn h₃) content

/-- A tick that removes a command leaves the machine idle, and an empty line buffer if the
requester waits. -/
theorem timeoutTick_of_expires {s : RunState} {now : Millis} (h : s.Expires (.timeoutTick now)) :
    (s.timeoutTick (X := X) now).1.machine = .idle ∧
      ((s.timeoutTick (X := X) now).1.lineBuffer.buffer = [] ↔
        s.RequesterWaits ∨ s.lineBuffer.buffer = []) := by
  obtain ⟨execution, hmachine, htimedOut⟩ := h
  have hwaits : s.RequesterWaits ↔
      ∃ tx, execution.command.responseTx = some tx ∧ tx ∉ s.closed := by
    simp [RequesterWaits, hmachine]
  rw [hwaits, timeoutTick, hmachine]
  simp only [StateMachineState.handleCommandTimeout, htimedOut, not_true_eq_false, if_false,
    true_and, OutgoingCommand.respond]
  cases htx : execution.command.responseTx with
  | none => simp [Except.map]
  | some tx =>
    by_cases hclosed : tx ∈ s.closed
    · simp [peers, hclosed, Except.map]
    · simp [peers, hclosed, Except.map, LineBuffer.clear]

variable {s s' s₀ : RunState} {input : Input} {out : List (Effect X)}

/-- Only a read fills the line buffer. -/
theorem Move.buffer_eq_nil (hmove : Move s input s' out) (hread : ¬ input.IsRead)
    (hs : s.lineBuffer.buffer = []) : s'.lineBuffer.buffer = [] := by
  cases hmove with
  | bytesRead => exact absurd trivial hread
  | timedOut _ _ _ lineBuffer _ _ _ _ hlineBuffer =>
    rcases hlineBuffer with rfl | rfl
    · exact hs
    · rfl
  | slept => rfl
  | reconnected => rfl
  | _ => exact hs

theorem run_buffer_eq_nil {display : TransitionError X → Str} {h : List (RunState × Input)}
    {t : List (Effect X)} (hrun : Run (step display) s₀ h s t)
    (hs₀ : s₀.lineBuffer.buffer = []) (hread : ∀ q ∈ h, ¬ q.2.IsRead) :
    s.lineBuffer.buffer = [] :=
  hrun.induct_of_guard (G := fun _ input => ¬ input.IsRead)
    (P := fun s _ => s.lineBuffer.buffer = []) hs₀
    (fun _ _ _ _ _ _ _ hs hread hstep => (step_move hstep).buffer_eq_nil hread hs) hread

/-- What a step adds to the bytes since the last reconnect is what its input brings. -/
theorem step_readAfter_suffix {display : TransitionError X → Str}
    (hstep : s.step display input = some (s', out)) (bytes : List UInt8) :
    out.foldl Effect.readAfter bytes <:+ bytes ++ input.received := by
  rcases (step_move hstep).quiet with hquiet | ⟨data, rfl, rfl, -⟩ | ⟨dialogue, rfl, -⟩
  · have hreceived : input.received = [] := by
      unfold Input.received
      split
      · next data =>
        cases data with
        | nil => rfl
        | cons b bs =>
          obtain rfl : [.read (b :: bs)] = out :=
            congrArg Prod.snd (step_eq_some_iff.mp hstep).2
          exact (hquiet _ (List.mem_singleton_self _)).elim
      · rfl
    rw [foldl_readAfter_of_quiet hquiet, hreceived, List.append_nil]
  · exact List.suffix_refl _
  · rw [List.foldl_append]
    exact List.nil_suffix

/-- What the worker holds was read after the first state, if that holds nothing. -/
theorem run_provenance_of_empty {display : TransitionError X → Str}
    {h : List (RunState × Input)} {t : List (Effect X)} (hrun : Run (step display) s₀ h s t)
    (hs₀ : s₀.Provenance []) : s.Provenance (receivedIn h) := by
  refine hrun.induct (P := fun h s _ => s.Provenance (receivedIn h)) hs₀ ?_
  intro h s t input s' out _ hprovenance hstep
  have hreceived : receivedIn (h ++ [(s, input)]) = receivedIn h ++ input.received := by
    simp [receivedIn]
  rw [hreceived]
  exact ((step_move hstep).provenance hprovenance).mono (step_readAfter_suffix hstep _)

/-- **Timed-out commands.** In every run, the commands that time out leave nothing in the line
buffer if and only if the requester of each is still waiting when the command is removed, or
nothing was in the buffer. -/
theorem leavesNothing_iff {display : TransitionError X → Str} {config : ModemConfig} {port : Port}
    {h : List (RunState × Input)} {t : List (Effect X)}
    (hrun : Run (step display) (start X config port) h s t) :
    LeavesNothing h s ↔
      ∀ p ∈ h, Expires p.1 p.2 → p.1.RequesterWaits ∨ p.1.lineBuffer.buffer = [] := by
  -- the state after the tick, and the rest of the run from there
  have hsplit : ∀ {h₁ p h₂}, h = h₁ ++ p :: h₂ → Expires p.1 p.2 → ∃ s₁ t₂,
      Run (step display) s₁ h₂ s t₂ ∧ s₁.machine = .idle ∧ s₁.phase = .statusLoop ∧
        (s₁.lineBuffer.buffer = [] ↔ p.1.RequesterWaits ∨ p.1.lineBuffer.buffer = []) := by
    rintro h₁ ⟨p, tick⟩ h₂ rfl hexpires
    obtain ⟨t₁, s₁, out, t₂, -, hstep, hrun₂, -⟩ := hrun.split rfl
    cases tick with
    | timeoutTick now =>
      obtain ⟨henabled, hperform⟩ := step_eq_some_iff.mp hstep
      obtain rfl : (p.timeoutTick (X := X) now).1 = s₁ := congrArg Prod.fst hperform
      obtain ⟨hmachine, hbuffer⟩ := timeoutTick_of_expires (X := X) hexpires
      exact ⟨_, t₂, hrun₂, hmachine, henabled.1, hbuffer⟩
    | _ => exact hexpires.elim
  constructor
  · intro hleaves p hp hexpires
    obtain ⟨h₁, h₂, rfl⟩ := List.append_of_mem hp
    obtain ⟨s₁, t₂, hrun₂, -, -, hbuffer⟩ := hsplit rfl hexpires
    have hempty := (hleaves h₁ p h₂ rfl hexpires).1 [] h₂ rfl (fun _ hq => nomatch hq)
    rw [hrun₂.firstState_eq] at hempty
    exact hbuffer.mp hempty
  · intro hwaits h₁ p h₂ heq hexpires
    obtain ⟨s₁, t₂, hrun₂, hmachine, hphase, hbuffer⟩ := hsplit heq hexpires
    have hempty : s₁.lineBuffer.buffer = [] :=
      hbuffer.mpr (hwaits p (heq ▸ List.mem_append_right _ List.mem_cons_self) hexpires)
    refine ⟨fun h₃ h₄ hcut hread => ?_, fun h₃ q h₄ content hcut hline => ?_⟩
    · obtain ⟨t₃, hrun₃⟩ := (hcut ▸ hrun₂).front
      exact run_buffer_eq_nil hrun₃ hempty hread
    · obtain ⟨t₃, -, -, -, hrun₃, -⟩ := hrun₂.split hcut
      have hprovenance := run_provenance_of_empty hrun₃ (.of_empty hempty hphase hmachine)
      cases hreading : q.1.phase with
      | reading events =>
        cases events with
        | nil => rw [hreading] at hline; cases hline
        | cons event rest =>
          rw [hreading] at hline
          obtain rfl : event = .line content := Option.some.inj hline
          exact hprovenance.reading _ content hreading List.mem_cons_self
      | _ => rw [hreading] at hline; cases hline

/-- A query is answered in part when it times out, and its requester is told. -/
theorem leavesNothing_waiting :
    ∃ (h : List (RunState × Input)) (s : RunState) (t : List (Effect .rejecting)),
      Run (step fun _ => []) (start .rejecting .default .ready) h s t ∧
      s.lineBuffer.buffer = [] ∧ LeavesNothing h s := by
  obtain ⟨s, t, -, hrun, hbuffer⟩ := Run.of_execute (step (X := .rejecting) fun _ => [])
    (start .rejecting .default .ready)
    [.sendRequest .getSignalStrength none, .command 0, .workerEvent (.ok ()),
      .read (.ok (encodeUtf8 "+CSQ: 1".toList)), .endOfRead, .timeoutTick 10000]
    (fun r => r.1.lineBuffer.buffer) (b := []) (by decide +kernel)
  have hopen : ∀ p ∈ history (step (X := .rejecting) fun _ => []) (start .rejecting .default .ready)
      [.sendRequest .getSignalStrength none, .command 0, .workerEvent (.ok ()),
        .read (.ok (encodeUtf8 "+CSQ: 1".toList)), .endOfRead, .timeoutTick 10000],
      p.1.closed = [] ∧ ∀ c ∈ p.1.machine.held, c.responseTx = some 0 := by decide +kernel
  refine ⟨_, s, t, hrun, hbuffer, (leavesNothing_iff hrun).mpr fun p hp _ => .inl fun c hc => ?_⟩
  obtain ⟨hclosed, htx⟩ := hopen p hp
  exact ⟨0, htx c hc, by rw [hclosed]; exact List.not_mem_nil⟩

/-- A query is answered in part when its requester gives up and the query times out. -/
def halfAnswered : List Input :=
  [.sendRequest .getSignalStrength none, .command 0, .workerEvent (.ok ()),
    .read (.ok (encodeUtf8 "+CSQ: 1".toList)), .endOfRead, .hangUp 0, .timeoutTick 10000,
    .sendRequest .getSignalStrength none, .command 10000, .workerEvent (.ok ()),
    .read (.ok (encodeUtf8 "+CSQ: 20,0\r\n".toList))]

/-- The next query is given a line that begins with what was left of the one before. -/
theorem halfAnswered_leaves :
    ∃ (h : List (RunState × Input)) (s : RunState) (t : List (Effect .rejecting)),
      h.map Prod.snd = halfAnswered ∧
      Run (step fun _ => []) (start .rejecting .default .ready) h s t ∧
      s.phase.nextEvent? = some (.line "+CSQ: 1+CSQ: 20,0".toList) ∧ ¬ LeavesNothing h s := by
  obtain ⟨s, t, hinputs, hrun, hline⟩ := Run.of_execute (step (X := .rejecting) fun _ => [])
    (start .rejecting .default .ready) halfAnswered (fun r => r.1.phase.nextEvent?)
    (b := some (.line "+CSQ: 1+CSQ: 20,0".toList)) (by decide +kernel)
  set h := history (step (X := .rejecting) fun _ => []) (start .rejecting .default .ready)
    halfAnswered
  refine ⟨h, s, t, hinputs, hrun, hline, fun hleaves => ?_⟩
  -- the tick finds the query, and leaves the buffer as it was
  obtain ⟨p, hp, hmachine⟩ := Option.map_eq_some_iff.mp
    (show h[6]?.map (fun p => p.1.machine) = some
      (.command (.new 0 (.new 1 0 .getSignalStrength none) .waitingForData)) by decide +kernel)
  have htick : p.2 = .timeoutTick 10000 := by
    have hinput := congrArg (·[6]?) hinputs
    simpa [hp, halfAnswered] using hinput
  have hbuffer : h[7]?.map (fun p => p.1.lineBuffer.buffer) =
      some (encodeUtf8 "+CSQ: 1".toList) := by decide +kernel
  clear_value h
  have hcut : h = h.take 6 ++ p :: h.drop 7 := by
    conv_lhs => rw [← List.take_append_drop 6 h, List.drop_eq_getElem?_toList_append, hp]
    rfl
  have hexpires : Expires p.1 p.2 := by
    rw [htick]
    exact ⟨_, hmachine, by decide⟩
  have hempty := (hleaves _ p _ hcut hexpires).1 [] _ rfl fun _ hq => nomatch hq
  obtain ⟨q, hq, hq'⟩ := Option.map_eq_some_iff.mp hbuffer
  rw [firstState, List.head?_drop, hq, Option.map_some, Option.getD_some, hq'] at hempty
  exact absurd hempty (by decide)

end RunState

end SmsServer
