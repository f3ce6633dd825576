import SmsServer.Modem.Invariant

/-!
# Worker status and command state

The status of the worker and the command in its state machine are kept in step: nothing is held
offline, commands start online and from an idle machine only, and a reconnect starts from an
idle machine and an empty line buffer. A ghost of the trace, the bytes read since the last
reconnect, then shows that a response never contains anything older (`Provenance`).
-/

namespace SmsServer

open RustStd Machine

variable {X : Crates}

/-! ### Bytes read since the last reconnect -/

/-- The bytes read after an effect, given those read before. -/
def Effect.readAfter (bytes : List UInt8) : Effect X → List UInt8
  | read data => bytes ++ data
  | reconnected => []
  | _ => bytes

/-- The bytes the main reader has read since the last reconnect. -/
def readSince (t : List (Effect X)) : List UInt8 := t.foldl Effect.readAfter []

@[simp] theorem readSince_append (t out : List (Effect X)) :
    readSince (t ++ out) = out.foldl Effect.readAfter (readSince t) :=
  List.foldl_append

/-- An effect that is neither a read nor a reconnect. -/
def Effect.IsQuiet : Effect X → Prop
  | read _ => False
  | reconnected => False
  | _ => True

theorem foldl_readAfter_of_quiet {out : List (Effect X)} (h : ∀ e ∈ out, e.IsQuiet)
    (bytes : List UInt8) : out.foldl Effect.readAfter bytes = bytes := by
  induction out with
  | nil => rfl
  | cons e out ih =>
    have he : Effect.readAfter bytes e = bytes := by
      have := h e List.mem_cons_self
      cases e <;> first | rfl | exact this.elim
    rw [List.foldl_cons, he]
    exact ih fun e' he' => h e' (List.mem_cons_of_mem _ he')

theorem Effect.IsBackground.isQuiet {e : Effect X} (h : e.IsBackground) : e.IsQuiet := by
  cases e with
  | read => exact h
  | reconnected => exact h
  | _ => trivial

theorem failActiveCommand_quiet (peers : Peers) (reason : Str) (m : StateMachineState) :
    ∀ e ∈ (m.failActiveCommand (X := X) peers reason).2, e.IsQuiet := by
  intro e he
  obtain ⟨c, d, rfl⟩ := StateMachineState.mem_failActiveCommand he
  trivial

theorem transitionState_quiet (peers : Peers) (m : StateMachineState) (event : LineEvent) :
    ∀ e ∈ (m.transitionState (X := X) peers event).2.effects, e.IsQuiet := by
  intro e he
  rcases StateMachineState.mem_transitionState he with
    ⟨_, _, rfl⟩ | ⟨_, rfl⟩ | ⟨_, rfl⟩ | ⟨_, _, _, rfl⟩ <;> trivial

/-! ### Where text comes from -/

/-- The text of a line that was cut out of `bytes`. -/
def LineOf (bytes : List UInt8) (content : Str) : Prop :=
  ∃ w, w <:+: bytes ∧ content = trim (fromUtf8Lossy w)

/-- A response buffer filled with lines that were cut out of `bytes`. -/
inductive BufferOf (bytes : List UInt8) : Str → Prop
  | nil : BufferOf bytes []
  | push {buffer content : Str} (hbuffer : BufferOf bytes buffer) (hline : LineOf bytes content) :
    BufferOf bytes (buffer ++ content ++ ['\n'])

theorem LineOf.mono {bytes bytes' : List UInt8} {content : Str} (h : LineOf bytes content)
    (hsub : bytes <:+: bytes') : LineOf bytes' content := by
  obtain ⟨w, hw, rfl⟩ := h
  exact ⟨w, hw.trans hsub, rfl⟩

theorem LineOf.trim {bytes : List UInt8} {content : Str} (h : LineOf bytes content) :
    LineOf bytes (trim content) := by
  obtain ⟨w, hw, rfl⟩ := h
  exact ⟨w, hw, by rw [trim_trim]⟩

theorem BufferOf.mono {bytes bytes' : List UInt8} {buffer : Str} (h : BufferOf bytes buffer)
    (hsub : bytes <:+: bytes') : BufferOf bytes' buffer := by
  induction h with
  | nil => exact .nil
  | push _ hline ih => exact .push ih (hline.mono hsub)

theorem pending_lexByte (s : LexState) (b : UInt8) :
    (lexByte s b).1.pending <:+ s.pending ++ [b] := by
  have hstart : (lexLineStart b).1.pending <:+ [b] := by
    unfold lexLineStart
    split
    · exact List.nil_suffix
    · split
      · exact List.nil_suffix
      · exact List.suffix_refl _
  cases s with
  | lineStart => exact hstart
  | afterPrompt =>
    rw [lexByte]
    split
    · exact List.nil_suffix
    · exact hstart
  | inLine line =>
    rw [lexByte]
    split
    · exact List.nil_suffix
    · exact List.suffix_refl _

theorem lineOf_lexByte {s : LexState} {b : UInt8} {content : Str}
    (h : .line content ∈ (lexByte s b).2) : LineOf s.pending content := by
  have hstart : .line content ∉ (lexLineStart b).2 := by
    unfold lexLineStart
    split
    · simp
    · split <;> simp
  cases s with
  | lineStart => exact absurd h hstart
  | afterPrompt =>
    rw [lexByte] at h
    split at h
    · cases h
    · exact absurd h hstart
  | inLine line =>
    rw [lexByte] at h
    split at h
    · rw [LineBuffer.tryCreateEvent_eq] at h
      split at h
      · cases h
      · split at h
        · cases h
        · exact ⟨line, List.infix_refl _, by simpa using h⟩
    · cases h

/-- A line event carries the text of a line of the lexed bytes. -/
theorem lineOf_lex {s : LexState} {bs : List UInt8} {content : Str}
    (h : .line content ∈ (lex s bs).2) : LineOf (s.pending ++ bs) content := by
  induction bs generalizing s with
  | nil => cases h
  | cons b bs ih =>
    rw [lex_cons] at h
    rcases List.mem_append.mp h with h | h
    · exact (lineOf_lexByte h).mono (List.prefix_append _ _).isInfix
    · refine (ih h).mono (List.IsSuffix.isInfix ?_)
      obtain ⟨front, hfront⟩ := pending_lexByte s b
      exact ⟨front, by rw [← List.append_assoc, hfront, List.append_assoc]; rfl⟩

theorem pending_lex (s : LexState) (bs : List UInt8) :
    (lex s bs).1.pending <:+ s.pending ++ bs := by
  induction bs generalizing s with
  | nil => simp
  | cons b bs ih =>
    rw [lex_cons]
    refine (ih (lexByte s b).1).trans ?_
    obtain ⟨front, hfront⟩ := pending_lexByte s b
    exact ⟨front, by rw [← List.append_assoc, hfront, List.append_assoc]; rfl⟩

theorem buffer_retain (self : LineBuffer) (rest : List UInt8) :
    (self.retain rest).buffer <:+ rest := by
  unfold LineBuffer.retain LineBuffer.truncate
  split
  · exact List.drop_suffix _ _
  · exact List.suffix_refl _

/-! ### Provenance -/

namespace RunState

/-- All text the worker holds was read since the last reconnect. -/
structure Provenance (s : RunState) (bytes : List UInt8) : Prop where
  lineBuffer : s.lineBuffer.buffer <:+ bytes
  reading : ∀ events content, s.phase = .reading events → .line content ∈ events →
    LineOf bytes content
  response : ∀ execution, s.machine.execution = some execution →
    BufferOf bytes execution.context.responseBuffer

/-- A transition adds the text of its line at most. -/
theorem bufferOf_transitionState {peers : Peers} {m : StateMachineState} {event : LineEvent}
    {bytes : List UInt8} (hm : ∀ execution, m.execution = some execution →
      BufferOf bytes execution.context.responseBuffer)
    (hevent : ∀ content, event = .line content → LineOf bytes content) :
    ∀ execution, (m.transitionState (X := X) peers event).1.execution = some execution →
      BufferOf bytes execution.context.responseBuffer := by
  have hcases := StateMachineState.transitionState_cases (X := X) peers m event
  generalize m.transitionState (X := X) peers event = r at hcases ⊢
  generalize hclassify : m.classify event = modemEvent at hcases
  obtain ⟨m', outcome⟩ := r
  intro execution hexecution
  cases hcases with
  | payload messageKind interrupted =>
    cases interrupted with
    | none => cases hexecution
    | some current => exact hm execution hexecution
  | notice => exact hm execution hexecution
  | header => exact hm execution hexecution
  | pdu current =>
    obtain rfl : current.setState .waitingForOk = execution := by simpa using hexecution
    exact hm current rfl
  | finished => cases hexecution
  | progress current _ content hcontent =>
    obtain rfl : current.push content = execution := by simpa using hexecution
    obtain ⟨line, rfl, rfl⟩ := StateMachineState.classify_content (hclassify ▸ hcontent)
    exact .push (hm current rfl) (hevent line rfl).trim
  | ignored => cases hexecution
  | invalid => cases hexecution

/-- A success is parsed from text that the running command collected. -/
theorem response_transitionState {peers : Peers} {m : StateMachineState} {event : LineEvent}
    {bytes : List UInt8} (hm : ∀ execution, m.execution = some execution →
      BufferOf bytes execution.context.responseBuffer)
    (hevent : ∀ content, event = .line content → LineOf bytes content)
    {c : OutgoingCommand} {response : ModemResponse X} {delivered : Bool}
    (hresponse : .respond c response delivered ∈
      (m.transitionState (X := X) peers event).2.effects) (hsuccess : ¬ response.IsError) :
    ∃ text, BufferOf bytes text ∧
      ModemEventHandlers.commandResponder c.request text = .ok response := by
  have hcases := StateMachineState.transitionState_cases (X := X) peers m event
  generalize m.transitionState (X := X) peers event = r at hcases hresponse
  generalize hclassify : m.classify event = modemEvent at hcases
  obtain ⟨m', outcome⟩ := r
  cases hcases with
  | payload => exact absurd hresponse StateMachineState.respond_notMem_handleUnsolicited
  | notice => exact absurd hresponse StateMachineState.respond_notMem_handleUnsolicited
  | header => cases hresponse
  | pdu => simp at hresponse
  | finished execution _ response' hfinal =>
    obtain ⟨d, hrespond⟩ := execution.command.respond_effects peers response'
    obtain ⟨rfl, rfl, -⟩ : c = execution.command ∧ response = response' ∧ delivered = d := by
      simpa [hrespond] using hresponse
    obtain ⟨content, rfl, -, -, hok⟩ :=
      (StateMachineState.finalResponse_not_isError_iff (hclassify ▸ hfinal)).mp hsuccess
    exact ⟨_, .push (hm execution rfl) (hevent content rfl).trim, hok⟩
  | progress => cases hresponse
  | ignored => cases hresponse
  | invalid => cases hresponse

variable {s s' : RunState} {input : Input} {out : List (Effect X)} {bytes : List UInt8}

theorem Provenance.mono {bytes' : List UInt8} (h : s.Provenance bytes) (hsub : bytes <:+ bytes') :
    s.Provenance bytes' where
  lineBuffer := h.lineBuffer.trans hsub
  reading events content hphase hmem := (h.reading events content hphase hmem).mono hsub.isInfix
  response execution hexecution := (h.response execution hexecution).mono hsub.isInfix

/-- An idle worker with an empty line buffer holds no text. -/
theorem Provenance.of_empty (hbuffer : s.lineBuffer.buffer = []) (hphase : s.phase = .statusLoop)
    (hmachine : s.machine = .idle) : s.Provenance bytes := by
  refine ⟨hbuffer ▸ List.nil_suffix, fun events _ hreading => ?_, fun execution hexecution => ?_⟩
  · cases hphase.symm.trans hreading
  · rw [hmachine] at hexecution
    cases hexecution

/-- A step reads what its input brings, or starts the count of the bytes afresh, or neither. -/
theorem Move.quiet (hmove : Move s input s' out) :
    (∀ e ∈ out, e.IsQuiet) ∨
      (∃ data, input = .read (.ok data) ∧ out = [.read data] ∧
        s' = { s with
          lineBuffer := (s.lineBuffer.processData data).2
          phase := .reading (s.lineBuffer.processData data).1 }) ∨
      ∃ dialogue, out = dialogue ++ [.reconnected] ∧ s'.lineBuffer.buffer = [] ∧
        s'.phase = .statusLoop ∧ s'.machine = .idle := by
  have hbackground : ∀ {notice : List (Effect X)}, (∀ e ∈ notice, e.IsBackground) →
      ∀ e ∈ notice, e.IsQuiet := fun hnotice e he => (hnotice e he).isQuiet
  cases hmove with
  | bytesRead data => exact .inr (.inl ⟨data, rfl, rfl, rfl⟩)
  | reconnected port dialogue hphase => exact .inr (.inr ⟨dialogue, rfl, rfl, hphase, rfl⟩)
  | statusEvent _ _ _ _ _ _ _ hnotice => exact .inl (hbackground hnotice)
  | writeFailed _ _ _ _ reason attempt _ _ _ hattempt hnotice =>
    have hattempt' : ∀ e ∈ attempt, e.IsQuiet := by
      rcases hattempt with ⟨-, rfl⟩ | ⟨-, rfl⟩ <;> simp [Effect.IsQuiet]
    exact .inl (List.forall_mem_append.mpr ⟨hattempt', List.forall_mem_append.mpr
      ⟨failActiveCommand_quiet s.peers reason s.machine, hbackground hnotice⟩⟩)
  | readFailed _ reason _ _ _ _ hnotice =>
    exact .inl (List.forall_mem_append.mpr
      ⟨failActiveCommand_quiet s.peers reason s.machine, hbackground hnotice⟩)
  | transition event => exact .inl (transitionState_quiet s.peers s.machine event)
  | drained => exact .inl (failActiveCommand_quiet s.peers _ s.machine)
  | slept _ _ hnotice => exact .inl (hbackground hnotice)
  | notReconnected _ _ hdialogue => exact .inl (hbackground hdialogue)
  | _ => exact .inl (by simp [Effect.IsQuiet])

/-- A step that reads nothing takes its text from what the worker held. -/
theorem Move.provenance_of_quiet (hmove : Move s input s' out) (hquiet : ∀ e ∈ out, e.IsQuiet)
    (h : s.Provenance bytes) : s'.Provenance bytes := by
  have hfailed : ∀ (reason : Str) (execution : CommandExecution),
      (s.machine.failActiveCommand (X := X) s.peers reason).1.execution = some execution →
      BufferOf bytes execution.context.responseBuffer := fun reason execution hexecution => by
    rw [StateMachineState.execution_failActiveCommand] at hexecution
    cases hexecution
  cases hmove with
  | bytesRead data => exact (hquiet (.read data) (List.mem_singleton_self _)).elim
  | reconnected => exact (hquiet .reconnected (by simp)).elim
  | writeFailed _ _ _ _ reason => exact ⟨h.lineBuffer, h.reading, hfailed reason⟩
  | readFailed _ reason => exact ⟨h.lineBuffer, h.reading, hfailed reason⟩
  | drained => exact ⟨h.lineBuffer, nofun, hfailed _⟩
  | started now cmd =>
    refine ⟨h.lineBuffer, h.reading, fun execution hexecution => ?_⟩
    obtain rfl : CommandExecution.new now cmd (ModemEventHandlers.initialState cmd.request) =
      execution := by simpa using hexecution
    exact .nil
  | transition event rest hphase =>
    refine ⟨h.lineBuffer, ?_, ?_⟩
    · rintro events content ⟨⟩ hmem
      exact h.reading _ content hphase (List.mem_cons_of_mem _ hmem)
    · refine bufferOf_transitionState h.response fun content hcontent => ?_
      exact h.reading _ content hphase (hcontent ▸ List.mem_cons_self)
  | timedOut _ _ _ lineBuffer _ _ _ _ hlineBuffer =>
    refine ⟨?_, h.reading, nofun⟩
    rcases hlineBuffer with rfl | rfl
    · exact h.lineBuffer
    · exact List.nil_suffix
  | endOfRead => exact ⟨h.lineBuffer, nofun, h.response⟩
  | shutdown => exact ⟨h.lineBuffer, nofun, h.response⟩
  | rejected => exact ⟨h.lineBuffer, nofun, h.response⟩
  | slept => exact ⟨List.nil_suffix, nofun, nofun⟩
  | _ => exact ⟨h.lineBuffer, h.reading, h.response⟩

/-- Provenance survives a step. -/
theorem Move.provenance (hmove : Move s input s' out) (h : s.Provenance bytes) :
    s'.Provenance (out.foldl Effect.readAfter bytes) := by
  rcases hmove.quiet with
    hquiet | ⟨data, -, rfl, rfl⟩ | ⟨dialogue, rfl, hbuffer, hphase, hmachine⟩
  · rw [foldl_readAfter_of_quiet hquiet]
    exact hmove.provenance_of_quiet hquiet h
  · -- the buffer and the events of the read are cut from what was there and the new bytes
    have hsub : s.lineBuffer.buffer ++ data <:+ bytes ++ data := by
      obtain ⟨front, hfront⟩ := h.lineBuffer
      exact ⟨front, by rw [← List.append_assoc, hfront]⟩
    rw [List.foldl_cons, List.foldl_nil, Effect.readAfter]
    refine ⟨?_, ?_, fun execution hexecution =>
      (h.response execution hexecution).mono (List.prefix_append _ _).isInfix⟩
    · rw [processData_eq]
      exact (buffer_retain _ _).trans ((pending_lex .lineStart _).trans hsub)
    · rintro events content ⟨⟩ hmem
      rw [processData_eq] at hmem
      exact (lineOf_lex hmem).mono hsub.isInfix
  · -- the reconnect starts the count afresh, and nothing older is left
    exact .of_empty hbuffer hphase hmachine

theorem run_provenance {display : TransitionError X → Str} {config : ModemConfig} {port : Port}
    {h : List (RunState × Input)} {t : List (Effect X)}
    (hrun : Run (step display) (start X config port) h s t) : s.Provenance (readSince t) := by
  refine hrun.induct (P := fun _ s t => s.Provenance (readSince t)) ?_ ?_
  · exact .of_empty rfl rfl (start_worker config port).2.1
  · intro h s t input s' out _ hprovenance hstep
    rw [readSince_append]
    exact (step_move hstep).provenance hprovenance

/-! ### One step of the loop -/

/-- The worker comes online by a reconnect only, with an idle machine and nothing buffered. -/
theorem Move.of_online (hmove : Move s input s' out) (hwf : s.WellFormed)
    (hoff : s.status ≠ .online) (hon : s'.status = .online) :
    (∃ port, input = .reconnectTick port) ∧ s'.machine = .idle ∧ s'.lineBuffer.buffer = [] ∧
      s'.phase = .statusLoop := by
  cases hmove with
  | statusEvent _ status owner _ _ hevents =>
    have hshape := hwf.events (.setStatus status, owner) (by simp [hevents])
    obtain rfl : status = .shuttingDown := by simpa using hshape
    cases hon
  | reconnected port _ hphase => exact ⟨⟨port, rfl⟩, rfl, rfl, hphase⟩
  | writeFailed => cases hon
  | readFailed => cases hon
  | slept => cases hon
  | _ => exact absurd hon hoff

/-- A response other than an error is parsed from text read since the last reconnect. -/
theorem Move.of_success (hmove : Move s input s' out) (h : s.Provenance bytes)
    {c : OutgoingCommand} {response : ModemResponse X} {delivered : Bool}
    (hresponse : .respond c response delivered ∈ out) (hsuccess : ¬ response.IsError) :
    ∃ text, BufferOf bytes text ∧
      ModemEventHandlers.commandResponder c.request text = .ok response := by
  have hfailed : ∀ reason : Str, .respond c response delivered ∉
      (s.machine.failActiveCommand (X := X) s.peers reason).2 := fun reason hmem => by
    obtain ⟨c', d, heq⟩ := StateMachineState.mem_failActiveCommand hmem
    obtain ⟨-, rfl, -⟩ := Effect.respond.inj heq
    exact hsuccess trivial
  have hbackground : ∀ {notice : List (Effect X)}, (∀ e ∈ notice, e.IsBackground) →
      .respond c response delivered ∉ notice := fun hnotice hmem => hnotice _ hmem
  cases hmove with
  | transition event rest hphase =>
    refine response_transitionState h.response (fun content hcontent => ?_) hresponse hsuccess
    exact h.reading _ content hphase (hcontent ▸ List.mem_cons_self)
  | requested => cases hresponse
  | hungUp => cases hresponse
  | statusEvent _ _ _ _ _ _ _ hnotice => exact absurd hresponse (hbackground hnotice)
  | written => simp at hresponse
  | writeFailed _ _ _ _ reason attempt _ _ _ hattempt hnotice =>
    rcases List.mem_append.mp hresponse with hmem | hmem
    · rcases hattempt with ⟨-, rfl⟩ | ⟨-, rfl⟩ <;> simp at hmem
    · rcases List.mem_append.mp hmem with hmem | hmem
      · exact absurd hmem (hfailed reason)
      · exact absurd hmem (hbackground hnotice)
  | started => simp at hresponse
  | bytesRead => simp at hresponse
  | readFailed _ reason _ _ _ _ hnotice =>
    rcases List.mem_append.mp hresponse with hmem | hmem
    · exact absurd hmem (hfailed reason)
    · exact absurd hmem (hbackground hnotice)
  | endOfRead => cases hresponse
  | noTimeout => cases hresponse
  | timedOut =>
    obtain ⟨-, rfl, -⟩ := Effect.respond.inj (List.mem_singleton.mp hresponse)
    exact absurd trivial hsuccess
  | shutdown => cases hresponse
  | drained => exact absurd hresponse (hfailed _)
  | rejectedCommand =>
    rcases List.mem_cons.mp hresponse with hmem | hmem
    · cases hmem
    · obtain ⟨-, rfl, -⟩ := Effect.respond.inj (List.mem_singleton.mp hmem)
      exact absurd trivial hsuccess
  | rejected => cases hresponse
  | slept _ _ hnotice => exact absurd hresponse (hbackground hnotice)
  | notReconnected _ _ hdialogue => exact absurd hresponse (hbackground hdialogue)
  | reconnected _ _ _ _ hdialogue =>
    rcases List.mem_append.mp hresponse with hmem | hmem
    · exact absurd hmem (hbackground hdialogue)
    · simp at hmem

/-- **Status and command state.** In every reachable state nothing is held offline; and in every
step from there, a command is started online from an idle machine only, the worker comes online
by a reconnect only, which leaves an idle machine and an empty line buffer at the top of the
loop, and every response but an error is parsed from lines read since the last reconnect. -/
theorem status_consistent {display : TransitionError X → Str} {config : ModemConfig} {port : Port}
    {h : List (RunState × Input)} {s : RunState} {t : List (Effect X)}
    (hrun : Run (step display) (start X config port) h s t) :
    (s.status = .offline → s.machine.held = []) ∧
      ∀ input s' out, s.step display input = some (s', out) →
        (∀ cmd, .started cmd ∈ out → s.status = .online ∧ s.machine = .idle) ∧
        (s.status ≠ .online → s'.status = .online →
          (∃ port, input = .reconnectTick port) ∧ s'.machine = .idle ∧
            s'.lineBuffer.buffer = [] ∧ s'.phase = .statusLoop) ∧
        (∀ c response delivered, .respond c response delivered ∈ out → ¬ response.IsError →
          ∃ text, BufferOf (readSince t) text ∧
            ModemEventHandlers.commandResponder c.request text = .ok response) :=
  ⟨(run_wellFormed hrun).offline, fun _ _ _ hstep =>
    ⟨fun _ hcmd =>
        have hstarted := (step_move hstep).of_started hcmd
        ⟨hstarted.2.1, hstarted.2.2.1⟩,
      fun hoff hon => (step_move hstep).of_online (run_wellFormed hrun) hoff hon,
      fun _ _ _ hresponse hsuccess =>
        (step_move hstep).of_success (run_provenance hrun) hresponse hsuccess⟩⟩

/-- A partial line, a read error and a reconnect. -/
theorem status_consistent_reconnect :
    ∃ (h : List (RunState × Input)) (s : RunState) (t : List (Effect .rejecting)),
      Run (step fun _ => []) (start .rejecting .default .ready) h s t ∧
      (s.status, s.lineBuffer.buffer) = (.online, []) ∧
      (s.status = .offline → s.machine.held = []) := by
  obtain ⟨s, t, -, hrun, hfacts⟩ := Run.of_execute (step (X := .rejecting) fun _ => [])
    (start .rejecting .default .ready)
    [.sendRequest .getSignalStrength none, .command 0, .workerEvent (.ok ()),
      .read (.ok (encodeUtf8 "+CSQ: 20".toList)), .endOfRead,
      .read (.error "broken pipe".toList), .reconnectTick .ready]
    (fun r => (r.1.status, r.1.lineBuffer.buffer)) (b := (.online, [])) (by decide +kernel)
  exact ⟨_, s, t, hrun, hfacts, (status_consistent hrun).1⟩

end RunState

end SmsServer
