import Mathlib.Data.List.Nodup
import SmsServer.Modem.Invariant

/-!
# Every command is answered once

A command taken from the queue is answered exactly once, unless it is parked behind an
unsolicited header and something other than the awaited line arrives: the failed transition
then drops it with its response channel, and the worker's error branch, which means to fail it,
finds an idle machine.

The accounting is exact. `count_taken` balances the commands taken against those answered, held
and dropped over any run, and requesters get pairwise different response channels, so the
balance decides the fate of each command.
-/

namespace SmsServer

open RustStd Machine Effect

variable {X : Crates}

namespace StateMachineState

/-- The command an event makes the machine drop without an answer. -/
def dropped (self : StateMachineState) (lineEvent : LineEvent) : List OutgoingCommand :=
  if self.awaitsPayload && !isPayload lineEvent then self.held else []

/-- A transition answers, keeps or drops what was held. -/
theorem transitionState_accounts (peers : Peers) (self : StateMachineState)
    (lineEvent : LineEvent) :
    self.held = answeredOf (transitionState (X := X) peers self lineEvent).2.effects ++
      (transitionState (X := X) peers self lineEvent).1.held ++ self.dropped lineEvent := by
  have hcases := transitionState_cases (X := X) peers self lineEvent
  generalize transitionState (X := X) peers self lineEvent = r at hcases ⊢
  generalize hevent : self.classify lineEvent = event at hcases
  obtain ⟨s', outcome⟩ := r
  have hawait : self.awaitsPayload = false → self.dropped lineEvent = [] := fun h => by
    simp [dropped, h]
  cases hcases with
  | payload messageKind interrupted content =>
    have hpayload := ((classify_eq_data_iff rfl).mp hevent).1
    cases interrupted <;> simp [dropped, hpayload, held]
  | notice _ _ _ hs => simp [hawait hs]
  | header _ _ _ hs => simp [hawait hs, held, answeredOf]
  | pdu => simp [hawait rfl, answeredOf]
  | finished execution _ response =>
    obtain ⟨delivered, h⟩ := execution.command.respond_effects (X := X) peers response
    simp only [h, hawait rfl]
    rfl
  | progress => simp [hawait rfl, answeredOf]
  | ignored => simp [hawait rfl, answeredOf]
  | invalid messageKind interrupted _ hdata =>
    have hpayload : isPayload lineEvent = false :=
      isPayload_eq_false (show (unsolicitedMessage messageKind interrupted).awaitsPayload from rfl)
        (hevent ▸ hdata)
    simp [dropped, hpayload, awaitsPayload, answeredOf]

@[simp] theorem takenOf_transitionState (peers : Peers) (self : StateMachineState)
    (lineEvent : LineEvent) :
    takenOf (transitionState (X := X) peers self lineEvent).2.effects = [] := by
  have hcases := transitionState_cases (X := X) peers self lineEvent
  generalize transitionState (X := X) peers self lineEvent = r at hcases ⊢
  generalize hevent : self.classify lineEvent = event at hcases
  obtain ⟨s', outcome⟩ := r
  cases hcases with
  | payload => simp
  | notice => simp
  | header => rfl
  | pdu => rfl
  | finished execution _ response =>
    obtain ⟨delivered, h⟩ := execution.command.respond_effects (X := X) peers response
    simp only [h]
    rfl
  | progress => rfl
  | ignored => rfl
  | invalid => rfl

end StateMachineState

namespace RunState

/-- The command a step drops without an answer. -/
def dropped (self : RunState) : Input → List OutgoingCommand
  | .lineEvent => (self.phase.nextEvent?.map self.machine.dropped).getD []
  | _ => []

/-- The commands the steps of a history drop. -/
def droppedIn (h : List (RunState × Input)) : List OutgoingCommand :=
  h.flatMap fun p => p.1.dropped p.2

/-- What a step takes in and held before it answers, holds or drops. -/
theorem Move.accounts {s s' : RunState} {input : Input} {out : List (Effect X)}
    (hmove : Move s input s' out) (hwf : s.WellFormed) :
    (takenOf out ++ s.machine.held).Perm
      (answeredOf out ++ s'.machine.held ++ s.dropped input) := by
  have hbackground : ∀ {notice : List (Effect X)}, (∀ e ∈ notice, e.IsBackground) →
      takenOf notice = [] ∧ answeredOf notice = [] :=
    fun hnotice => ⟨takenOf_background hnotice, answeredOf_background hnotice⟩
  cases hmove with
  | requested => simp [dropped, sendRequest, takenOf, answeredOf]
  | hungUp => simp [dropped, takenOf, answeredOf]
  | statusEvent _ _ _ _ _ _ _ hnotice => simp [dropped, hbackground hnotice]
  | written => simp [dropped, takenOf, answeredOf]
  | writeFailed _ data owner _ _ attempt _ _ _ hattempt hnotice =>
    have hquiet : takenOf attempt = [] ∧ answeredOf attempt = [] := by
      rcases hattempt with ⟨-, rfl⟩ | ⟨-, rfl⟩ <;> exact ⟨rfl, rfl⟩
    simp [dropped, hbackground hnotice, hquiet]
  | started _ cmd _ _ _ _ _ hidle =>
    have hheld : s.machine.held = [] := by rw [hidle, StateMachineState.held_idle]
    simp only [hheld]
    exact .refl _
  | bytesRead => simp [dropped, takenOf, answeredOf]
  | readFailed _ _ _ _ _ _ hnotice => simp [dropped, hbackground hnotice]
  | transition event rest hphase =>
    have haccounts := s.machine.transitionState_accounts (X := X) s.peers event
    simp only [StateMachineState.takenOf_transitionState, List.nil_append, dropped, hphase,
      Phase.nextEvent?, Option.map_some, Option.getD_some]
    exact .of_eq haccounts
  | endOfRead => simp [dropped, takenOf, answeredOf]
  | noTimeout => simp [dropped, takenOf, answeredOf]
  | timedOut _ execution _ _ _ _ _ hmachine =>
    have hheld : s.machine.held = [execution.command] := by
      rw [hmachine, StateMachineState.held_command]
    simp only [hheld]
    exact .refl _
  | shutdown => simp [dropped, takenOf, answeredOf]
  | drained => simp [dropped]
  | rejectedCommand => simp [dropped, takenOf, answeredOf]
  | rejected => simp [dropped, takenOf, answeredOf]
  | slept _ hphase hnotice =>
    -- the machine is reset, but it holds nothing by now
    have hheld : s.machine.held = [] := (hwf.stopped (.inr hphase)).2
    simp only [hheld, hbackground hnotice]
    exact .refl _
  | notReconnected _ _ hdialogue => simp [dropped, hbackground hdialogue]
  | reconnected _ _ _ hstatus hdialogue =>
    -- nor when the worker comes back online
    have hheld : s.machine.held = [] := hwf.offline hstatus
    simp only [hheld, takenOf_append, answeredOf_append, hbackground hdialogue]
    exact .refl _

/-! ### Runs -/

/-- **Balance.** What a run took in, it answered, holds or dropped. -/
theorem run_accounts {display : TransitionError X → Str} {config : ModemConfig} {port : Port}
    {h : List (RunState × Input)} {s : RunState} {t : List (Effect X)}
    (hrun : Run (step display) (start X config port) h s t) :
    (takenOf t).Perm (answeredOf t ++ s.machine.held ++ droppedIn h) := by
  refine hrun.induct (P := fun h s t =>
    (takenOf t).Perm (answeredOf t ++ s.machine.held ++ droppedIn h)) ?_ ?_
  · rw [(start_worker config port).2.1]
    exact .refl _
  · intro h s t input s' out hrun ih hstep
    have hmove := (step_move hstep).accounts (run_wellFormed hrun)
    have hdropped : droppedIn (h ++ [(s, input)]) = droppedIn h ++ s.dropped input := by
      simp [droppedIn]
    -- balances add up, command by command
    rw [List.perm_iff_count] at ih hmove ⊢
    intro c
    have hc := ih c
    have hmovec := hmove c
    rw [hdropped]
    simp only [takenOf_append, answeredOf_append, List.count_append] at hc hmovec ⊢
    omega

/-- The response channel of a command that has not been answered. -/
def reply (cmd : OutgoingCommand) : ReplyId := cmd.responseTx.getD 0

/-- The queue is first in, first out, and a new command gets a new response channel. -/
theorem Move.queue {s s' : RunState} {input : Input} {out : List (Effect X)}
    (hmove : Move s input s' out) :
    (takenOf out ++ s'.commandRx = s.commandRx ∧ s.nextReply ≤ s'.nextReply) ∨
      ∃ cmd, takenOf out = [] ∧ s'.commandRx = s.commandRx ++ [cmd] ∧ reply cmd = s.nextReply ∧
        s'.nextReply = s.nextReply + 1 := by
  have hsame : ∀ {out : List (Effect X)}, takenOf out = [] → ∀ {s' : RunState},
      s'.commandRx = s.commandRx → s'.nextReply = s.nextReply →
      takenOf out ++ s'.commandRx = s.commandRx ∧ s.nextReply ≤ s'.nextReply := by
    intro out hout s' hqueue hreply
    rw [hout, hqueue, hreply]
    exact ⟨rfl, le_refl _⟩
  cases hmove with
  | requested request timeout =>
    by_cases hfull : s.commandRx.length < s.worker.config.cmdChannelBufferSize
    · exact .inr ⟨.new s.commandSequence s.nextReply request timeout, rfl,
        by simp [sendRequest, hfull], rfl, rfl⟩
    · exact .inl (by simp [sendRequest, hfull, takenOf])
  | hungUp => exact .inl (hsame rfl rfl rfl)
  | statusEvent _ _ _ _ _ _ _ hnotice => exact .inl (hsame (takenOf_background hnotice) rfl rfl)
  | written => exact .inl (hsame rfl rfl rfl)
  | writeFailed _ data owner _ _ attempt _ _ _ hattempt hnotice =>
    have hquiet : takenOf attempt = [] := by rcases hattempt with ⟨-, rfl⟩ | ⟨-, rfl⟩ <;> rfl
    exact .inl (hsame (by simp [hquiet, takenOf_background hnotice]) rfl rfl)
  | started _ cmd commandRx hcommandRx => exact .inl ⟨hcommandRx.symm, le_refl _⟩
  | bytesRead => exact .inl (hsame rfl rfl rfl)
  | readFailed _ _ _ _ _ _ hnotice =>
    exact .inl (hsame (by simp [takenOf_background hnotice]) rfl rfl)
  | transition event rest hphase => exact .inl (hsame (by simp) rfl rfl)
  | endOfRead => exact .inl (hsame rfl rfl rfl)
  | noTimeout => exact .inl (hsame rfl rfl rfl)
  | timedOut => exact .inl (hsame rfl rfl rfl)
  | shutdown => exact .inl (hsame rfl rfl rfl)
  | drained => exact .inl (hsame (by simp) rfl rfl)
  | rejectedCommand cmd commandRx _ _ hcommandRx => exact .inl ⟨hcommandRx.symm, le_refl _⟩
  | rejected => exact .inl (hsame rfl rfl rfl)
  | slept _ _ hnotice => exact .inl (hsame (takenOf_background hnotice) rfl rfl)
  | notReconnected _ _ hdialogue => exact .inl (hsame (takenOf_background hdialogue) rfl rfl)
  | reconnected _ _ _ _ hdialogue =>
    exact .inl (hsame (by simp [takenOf_background hdialogue]; rfl) rfl rfl)

/-- The commands taken or waiting have increasing response channels. -/
theorem run_increasing {display : TransitionError X → Str} {config : ModemConfig} {port : Port}
    {h : List (RunState × Input)} {s : RunState} {t : List (Effect X)}
    (hrun : Run (step display) (start X config port) h s t) :
    (takenOf t ++ s.commandRx).Pairwise (fun c d => reply c < reply d) ∧
      ∀ c ∈ takenOf t ++ s.commandRx, reply c < s.nextReply := by
  refine hrun.induct (P := fun _ s t =>
    (takenOf t ++ s.commandRx).Pairwise (fun c d => reply c < reply d) ∧
      ∀ c ∈ takenOf t ++ s.commandRx, reply c < s.nextReply) (by simp [takenOf, start]) ?_
  rintro h s t input s' out - ⟨hpairwise, hbound⟩ hstep
  rw [takenOf_append, List.append_assoc]
  rcases (step_move hstep).queue with ⟨hqueue, hreply⟩ | ⟨cmd, htaken, hqueue, hcmd, hreply⟩
  · rw [hqueue]
    exact ⟨hpairwise, fun c hc => lt_of_lt_of_le (hbound c hc) hreply⟩
  -- a new command has a larger channel than all before it
  · rw [htaken, hqueue, List.nil_append, ← List.append_assoc]
    refine ⟨List.pairwise_append.mpr ⟨hpairwise, by simp, fun c hc d hd => ?_⟩, fun c hc => ?_⟩
    · rw [List.mem_singleton.mp hd, hcmd]
      exact hbound c hc
    · rcases List.mem_append.mp hc with hc | hc
      · rw [hreply]
        exact Nat.lt_succ_of_lt (hbound c hc)
      · rw [List.mem_singleton.mp hc, hcmd, hreply]
        exact Nat.lt_succ_self _

/-- No command is taken twice. -/
theorem run_taken_nodup {display : TransitionError X → Str} {config : ModemConfig} {port : Port}
    {h : List (RunState × Input)} {s : RunState} {t : List (Effect X)}
    (hrun : Run (step display) (start X config port) h s t) : (takenOf t).Nodup := by
  have hpairwise := (List.pairwise_append.mp (run_increasing hrun).1).1
  refine hpairwise.imp fun {c d} hlt heq => ?_
  rw [heq] at hlt
  exact lt_irrefl _ hlt

/-! ### When commands are answered -/

/-- Every command taken so far was answered once, or is held and was not answered. -/
def Accounted (s : RunState) (t : List (Effect X)) : Prop :=
  ∀ c ∈ takenOf t, (answeredOf t).count c + s.machine.held.count c = 1

/-- If the transition a line event makes fails while a command is held, the worker answers that
command with an error. -/
def ErrorAnswered (display : TransitionError X → Str) (s : RunState) (event : LineEvent) : Prop :=
  ∀ e, (s.machine.transitionState (X := X) s.peers event).2.result = .error e →
    ∀ c ∈ s.machine.held, ∃ message delivered,
      .respond c (.error message) delivered ∈ (s.worker.processLineEvent display s.peers event).2

/-- `ErrorAnswered` at all steps of a history. -/
def ErrorsAnswered (display : TransitionError X → Str) (h : List (RunState × Input)) : Prop :=
  ∀ p ∈ h, p.2 = .lineEvent → ∀ event, p.1.phase.nextEvent? = some event →
    ErrorAnswered display p.1 event

/-- A command is parked behind an unsolicited header, and the event is a prompt or another
header. -/
def Drops (s : RunState) (event : LineEvent) : Prop :=
  (∃ messageKind execution, s.machine = .unsolicitedMessage messageKind (some execution)) ∧
    StateMachineState.isPayload event = false

/-- The requester of a command has dropped its half of the response channel. -/
def Gone (s : RunState) (c : OutgoingCommand) : Prop :=
  ∀ tx, c.responseTx = some tx → tx ∈ s.closed

/-- The event completes the running command with a response that parses, but the requester is
gone. -/
def Wastes (X : Crates) (s : RunState) (event : LineEvent) : Prop :=
  ∃ execution content response, s.machine = .command execution ∧ s.Gone execution.command ∧
    event = .line content ∧ StateMachineState.isPayload event ∧
    execution.context.state.isComplete (trim content) ∧
    ModemEventHandlers.commandResponder (X := X) execution.command.request
      (execution.push (trim content)).context.responseBuffer = .ok response

/-- `Drops` at a step. -/
def DropsAt (s : RunState) (input : Input) : Prop :=
  input = .lineEvent ∧ ∃ event, s.phase.nextEvent? = some event ∧ s.Drops event

/-- `Wastes` at a step. -/
def WastesAt (X : Crates) (s : RunState) (input : Input) : Prop :=
  input = .lineEvent ∧ ∃ event, s.phase.nextEvent? = some event ∧ s.Wastes X event

theorem dropped_ne_nil_iff {s : RunState} {event : LineEvent} :
    s.machine.dropped event ≠ [] ↔ s.Drops event := by
  unfold StateMachineState.dropped Drops
  cases hmachine : s.machine with
  | idle => simp [StateMachineState.awaitsPayload]
  | command execution => simp [StateMachineState.awaitsPayload]
  | unsolicitedMessage messageKind interrupted =>
    cases interrupted <;>
    cases hpayload : StateMachineState.isPayload event <;>
    simp [StateMachineState.awaitsPayload, StateMachineState.held]

theorem droppedAt_ne_nil_iff {s : RunState} {input : Input} :
    s.dropped input ≠ [] ↔ s.DropsAt input := by
  cases input with
  | lineEvent =>
    cases hnext : s.phase.nextEvent? with
    | none => simp [dropped, DropsAt, hnext]
    | some event =>
      simp only [dropped, DropsAt, hnext, Option.map_some, Option.getD_some, true_and,
        Option.some_inj, exists_eq_left']
      exact dropped_ne_nil_iff
  | _ => simp [dropped, DropsAt]

theorem respond_error_iff {s : RunState} {c : OutgoingCommand} (response : ModemResponse X) :
    (∃ e, (c.respond s.peers response).result = .error e) ↔ s.Gone c := by
  unfold OutgoingCommand.respond Gone
  cases c.responseTx with
  | none => simp
  | some tx => by_cases htx : tx ∈ s.closed <;> simp [peers, htx]

/-- A failed transition is answered with an error unless it dropped the command or wasted its
response. -/
theorem errorAnswered_iff (display : TransitionError X → Str) (s : RunState) (event : LineEvent) :
    ErrorAnswered display s event ↔ ¬ s.Drops event ∧ ¬ s.Wastes X event := by
  unfold ErrorAnswered
  rw [ModemWorker.processLineEvent_eq]
  constructor
  · refine fun h => ⟨?_, ?_⟩
    · rintro ⟨⟨messageKind, execution, hmachine⟩, hpayload⟩
      have htransition := StateMachineState.transitionState_invalid (X := X) s.peers hpayload
        messageKind (some execution)
      rw [← hmachine] at htransition
      obtain ⟨message, delivered, hmem⟩ := h _ (by rw [htransition]) execution.command
        (by rw [hmachine]; exact List.mem_singleton_self _)
      rw [htransition] at hmem
      exact List.not_mem_nil hmem
    · rintro ⟨execution, content, response, hmachine, hgone, rfl, hpayload, hcomplete, hok⟩
      have hfinal := StateMachineState.finalResponse?_content (X := X) s.peers hpayload execution
      rw [hcomplete, if_pos rfl, hok] at hfinal
      have htransition := StateMachineState.transitionState_finished s.peers hfinal
      rw [← hmachine] at htransition
      obtain ⟨e, he⟩ := (respond_error_iff response).mpr hgone
      obtain ⟨d, hrespond⟩ := execution.command.respond_effects s.peers response
      obtain ⟨message, delivered, hmem⟩ := h (.respond e) (by rw [htransition, he]; rfl)
        execution.command (by rw [hmachine]; exact List.mem_singleton_self _)
      rw [htransition, hrespond, List.mem_singleton] at hmem
      obtain ⟨-, rfl, -⟩ := Effect.respond.inj hmem
      exact StateMachineState.commandResponder_not_isError hok trivial
  · rintro ⟨hdrops, hwastes⟩ e he c hc
    have hcases := StateMachineState.transitionState_cases (X := X) s.peers s.machine event
    generalize s.machine.transitionState (X := X) s.peers event = r at hcases he ⊢
    generalize hevent : s.machine.classify event = modemEvent at hcases
    generalize hmachine : s.machine = m at hcases hevent hc
    obtain ⟨m', outcome⟩ := r
    cases hcases with
    | payload => cases he
    | notice => cases he
    | header => cases he
    | pdu => cases he
    | finished execution _ response hresponse =>
      obtain rfl : c = execution.command := List.mem_singleton.mp hc
      obtain ⟨d, hrespond⟩ := execution.command.respond_effects s.peers response
      have hgone : s.Gone execution.command := by
        refine (respond_error_iff response).mp ?_
        cases hresult : (execution.command.respond s.peers response).result with
        | error e => exact ⟨e, rfl⟩
        | ok => simp [hresult, Except.mapError] at he
      have herror : response.IsError := by
        by_contra hnot
        rw [← hevent] at hresponse
        obtain ⟨content, hline, hpayload, hcomplete, hok⟩ :=
          (StateMachineState.finalResponse_not_isError_iff hresponse).mp hnot
        exact hwastes
          ⟨execution, content, response, hmachine, hgone, hline, hpayload, hcomplete, hok⟩
      cases response with
      | error message => exact ⟨message, d, by simp [hrespond]⟩
      | _ => exact herror.elim
    | progress => cases he
    | ignored => cases he
    | invalid messageKind interrupted _ hdata =>
      obtain ⟨execution, rfl, -⟩ := StateMachineState.mem_held_iff.mp hc
      exact absurd ⟨⟨messageKind, execution, hmachine⟩,
        StateMachineState.isPayload_eq_false rfl (hevent ▸ hdata)⟩ hdrops

/-- **Commands are answered once.** After any run, every command taken was answered exactly
once or is still held, if and only if no step of the run processed a prompt or a header while a
command was parked. Every transition that failed while a command was held was answered with an
error if and only if, in addition, no command was completed after its requester had gone. -/
theorem answered_once_iff {display : TransitionError X → Str} {config : ModemConfig} {port : Port}
    {h : List (RunState × Input)} {s : RunState} {t : List (Effect X)}
    (hrun : Run (step display) (start X config port) h s t) :
    (Accounted s t ↔ ∀ p ∈ h, ¬ p.1.DropsAt p.2) ∧
      (ErrorsAnswered display h ↔ ∀ p ∈ h, ¬ p.1.DropsAt p.2 ∧ ¬ p.1.WastesAt X p.2) := by
  have hbalance := List.perm_iff_count.mp (run_accounts hrun)
  have hnodup := run_taken_nodup hrun
  simp only [List.count_append] at hbalance
  refine ⟨⟨fun haccounted p hp hdrops => ?_, fun hkeeps c hc => ?_⟩, ?_⟩
  · -- a dropped command was taken, but it is neither answered nor held
    obtain ⟨c, hc⟩ := List.exists_mem_of_ne_nil _ (droppedAt_ne_nil_iff.mpr hdrops)
    have hdropped : 0 < (droppedIn h).count c :=
      List.count_pos_iff.mpr (List.mem_flatMap.mpr ⟨p, hp, hc⟩)
    have htaken : c ∈ takenOf t := by
      rw [← List.count_pos_iff, hbalance c]
      omega
    have hone := haccounted c htaken
    have hcount := List.count_eq_one_of_mem hnodup htaken
    have hc := hbalance c
    omega
  · have hnone : droppedIn h = [] :=
      List.flatMap_eq_nil_iff.mpr fun p hp => by
        by_contra hne
        exact hkeeps p hp (droppedAt_ne_nil_iff.mp hne)
    have hcount := List.count_eq_one_of_mem hnodup hc
    have hc := hbalance c
    rw [hnone, List.count_nil] at hc
    omega
  · unfold ErrorsAnswered DropsAt WastesAt
    simp only [errorAnswered_iff]
    constructor
    · refine fun hall p hp => ⟨?_, ?_⟩
      · rintro ⟨hinput, event, hnext, hdrops⟩
        exact (hall p hp hinput event hnext).1 hdrops
      · rintro ⟨hinput, event, hnext, hwastes⟩
        exact (hall p hp hinput event hnext).2 hwastes
    · intro hall p hp hinput event hnext
      exact ⟨fun hdrops => (hall p hp).1 ⟨hinput, event, hnext, hdrops⟩,
        fun hwastes => (hall p hp).2 ⟨hinput, event, hnext, hwastes⟩⟩

/-- A query that is parked behind an SMS header and answered after the message. -/
theorem answered_once_parked :
    ∃ (h : List (RunState × Input)) (s : RunState) (t : List (Effect .rejecting)),
      Run (step fun _ => []) (start .rejecting .default .ready) h s t ∧
      (takenOf t).length = 1 ∧ (Accounted s t ↔ ∀ p ∈ h, ¬ p.1.DropsAt p.2) := by
  obtain ⟨s, t, -, hrun, htaken⟩ := Run.of_execute (step (X := .rejecting) fun _ => [])
    (start .rejecting .default .ready)
    [.sendRequest .getSignalStrength none, .command 0, .workerEvent (.ok ()),
      .read (.ok (encodeUtf8 "+CMT: ,23\r\nPDU\r\n+CSQ: 20,99\r\n\r\nOK\r\n".toList)),
      .lineEvent, .lineEvent, .lineEvent, .lineEvent, .endOfRead]
    (fun r => (takenOf r.2).length) (b := 1) (by decide +kernel)
  exact ⟨_, s, t, hrun, htaken, (answered_once_iff hrun).1⟩

/-- A second header while a query is parked: the query is dropped without an answer. -/
theorem secondHeader_drops_command :
    ∃ (h : List (RunState × Input)) (s : RunState) (t : List (Effect .rejecting)),
      h.map Prod.snd = [.sendRequest .getSignalStrength none, .command 0, .workerEvent (.ok ()),
        .read (.ok (encodeUtf8 "+CMT: ,23\r\n+CDS: 25\r\n".toList)), .lineEvent, .lineEvent,
        .endOfRead] ∧
      Run (step fun _ => []) (start .rejecting .default .ready) h s t ∧
      (takenOf t).length = 1 ∧ answeredOf t = [] ∧ s.machine = .idle ∧ ¬ Accounted s t := by
  obtain ⟨s, t, hinputs, hrun, hfacts⟩ := Run.of_execute
    (step (X := .rejecting) fun _ => []) (start .rejecting .default .ready)
    [.sendRequest .getSignalStrength none, .command 0, .workerEvent (.ok ()),
      .read (.ok (encodeUtf8 "+CMT: ,23\r\n+CDS: 25\r\n".toList)), .lineEvent, .lineEvent,
      .endOfRead]
    (fun r => ((takenOf r.2).length, answeredOf r.2, r.1.machine)) (b := (1, [], .idle))
    (by decide +kernel)
  obtain ⟨htaken, hanswered, hmachine⟩ : (takenOf t).length = 1 ∧ answeredOf t = [] ∧
      s.machine = .idle := by simpa using hfacts
  refine ⟨_, s, t, hinputs, hrun, htaken, hanswered, hmachine, fun haccounted => ?_⟩
  obtain ⟨c, hc⟩ := List.length_eq_one_iff.mp htaken
  have hone := haccounted c (by simp [hc])
  rw [hanswered, hmachine] at hone
  simp at hone

end RunState

end SmsServer
