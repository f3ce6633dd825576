import SmsServer.Modem.FinalResults
import SmsServer.Modem.Lexer

/-!
# The reference of an SMS

The response buffer of an SMS starts with the command, before the prompt, and the parser takes
the first `+CMGS:` line of it; completion is judged by the last line, success by the end of the
buffer. `sendResult_referenced` shows that the reference handed to the requester was received
after the PDU was queued, and confirmed by an `OK` line, on every run that meets neither of the
two lines the code is misled by: a `+CMGS:` line before the prompt, and an error whose text ends
in `OK`.
-/

namespace SmsServer

open RustStd Machine ModemEventHandlers

variable {X : Crates}

/-! ### The reference in a buffer -/

/-- The text of a response buffer. -/
def bufferOf (contents : List Str) : Str := contents.flatMap fun content => content ++ ['\n']

theorem bufferOf_concat (contents : List Str) (content : Str) :
    bufferOf (contents ++ [content]) = bufferOf contents ++ content ++ ['\n'] := by
  simp [bufferOf]

/-- The lines of a buffer of trimmed lines. -/
theorem lines_bufferOf {contents : List Str}
    (h : ∀ content ∈ contents, '\n' ∉ content ∧ trim content = content) :
    lines (bufferOf contents) = contents := by
  induction contents with
  | nil => rfl
  | cons content contents ih =>
    obtain ⟨⟨hnl, htrim⟩, hrest⟩ := List.forall_mem_cons.mp h
    have hcr : content.getLast? ≠ some '\r' := by
      intro hcr
      rw [← htrim] at hcr
      exact absurd (getLast?_trim hcr) (by decide)
    have hcons : bufferOf (content :: contents) = content ++ '\n' :: bufferOf contents := by
      simp [bufferOf]
    rw [hcons, lines_append hnl hcr, ih hrest]

/-- The number on a `+CMGS:` line. -/
def cmgsNumber? (line : Str) : Option UInt8 :=
  (stripPrefix (trim line) "+CMGS:".toList).bind fun data => parseU8 (trim data)

/-- A reference is the number on a `+CMGS:` line of the buffer. -/
theorem exists_of_parseCmgsResult {contents : List Str} {r : UInt8}
    (h : ∀ content ∈ contents, '\n' ∉ content ∧ trim content = content)
    (hparse : parseCmgsResult (bufferOf contents) = .ok r) :
    ∃ content ∈ contents, startsWith content "+CMGS:".toList ∧ cmgsNumber? content = some r := by
  obtain ⟨data, hdata, hnumber⟩ := bind_eq_ok_iff.mp hparse
  obtain ⟨content, hfind, hdata⟩ := bind_eq_ok_iff.mp hdata
  obtain ⟨rest, hstrip, hdata⟩ := bind_eq_ok_iff.mp hdata
  obtain rfl : trim rest = data := Except.ok.inj hdata
  rw [okOr_eq_ok_iff] at hfind hstrip hnumber
  rw [findLine, lines_bufferOf h] at hfind
  have hmem := List.mem_of_find?_eq_some hfind
  have hstarts := List.find?_some hfind
  rw [(h content hmem).2] at hstarts
  refine ⟨content, hmem, hstarts, ?_⟩
  rw [cmgsNumber?, hstrip, Option.bind_some, hnumber]

namespace StateMachineState

/-! ### Runs of a started command -/

/-- One line or prompt, as a step that is always enabled. -/
def eventStep (s : StateMachineState) (input : Peers × LineEvent) :
    Option (StateMachineState × List (Effect X)) :=
  some (s.handleEvent input)

/-- The references handed out, with the command each was given to. -/
def referencesOf : List (Effect X) → List (OutgoingCommand × UInt8) :=
  List.filterMap fun | .respond c (.sendResult r) _ => some (c, r) | _ => none

theorem mem_referencesOf {t : List (Effect X)} {c : OutgoingCommand} {r : UInt8} :
    (c, r) ∈ referencesOf t ↔ ∃ delivered, .respond c (.sendResult r) delivered ∈ t := by
  constructor
  · intro hmem
    obtain ⟨e, he, heq⟩ := List.mem_filterMap.mp hmem
    split at heq
    · cases heq
      exact ⟨_, he⟩
    · cases heq
  · rintro ⟨delivered, hmem⟩
    exact List.mem_filterMap.mpr ⟨_, hmem, rfl⟩

/-- A state and the event that arrives in it. -/
abbrev EventStep := StateMachineState × (Peers × LineEvent)

/-- The event queues the PDU for writing. -/
def QueuesPdu (X : Crates) (pdu : Str) (p : EventStep) : Prop :=
  (p.1.handleEvent (X := X) p.2).2 = [.workerEvent (.writeCommand (pduBytes pdu))]

/-- The event is a `+CMGS:` line with the number `r`. -/
def CarriesReference (r : UInt8) (p : EventStep) : Prop :=
  ∃ line, p.2.2 = .line line ∧ startsWith (trim line) "+CMGS:".toList ∧ cmgsNumber? line = some r

/-- The event is an `OK` line, and answers the command with the reference `r`. -/
def CompletesWith (X : Crates) (cmd : OutgoingCommand) (r : UInt8) (p : EventStep) : Prop :=
  ∃ line delivered, p.2.2 = .line line ∧ trim line = "OK".toList ∧
    (p.1.handleEvent (X := X) p.2).2 = [.respond cmd (.sendResult r) delivered]

/-- In this order: the PDU was queued, a line with the number `r` was received, and an `OK` line
completed the command. -/
def Referenced (X : Crates) (cmd : OutgoingCommand) (pdu : Str) (r : UInt8)
    (h : List EventStep) : Prop :=
  ∃ submitted referenced completed, [submitted, referenced, completed].Sublist h ∧
    QueuesPdu X pdu submitted ∧ CarriesReference r referenced ∧ CompletesWith X cmd r completed

/-- A `+CMGS:` line that arrives before the prompt: a late answer to an earlier SMS. -/
def IsStaleReference : StateMachineState → LineEvent → Prop
  | command execution, .line line =>
    execution.context.state = .waitingForPrompt ∧ startsWith (trim line) "+CMGS:".toList
  | _, _ => False

/-- An error that completes the command, with a text that ends in `OK`. -/
def IsFalseOk : StateMachineState → LineEvent → Prop
  | command execution, .line line =>
    execution.context.state = .waitingForOk ∧ IsFinalError (trim line) ∧
      endsWith (trim line) "OK".toList
  | _, _ => False

instance (s : StateMachineState) (event : LineEvent) : Decidable (IsStaleReference s event) :=
  match s, event with
  | command _, .line _ => inferInstanceAs (Decidable (_ ∧ _))
  | command _, .prompt _ => .isFalse id
  | idle, _ => .isFalse id
  | unsolicitedMessage .., _ => .isFalse id

instance (s : StateMachineState) (event : LineEvent) : Decidable (IsFalseOk s event) :=
  match s, event with
  | command _, .line _ => inferInstanceAs (Decidable (_ ∧ _ ∧ _))
  | command _, .prompt _ => .isFalse id
  | idle, _ => .isFalse id
  | unsolicitedMessage .., _ => .isFalse id

/-- What the buffer of the running SMS holds: before the prompt no `+CMGS:` line, and after it
only such as were received after the PDU was queued. -/
inductive Gathered (X : Crates) (pdu : Str) (h : List EventStep) : CommandState → List Str → Prop
  | before {contents : List Str}
      (hnone : ∀ content ∈ contents, ¬ startsWith content "+CMGS:".toList) :
    Gathered X pdu h .waitingForPrompt contents
  | after {contents : List Str} (submitted : EventStep) (hmem : submitted ∈ h)
      (hqueues : QueuesPdu X pdu submitted)
      (hlater : ∀ content ∈ contents, startsWith content "+CMGS:".toList →
        ∃ p line, [submitted, p].Sublist h ∧ p.2.2 = .line line ∧ trim line = content) :
    Gathered X pdu h .waitingForOk contents

/-- The command that is held is the SMS, and its buffer is as it should be. -/
structure Sending (X : Crates) (cmd : OutgoingCommand) (pdu : Str) (h : List EventStep)
    (execution : CommandExecution) : Prop where
  isCommand : execution.command = cmd
  gathered : ∃ contents, execution.context.responseBuffer = bufferOf contents ∧
    (∀ content ∈ contents, '\n' ∉ content ∧ trim content = content) ∧
    Gathered X pdu h execution.context.state contents

variable {cmd : OutgoingCommand} {pdu : Str} {h : List EventStep} {p : EventStep}

theorem Referenced.append {r : UInt8} (href : Referenced X cmd pdu r h) :
    Referenced X cmd pdu r (h ++ [p]) := by
  obtain ⟨submitted, referenced, completed, hsub, hrest⟩ := href
  exact ⟨submitted, referenced, completed, hsub.trans (List.sublist_append_left _ _), hrest⟩

theorem Gathered.append {state : CommandState} {contents : List Str}
    (hgathered : Gathered X pdu h state contents) : Gathered X pdu (h ++ [p]) state contents := by
  cases hgathered with
  | before hnone => exact .before hnone
  | after submitted hmem hqueues hlater =>
    refine .after submitted (List.mem_append_left _ hmem) hqueues fun content hcontent hstarts => ?_
    obtain ⟨p', line, hsub, hline⟩ := hlater content hcontent hstarts
    exact ⟨p', line, hsub.trans (List.sublist_append_left _ _), hline⟩

theorem Sending.append {execution : CommandExecution}
    (hsending : Sending X cmd pdu h execution) : Sending X cmd pdu (h ++ [p]) execution := by
  obtain ⟨hcommand, contents, hbuffer, hcontents, hgathered⟩ := hsending
  exact ⟨hcommand, contents, hbuffer, hcontents, hgathered.append⟩

/-- A received line joins the buffer; before the prompt it must not carry a reference. -/
theorem Gathered.push {state : CommandState} {contents : List Str} {line : Str}
    (hgathered : Gathered X pdu h state contents) (hline : p.2.2 = .line line)
    (hstale : state = .waitingForPrompt → ¬ startsWith (trim line) "+CMGS:".toList) :
    Gathered X pdu (h ++ [p]) state (contents ++ [trim line]) := by
  cases hgathered with
  | before hnone =>
    refine .before fun content hcontent => ?_
    rcases List.mem_append.mp hcontent with hcontent | hcontent
    · exact hnone content hcontent
    · rw [List.mem_singleton.mp hcontent]
      exact hstale rfl
  | after submitted hmem hqueues hlater =>
    refine .after submitted (List.mem_append_left _ hmem) hqueues fun content hcontent hstarts => ?_
    rcases List.mem_append.mp hcontent with hcontent | hcontent
    · obtain ⟨p', line', hsub, hline'⟩ := hlater content hcontent hstarts
      exact ⟨p', line', hsub.trans (List.sublist_append_left _ _), hline'⟩
    · refine ⟨p, line, ?_, hline, (List.mem_singleton.mp hcontent).symm⟩
      exact (List.singleton_sublist.mpr hmem).append (List.Sublist.refl [p])

/-- After a prompt, only what comes later can be a reference. -/
theorem Gathered.prompt {state : CommandState} {contents : List Str}
    (hgathered : Gathered X pdu h state contents) (hqueues : QueuesPdu X pdu p) :
    Gathered X pdu (h ++ [p]) .waitingForOk contents := by
  cases hgathered with
  | before hnone =>
    exact .after p (by simp) hqueues fun content hcontent hstarts =>
      absurd hstarts (hnone content hcontent)
  | after submitted hmem hqueues' hlater =>
    exact Gathered.append (.after submitted hmem hqueues' hlater)

/-- The PDU that is queued is the one of the SMS. -/
theorem Sending.prompted {execution : CommandExecution} {len len' : ℕ} {pdu' : Str}
    (hsending : Sending X cmd pdu h execution) (hrequest : cmd.request = .sendSms len pdu)
    (hrequest' : execution.command.request = .sendSms len' pdu') (hqueues : QueuesPdu X pdu' p) :
    Sending X cmd pdu (h ++ [p]) (execution.setState .waitingForOk) := by
  obtain ⟨hcommand, contents, hbuffer, hcontents, hgathered⟩ := hsending
  obtain ⟨rfl, rfl⟩ : len' = len ∧ pdu' = pdu := by
    rw [hcommand, hrequest] at hrequest'
    cases hrequest'
    exact ⟨rfl, rfl⟩
  exact ⟨hcommand, contents, hbuffer, hcontents, hgathered.prompt hqueues⟩

/-- A line that is no stale reference joins the buffer. -/
theorem Sending.push {execution : CommandExecution} {peers : Peers} {line : Str}
    (hsending : Sending X cmd pdu h execution) (hsingle : '\n' ∉ line)
    (hstale : ¬ IsStaleReference (command execution) (.line line)) :
    Sending X cmd pdu (h ++ [(command execution, peers, .line line)])
      (execution.push (trim line)) := by
  obtain ⟨hcommand, contents, hbuffer, hcontents, hgathered⟩ := hsending
  have hline : '\n' ∉ trim line ∧ trim (trim line) = trim line :=
    ⟨fun hnl => hsingle (mem_of_mem_trim hnl), trim_trim line⟩
  refine ⟨hcommand, contents ++ [trim line], ?_, ?_, ?_⟩
  · rw [CommandExecution.push_responseBuffer, hbuffer, bufferOf_concat]
  · exact List.forall_mem_append.mpr ⟨hcontents, List.forall_mem_singleton.mpr hline⟩
  · exact hgathered.push rfl fun hstate hstarts => hstale ⟨hstate, hstarts⟩

/-- A response with a reference was parsed from the buffer. -/
theorem parseCmgsResult_of_sendResult {len : ℕ} {response : Str} {r : UInt8}
    (hresponder : commandResponder (X := X) (.sendSms len pdu) response = .ok (.sendResult r)) :
    parseCmgsResult response = .ok r := by
  unfold commandResponder at hresponder
  split at hresponder
  · cases hresponder
  · obtain ⟨reference, hparse, hreference⟩ := bind_eq_ok_iff.mp hresponder
    cases hreference
    exact hparse

/-- The line that completes the SMS with a reference is `OK`, and its reference was received
after the PDU was queued. -/
theorem Sending.referenced {execution : CommandExecution} {peers : Peers} {event : LineEvent}
    {r : UInt8} {delivered : Bool} {len : ℕ} (hsending : Sending X cmd pdu h execution)
    (hrequest : cmd.request = .sendSms len pdu) (hsingle : event.IsSingleLine)
    (hfalse : ¬ IsFalseOk (command execution) event)
    (hresponse : finalResponse? (X := X) peers execution ((command execution).classify event) =
      some (.sendResult r))
    (heffects : ((command execution).handleEvent (X := X) (peers, event)).2 =
      [.respond cmd (.sendResult r) delivered]) :
    Referenced X cmd pdu r (h ++ [(command execution, peers, event)]) := by
  obtain ⟨rfl, contents, hbuffer, hcontents, hgathered⟩ := hsending
  obtain ⟨line, rfl, -, hcomplete, hresponder⟩ :=
    (finalResponse_not_isError_iff hresponse).mp not_false
  generalize hstate : execution.context.state = state at hcomplete hgathered
  cases hgathered with
  | before => cases hcomplete
  | after submitted hmem hqueues hlater =>
    have hok : trim line = "OK".toList := by
      rcases isComplete_waitingForOk.mp hcomplete with hok | herror
      · exact hok
      · -- an error that reads as a success ends in `OK`
        have hends := (commandResponder_finalError (X := X) execution herror
          fun _ hc => getLast?_trim hc).mp (by rw [hresponder]; rfl)
        exact absurd ⟨hstate, herror, hends.1⟩ hfalse
    have hparse : parseCmgsResult (bufferOf (contents ++ [trim line])) = .ok r := by
      rw [bufferOf_concat, ← hbuffer]
      rw [hrequest] at hresponder
      exact parseCmgsResult_of_sendResult hresponder
    have hlines : ∀ content ∈ contents ++ [trim line], '\n' ∉ content ∧ trim content = content :=
      List.forall_mem_append.mpr ⟨hcontents, fun content hcontent => by
        rw [List.mem_singleton.mp hcontent]
        exact ⟨fun hnl => hsingle (mem_of_mem_trim hnl), trim_trim line⟩⟩
    obtain ⟨content, hcontent, hstarts, hnumber⟩ := exists_of_parseCmgsResult hlines hparse
    have hbefore : content ∈ contents := by
      refine (List.mem_append.mp hcontent).resolve_right fun hlast => ?_
      rw [List.mem_singleton.mp hlast, hok] at hstarts
      exact absurd hstarts (by decide)
    obtain ⟨p, line', hsub, hline', rfl⟩ := hlater content hbefore hstarts
    rw [cmgsNumber?, trim_trim] at hnumber
    exact ⟨submitted, p, (command execution, peers, .line line),
      hsub.append (List.Sublist.refl [_]), hqueues, ⟨line', hline', hstarts, hnumber⟩,
      line, delivered, rfl, hok, heffects⟩

/-- What holds along the run of an SMS: what is held is the SMS, and a reference that was
handed out is a good one. -/
structure SendingInv (X : Crates) (cmd : OutgoingCommand) (pdu : Str) (h : List EventStep)
    (s : StateMachineState) (t : List (Effect X)) : Prop where
  sending : ∀ execution, s.execution = some execution → Sending X cmd pdu h execution
  referenced : ∀ c r delivered, .respond c (.sendResult r) delivered ∈ t →
    c = cmd ∧ Referenced X cmd pdu r h

/-- Starting the SMS establishes the invariant. -/
theorem SendingInv.start {len : ℕ} (hrequest : cmd.request = .sendSms len pdu) (peers : Peers)
    (now : Millis) : SendingInv X cmd pdu [] (idle.startCommand (X := X) peers now cmd).1 [] := by
  refine ⟨fun execution hexecution => ?_, fun c r delivered hmem => nomatch hmem⟩
  cases heventRx : peers.eventRx with
  | true =>
    rw [startCommand_eq heventRx, hrequest] at hexecution
    obtain rfl := Option.some_inj.mp hexecution
    exact ⟨rfl, [], rfl, by simp, .before (by simp)⟩
  | false =>
    rw [startCommand, commandSender, write, send, heventRx] at hexecution
    cases hexecution

/-- Every event that is neither a stale reference nor a false `OK` keeps the invariant. -/
theorem SendingInv.step {len : ℕ} (hrequest : cmd.request = .sendSms len pdu)
    {s s' : StateMachineState} {t out : List (Effect X)} {input : Peers × LineEvent}
    (hinv : SendingInv X cmd pdu h s t) (hsingle : input.2.IsSingleLine)
    (hstale : ¬ IsStaleReference s input.2) (hfalse : ¬ IsFalseOk s input.2)
    (hstep : eventStep s input = some (s', out)) :
    SendingInv X cmd pdu (h ++ [(s, input)]) s' (t ++ out) := by
  obtain ⟨peers, event⟩ := input
  have hhandle : s.handleEvent (X := X) (peers, event) = (s', out) := Option.some_inj.mp hstep
  -- references handed out before stay good, so a step that hands out none is no concern
  have hquiet : (∀ c r delivered, .respond c (.sendResult r) delivered ∉ out) →
      ∀ c r delivered, .respond c (.sendResult r) delivered ∈ t ++ out →
        c = cmd ∧ Referenced X cmd pdu r (h ++ [(s, (peers, event))]) := by
    intro hnone c r delivered hmem
    have hmem' := (List.mem_append.mp hmem).resolve_right (hnone c r delivered)
    exact ⟨(hinv.referenced c r delivered hmem').1, (hinv.referenced c r delivered hmem').2.append⟩
  have hcases := transitionState_cases (X := X) peers s event
  have hs' : (s.transitionState (X := X) peers event).1 = s' := congrArg Prod.fst hhandle
  have hout : (s.transitionState (X := X) peers event).2.effects = out := congrArg Prod.snd hhandle
  generalize hclass : s.classify event = classified at hcases
  generalize s.transitionState (X := X) peers event = next at hcases hs' hout
  obtain ⟨next, outcome⟩ := next
  subst hs' hout
  cases hcases with
  | payload messageKind interrupted content =>
    refine ⟨fun execution hexecution => ?_, hquiet fun _ _ _ => respond_notMem_handleUnsolicited⟩
    refine (hinv.sending execution ?_).append
    cases interrupted <;> exact hexecution
  | notice messageKind header =>
    refine ⟨fun execution hexecution => ?_, hquiet fun _ _ _ => respond_notMem_handleUnsolicited⟩
    exact (hinv.sending execution hexecution).append
  | header messageKind header =>
    refine ⟨fun execution hexecution => ?_, hquiet fun _ _ _ => List.not_mem_nil⟩
    exact (hinv.sending execution hexecution).append
  | pdu execution len' pdu' content hrequest' heventRx =>
    refine ⟨fun execution' hexecution => ?_, hquiet fun _ _ _ => by simp⟩
    obtain rfl := Option.some_inj.mp hexecution
    have hqueues : QueuesPdu X pdu' (command execution, (peers, event)) := by
      rw [QueuesPdu, hhandle]
    exact (hinv.sending execution rfl).prompted hrequest hrequest' hqueues
  | finished execution _ response hresponse =>
    refine ⟨fun _ hexecution => absurd hexecution (by simp), fun c r delivered hmem => ?_⟩
    rcases List.mem_append.mp hmem with hmem | hmem
    · obtain ⟨hc, href⟩ := hinv.referenced c r delivered hmem
      exact ⟨hc, href.append⟩
    · obtain ⟨delivered', heffects⟩ := execution.command.respond_effects (X := X) peers response
      rw [heffects] at hmem
      cases List.mem_singleton.mp hmem
      have hsending := hinv.sending execution rfl
      rw [← hclass] at hresponse
      have hanswer : ((command execution).handleEvent (X := X) (peers, event)).2 =
          [.respond cmd (.sendResult r) delivered] := by
        rw [hhandle, heffects, hsending.isCommand]
      exact ⟨hsending.isCommand,
        hsending.referenced hrequest hsingle hfalse hresponse hanswer⟩
  | progress execution _ content hevent =>
    refine ⟨fun execution' hexecution => ?_, hquiet fun _ _ _ => List.not_mem_nil⟩
    obtain rfl := Option.some_inj.mp hexecution
    obtain ⟨line, rfl, rfl⟩ := classify_content (hclass ▸ hevent)
    exact (hinv.sending execution rfl).push hsingle hstale
  | ignored =>
    exact ⟨fun _ hexecution => absurd hexecution (by simp), hquiet fun _ _ _ => List.not_mem_nil⟩
  | invalid =>
    exact ⟨fun _ hexecution => absurd hexecution (by simp), hquiet fun _ _ _ => List.not_mem_nil⟩

/-- The invariant on every run of a started SMS that meets no stale reference and no false `OK`. -/
theorem run_sendingInv {len : ℕ} (hrequest : cmd.request = .sendSms len pdu)
    {peers : Peers} {now : Millis} {s : StateMachineState} {t : List (Effect X)}
    (hrun : Run eventStep (idle.startCommand (X := X) peers now cmd).1 h s t)
    (hsingle : ∀ p ∈ h, p.2.2.IsSingleLine)
    (hguard : ∀ p ∈ h, ¬ IsStaleReference p.1 p.2.2 ∧ ¬ IsFalseOk p.1 p.2.2) :
    SendingInv X cmd pdu h s t := by
  refine hrun.induct (P := fun h s t => (∀ p ∈ h, p.2.2.IsSingleLine) →
    (∀ p ∈ h, ¬ IsStaleReference p.1 p.2.2 ∧ ¬ IsFalseOk p.1 p.2.2) →
    SendingInv X cmd pdu h s t) ?_ ?_ hsingle hguard
  · exact fun _ _ => .start hrequest peers now
  · intro h s t input s' out _ ih hstep hsingle hguard
    obtain ⟨hsingle, hlast⟩ := List.forall_mem_append.mp hsingle
    obtain ⟨hguard, hlast'⟩ := List.forall_mem_append.mp hguard
    rw [List.forall_mem_singleton] at hlast hlast'
    exact (ih hsingle hguard).step hrequest hlast hlast'.1 hlast'.2 hstep

theorem SendingInv.referenced_of_mem {s : StateMachineState} {t : List (Effect X)}
    (hinv : SendingInv X cmd pdu h s t) {c : OutgoingCommand} {r : UInt8}
    (hanswer : (c, r) ∈ referencesOf t) : c = cmd ∧ Referenced X cmd pdu r h := by
  obtain ⟨delivered, hmem⟩ := mem_referencesOf.mp hanswer
  exact hinv.referenced c r delivered hmem

/-- **References.** On every run of a started SMS that meets no stale reference and no false
`OK`, a reference it is answered with was received after its PDU was queued, and confirmed by an
`OK` line. -/
theorem sendResult_referenced {len : ℕ} (hrequest : cmd.request = .sendSms len pdu)
    {peers : Peers} {now : Millis} {s : StateMachineState} {t : List (Effect X)}
    (hrun : Run eventStep (idle.startCommand (X := X) peers now cmd).1 h s t)
    (hsingle : ∀ p ∈ h, p.2.2.IsSingleLine)
    (hguard : ∀ p ∈ h, ¬ IsStaleReference p.1 p.2.2 ∧ ¬ IsFalseOk p.1 p.2.2)
    {c : OutgoingCommand} {r : UInt8} (hanswer : (c, r) ∈ referencesOf t) :
    c = cmd ∧ Referenced X cmd pdu r h :=
  (run_sendingInv hrequest hrun hsingle hguard).referenced_of_mem hanswer

/-- The usual dialogue. -/
theorem sendResult_referenced_dialogue :
    ∃ h : List EventStep, h.map (fun p => p.2.2) =
        [.prompt ">".toList, .line "+CMGS: 6".toList, .line "OK".toList] ∧
      Referenced .rejecting (.new 1 0 (.sendSms 3 "00".toList) none) "00".toList 6 h := by
  let peers : Peers := ⟨true, fun _ => true⟩
  let cmd : OutgoingCommand := .new 1 0 (.sendSms 3 "00".toList) none
  obtain ⟨s, t, -, hrun, hanswer⟩ := Run.of_execute (eventStep (X := .rejecting))
    (idle.startCommand (X := .rejecting) peers 0 cmd).1
    [(peers, .prompt ">".toList), (peers, .line "+CMGS: 6".toList), (peers, .line "OK".toList)]
    (fun r => referencesOf r.2) (b := [(cmd, 6)]) (by decide +kernel)
  refine ⟨_, by decide +kernel, (sendResult_referenced rfl hrun (by decide +kernel)
    (by decide +kernel) (c := cmd) (r := 6) ?_).2⟩
  rw [hanswer]
  exact List.mem_singleton_self _

/-- The same for the events of line buffers, whose lines are single. -/
theorem referenced_of_processData {len : ℕ} (hrequest : cmd.request = .sendSms len pdu)
    {peers : Peers} {now : Millis} {s : StateMachineState} {t : List (Effect X)}
    (hrun : Run eventStep (idle.startCommand (X := X) peers now cmd).1 h s t)
    (hread : ∀ p ∈ h, ∃ (buffer : LineBuffer) (data : List UInt8),
      p.2.2 ∈ (buffer.processData data).1)
    (hguard : ∀ p ∈ h, ¬ IsStaleReference p.1 p.2.2 ∧ ¬ IsFalseOk p.1 p.2.2)
    {c : OutgoingCommand} {r : UInt8} (hanswer : (c, r) ∈ referencesOf t) :
    c = cmd ∧ Referenced X cmd pdu r h := by
  have hsingle : ∀ p ∈ h, p.2.2.IsSingleLine := by
    intro p hp
    obtain ⟨buffer, data, hmem⟩ := hread p hp
    exact processData_isSingleLine buffer data p.2.2 hmem
  exact (run_sendingInv hrequest hrun hsingle hguard).referenced_of_mem hanswer

/-- A late answer to an earlier SMS, before the prompt: its number is handed out as the reference
of this one, and the right number, received after the PDU was queued, is not. -/
theorem staleReference_returned :
    ∃ (h : List EventStep) (s : StateMachineState) (t : List (Effect .rejecting)),
      h.map (fun p => p.2.2) = [.line "+CMGS: 5".toList, .prompt ">".toList,
        .line "+CMGS: 6".toList, .line "OK".toList] ∧
      Run eventStep (idle.startCommand (X := .rejecting) ⟨true, fun _ => true⟩ 0
        (.new 1 0 (.sendSms 3 "00".toList) none)).1 h s t ∧
      (.new 1 0 (.sendSms 3 "00".toList) none, 5) ∈ referencesOf t ∧
      ¬ Referenced .rejecting (.new 1 0 (.sendSms 3 "00".toList) none) "00".toList 5 h := by
  let peers : Peers := ⟨true, fun _ => true⟩
  let cmd : OutgoingCommand := .new 1 0 (.sendSms 3 "00".toList) none
  obtain ⟨s, t, hinputs, hrun, hanswer⟩ := Run.of_execute (eventStep (X := .rejecting))
    (idle.startCommand (X := .rejecting) peers 0 cmd).1
    [(peers, .line "+CMGS: 5".toList), (peers, .prompt ">".toList),
      (peers, .line "+CMGS: 6".toList), (peers, .line "OK".toList)]
    (fun r => referencesOf r.2) (b := [(cmd, 5)]) (by decide +kernel)
  generalize history (eventStep (X := .rejecting))
    (idle.startCommand (X := .rejecting) peers 0 cmd).1 _ = h at hinputs hrun
  have hevents : h.map (fun p => p.2.2) = [.line "+CMGS: 5".toList, .prompt ">".toList,
      .line "+CMGS: 6".toList, .line "OK".toList] := by
    have := congrArg (List.map Prod.snd) hinputs
    rwa [List.map_map] at this
  refine ⟨h, s, t, hevents, hrun, ?_, ?_⟩
  · rw [hanswer]
    exact List.mem_singleton_self _
  · rintro ⟨submitted, referenced, completed, hsub, -, ⟨line, hline, -, hnumber⟩, -⟩
    -- the reference would have to be among the last three events
    have hmem : LineEvent.line line ∈ (h.map fun p => p.2.2).tail := by
      rw [← hline, ← List.map_tail]
      exact List.mem_map_of_mem (hsub.tail.subset (by simp))
    rw [hevents] at hmem
    simp only [List.tail_cons, List.mem_cons, LineEvent.line.injEq, reduceCtorEq, false_or,
      List.not_mem_nil, or_false] at hmem
    rcases hmem with rfl | rfl <;> exact absurd hnumber (by decide +kernel)

end StateMachineState

end SmsServer
