import SmsServer.App.Tasks
import SmsServer.Sms.Reassembly

/-!
# From the modem to the announcement

What becomes of the messages that the modem sends. The task of `main_rx` takes them in order, so the
incoming messages that are announced are those that the reassembly returns, in order
(`incoming_inOrder`), and it gets through its queue whatever becomes of its statements
(`channel_goesOn`).
-/

namespace SmsServer

open RustStd Machine BroadcastEvent

variable {X : Crates}

namespace App

variable {context : AppContext} {s s' : App X} {input : AppInput X} {out : List (BroadcastEvent X)}

/-! ### Incoming messages -/

/-- What the modem has sent. -/
def sentByModem : List (App X × AppInput X) → List (ModemIncomingMessage X) :=
  List.filterMap fun p => match p.2 with
    | .message message => some message
    | _ => none

/-- What the task of `main_rx` has taken off it. -/
def takenOf : List (App X × AppInput X) → List (ModemIncomingMessage X) :=
  List.filterMap fun p => match p.2 with
    | .recv _ => p.1.mainRx.head?
    | _ => none

/-- The incoming message that a message of the modem is. -/
def incomingSms? : ModemIncomingMessage X → Option SmsIncomingMessage
  | .incomingSms incoming => some incoming
  | _ => none

/-- What the two tasks that share the map of multipart messages have done to it. -/
def receiverInputs : List (App X × AppInput X) → List SMSReceiver.Input :=
  List.filterMap fun p => match p.2 with
    | .recv now => (p.1.mainRx.head?.bind incomingSms?).map (.incoming now)
    | .cleanup now => some (.cleanup now)
    | _ => none

/-- The incoming messages among the inputs of the reassembly. -/
def partsOf : List SMSReceiver.Input → List SmsIncomingMessage :=
  List.filterMap fun
    | .incoming _ message => some message
    | .cleanup _ => none

/-- The messages that the reassembly returns for its inputs. -/
def wholeMessages (fromIncoming : FromIncoming) (inputs : List SMSReceiver.Input) :
    List SmsMessage :=
  (Transducer.run (SMSReceiver.receive fromIncoming) .new inputs).2.filterMap fun r =>
    r.2.bind Except.toOption

/-- Where the messages are that the modem has sent, and the messages they were made into. -/
structure Received (context : AppContext) (h : List (App X × AppInput X)) (s : App X)
    (t : List (BroadcastEvent X)) : Prop where
  taken : takenOf h ++ s.mainRx = sentByModem h
  parts : partsOf (receiverInputs h) = (takenOf h).filterMap incomingSms?
  receiver : s.receiver = SMSReceiver.after context.fromIncoming (receiverInputs h)
  incoming : context.broadcaster = true → incomingOf t ++ s.channel.incoming.toList =
    wholeMessages context.fromIncoming (receiverInputs h)

section

variable {h : List (App X × AppInput X)} {t : List (BroadcastEvent X)} {db : SMSDatabase}

theorem sentByModem_append (h' : List (App X × AppInput X)) :
    sentByModem (h ++ h') = sentByModem h ++ sentByModem h' := List.filterMap_append

theorem takenOf_append (h' : List (App X × AppInput X)) :
    takenOf (h ++ h') = takenOf h ++ takenOf h' := List.filterMap_append

theorem receiverInputs_append (h' : List (App X × AppInput X)) :
    receiverInputs (h ++ h') = receiverInputs h ++ receiverInputs h' := List.filterMap_append

theorem wholeMessages_concat (fromIncoming : FromIncoming) (inputs : List SMSReceiver.Input)
    (input : SMSReceiver.Input) :
    wholeMessages fromIncoming (inputs ++ [input]) = wholeMessages fromIncoming inputs ++
      ((SMSReceiver.after fromIncoming inputs).receive fromIncoming input).2.filterMap fun r =>
        r.2.bind Except.toOption := by
  rw [wholeMessages, Transducer.run_append, List.filterMap_append]
  simp only [Transducer.run_cons, Transducer.run_nil, List.append_nil]
  rfl

/-- A step that takes no message and does not touch the map. -/
theorem Received.other (hreceived : Received context h s t) (htaken : takenOf [(s, input)] = [])
    (hinputs : receiverInputs [(s, input)] = [])
    (hmain : s'.mainRx = s.mainRx ++ sentByModem [(s, input)])
    (hreceiver : s'.receiver = s.receiver)
    (hincoming : context.broadcaster = true →
      incomingOf out ++ s'.channel.incoming.toList = s.channel.incoming.toList) :
    Received context (h ++ [(s, input)]) s' (t ++ out) := by
  have htaken' : takenOf (h ++ [(s, input)]) = takenOf h := by
    rw [takenOf_append, htaken, List.append_nil]
  have hinputs' : receiverInputs (h ++ [(s, input)]) = receiverInputs h := by
    rw [receiverInputs_append, hinputs, List.append_nil]
  refine ⟨?_, ?_, ?_, fun hbroadcaster => ?_⟩
  · rw [htaken', hmain, ← List.append_assoc, hreceived.taken, sentByModem_append]
  · rw [hinputs', htaken', hreceived.parts]
  · rw [hinputs', hreceiver, hreceived.receiver]
  · rw [hinputs', incomingOf_append, List.append_assoc, hincoming hbroadcaster,
      hreceived.incoming hbroadcaster]

/-- The task takes a message that is not an incoming one. -/
theorem Received.takeOther (hreceived : Received context h s t) (now : Millis)
    {message : ModemIncomingMessage X} {mainRx : List (ModemIncomingMessage X)}
    (hidle : s.channel = .idle) (hmain : s.mainRx = message :: mainRx)
    (hother : incomingSms? message = none) (hmain' : s'.mainRx = mainRx)
    (hreceiver : s'.receiver = s.receiver) (hincoming : s'.channel.incoming = none)
    (hout : incomingOf out = []) :
    Received context (h ++ [(s, .recv now)]) s' (t ++ out) := by
  have htaken : takenOf (h ++ [(s, .recv now)]) = takenOf h ++ [message] := by
    simp [takenOf, List.filterMap_append, hmain]
  have hinputs : receiverInputs (h ++ [(s, .recv now)]) = receiverInputs h := by
    simp [receiverInputs, List.filterMap_append, hmain, hother]
  have hsent : sentByModem (h ++ [(s, .recv now)]) = sentByModem h := by
    rw [sentByModem_append]
    exact List.append_nil _
  refine ⟨?_, ?_, ?_, fun hbroadcaster => ?_⟩
  · rw [htaken, hsent, hmain', List.append_assoc, List.singleton_append, ← hmain, hreceived.taken]
  · rw [hinputs, htaken, List.filterMap_append, ← hreceived.parts]
    simp [hother]
  · rw [hinputs, hreceiver, hreceived.receiver]
  · rw [hinputs, incomingOf_append, hout, hincoming, List.append_nil,
      ← hreceived.incoming hbroadcaster, hidle]
    rfl

/-- The task takes an incoming message. -/
theorem Received.takeIncoming (hreceived : Received context h s t) (now : Millis)
    {incoming : SmsIncomingMessage} {mainRx : List (ModemIncomingMessage X)}
    {result : Option (Except Str SmsMessage)} (hidle : s.channel = .idle)
    (hmain : s.mainRx = .incomingSms incoming :: mainRx) (hmain' : s'.mainRx = mainRx)
    (hreceiver : s.receiver.getIncomingSmsMessage context.fromIncoming now incoming =
      (s'.receiver, result))
    (hincoming : s'.channel.incoming = result.bind Except.toOption) :
    Received context (h ++ [(s, .recv now)]) s' (t ++ []) := by
  have htaken : takenOf (h ++ [(s, .recv now)]) = takenOf h ++ [.incomingSms incoming] := by
    simp [takenOf, List.filterMap_append, hmain]
  have hinputs : receiverInputs (h ++ [(s, .recv now)]) =
      receiverInputs h ++ [.incoming now incoming] := by
    simp [receiverInputs, List.filterMap_append, hmain, incomingSms?]
  have hsent : sentByModem (h ++ [(s, .recv now)]) = sentByModem h := by
    rw [sentByModem_append]
    exact List.append_nil _
  have hreceive : (SMSReceiver.after context.fromIncoming (receiverInputs h)).receive
      context.fromIncoming (.incoming now incoming) = (s'.receiver, [(incoming, result)]) := by
    rw [← hreceived.receiver, SMSReceiver.receive, hreceiver]
  refine ⟨?_, ?_, ?_, fun hbroadcaster => ?_⟩
  · rw [htaken, hsent, hmain', List.append_assoc, List.singleton_append, ← hmain, hreceived.taken]
  · rw [hinputs, htaken, List.filterMap_append, ← hreceived.parts, partsOf, List.filterMap_append]
    rfl
  · rw [hinputs, SMSReceiver.after_concat, hreceive]
  · have hnone := hreceived.incoming hbroadcaster
    rw [hidle] at hnone
    rw [hinputs, wholeMessages_concat, hreceive, ← hnone, List.append_nil, hincoming]
    cases hresult : result.bind Except.toOption <;> simp [hresult, ChannelTask.incoming]

theorem received (hrun : Run (step context) (new db) h s t) : Received context h s t := by
  refine hrun.induct (P := Received context) ⟨rfl, rfl, rfl, fun _ => rfl⟩ ?_
  intro h s t input s' out _ hreceived hstep
  have hmove := step_move hstep
  clear hstep
  have hbroadcast : ∀ event : BroadcastEvent X, incomingOf [event] = [] →
      incomingOf (context.broadcast event) = [] := by
    intro event hevent
    rw [AppContext.broadcast]
    split
    · exact hevent
    · rfl
  cases hmove with
  | message message => exact hreceived.other rfl rfl rfl rfl fun _ => rfl
  | part now hidle hmain hresult =>
    exact hreceived.takeIncoming now hidle hmain rfl hresult (by rw [hidle]; rfl)
  | whole now hidle hmain hresult => exact hreceived.takeIncoming now hidle hmain rfl hresult rfl
  | report now hidle hmain => exact hreceived.takeOther now hidle hmain rfl rfl rfl rfl rfl
  | status now hidle hmain =>
    exact hreceived.takeOther now hidle hmain rfl rfl rfl (by rw [hidle]; rfl) (hbroadcast _ rfl)
  | position now hidle hmain =>
    exact hreceived.takeOther now hidle hmain rfl rfl rfl (by rw [hidle]; rfl) (hbroadcast _ rfl)
  | network now hidle hmain =>
    exact hreceived.takeOther now hidle hmain rfl rfl rfl (by rw [hidle]; rfl) rfl
  | cleanup now =>
    have hinputs : receiverInputs (h ++ [(s, .cleanup now)]) = receiverInputs h ++ [.cleanup now] :=
      receiverInputs_append _
    refine ⟨?_, ?_, ?_, fun hbroadcaster => ?_⟩
    · rw [takenOf_append, sentByModem_append]
      exact (congrArg (· ++ s.mainRx) (List.append_nil _)).trans
        (hreceived.taken.trans (List.append_nil _).symm)
    · rw [hinputs, takenOf_append, partsOf, List.filterMap_append, List.filterMap_append]
      exact congrArg (· ++ []) hreceived.parts
    · rw [hinputs, SMSReceiver.after_concat, ← hreceived.receiver]
      rfl
    · rw [hinputs, wholeMessages_concat, List.append_nil, hreceived.incoming hbroadcaster]
      exact (List.append_nil _).symm
  | notStored _ _ _ hchannel | stored _ _ hchannel | found _ _ hchannel | notInserted _ _ hchannel
  | inserted _ _ hchannel | updated _ _ hchannel | noTarget hchannel =>
    exact hreceived.other rfl rfl (List.append_nil _).symm rfl fun _ => by rw [hchannel]; rfl
  | announceIncoming hchannel =>
    refine hreceived.other rfl rfl (List.append_nil _).symm rfl fun hbroadcaster => ?_
    rw [hchannel, AppContext.broadcast, if_pos hbroadcaster]
    rfl
  | announceReport hchannel =>
    refine hreceived.other rfl rfl (List.append_nil _).symm rfl fun _ => ?_
    rw [hchannel, hbroadcast _ rfl]
    rfl
  | announceOutgoing =>
    refine hreceived.other rfl rfl (List.append_nil _).symm rfl fun _ => ?_
    rw [hbroadcast _ rfl]
    rfl
  | _ => exact hreceived.other rfl rfl (List.append_nil _).symm rfl fun _ => rfl

/-- **In order.** The incoming messages that are announced are the messages the reassembly returns
for what the modem has sent, in its order; all of them, once the task of `main_rx` has nothing left
to do. Whether they could be stored makes no difference. -/
theorem incoming_inOrder (hbroadcaster : context.broadcaster = true)
    (hrun : Run (step context) (new db) h s t) :
    partsOf (receiverInputs h) <+: (sentByModem h).filterMap incomingSms? ∧
      incomingOf t <+: wholeMessages context.fromIncoming (receiverInputs h) ∧
      (s.mainRx = [] → s.channel = .idle →
        partsOf (receiverInputs h) = (sentByModem h).filterMap incomingSms? ∧
          incomingOf t = wholeMessages context.fromIncoming (receiverInputs h)) := by
  obtain ⟨htaken, hparts, -, hincoming⟩ := received hrun
  refine ⟨?_, ⟨_, hincoming hbroadcaster⟩, fun hmain hidle => ⟨?_, ?_⟩⟩
  · rw [hparts, ← htaken, List.filterMap_append]
    exact List.prefix_append _ _
  · rw [hparts, ← htaken, hmain, List.append_nil]
  · have hall := hincoming hbroadcaster
    rw [hidle] at hall
    exact (List.append_nil _).symm.trans hall

theorem incoming_inOrder_bothWays :
    ∃ (h : List (App .rejecting × AppInput .rejecting)) (s : App .rejecting)
      (t : List (BroadcastEvent .rejecting)),
      Run (step .ofZeros) (new .empty) h s t ∧
      incomingOf t = [⟨"+1".toList, "Hi".toList, none, false, none⟩] ∧
      partsOf (receiverInputs h) <+: (sentByModem h).filterMap incomingSms? ∧
      incomingOf t <+: wholeMessages AppContext.ofZeros.fromIncoming (receiverInputs h) ∧
      (s.mainRx = [] → s.channel = .idle →
        partsOf (receiverInputs h) = (sentByModem h).filterMap incomingSms? ∧
          incomingOf t = wholeMessages AppContext.ofZeros.fromIncoming (receiverInputs h)) := by
  obtain ⟨s, t, -, hrun, hincoming⟩ := Run.of_execute (step (X := .rejecting) .ofZeros) (new .empty)
    bothWays (fun r => incomingOf r.2) (b := [⟨"+1".toList, "Hi".toList, none, false, none⟩])
    (by decide +kernel)
  exact ⟨_, s, t, hrun, hincoming, incoming_inOrder rfl hrun⟩

end

/-! ### Notifications -/

/-- The event that a notification of the modem is passed on as. -/
def relay : ModemIncomingMessage X → Option (BroadcastEvent X)
  | .modemStatusUpdate previous current =>
    some (.modemStatusUpdate previous.into current.into)
  | .gnssPositionReport location => some (.gnssPositionReport location)
  | _ => none

/-- The notifications that are announced. -/
def relayedOf : List (BroadcastEvent X) → List (BroadcastEvent X) :=
  List.filterMap fun
    | .modemStatusUpdate previous current => some (.modemStatusUpdate previous current)
    | .gnssPositionReport location => some (.gnssPositionReport location)
    | _ => none

/-- The notifications that are announced are those the task of `main_rx` has taken, in order. -/
theorem relayedOf_eq {h : List (App X × AppInput X)} {t : List (BroadcastEvent X)}
    {db : SMSDatabase} (hbroadcaster : context.broadcaster = true)
    (hrun : Run (step context) (new db) h s t) :
    relayedOf t = (takenOf h).filterMap relay := by
  refine hrun.induct (P := fun h _ t => relayedOf t = (takenOf h).filterMap relay) rfl ?_
  intro h s t input s' out _ hrelayed hstep
  have hmove := step_move hstep
  rw [takenOf_append, List.filterMap_append, ← hrelayed, relayedOf, List.filterMap_append]
  congr 1
  have hbroadcast : ∀ event : BroadcastEvent X, context.broadcast event = [event] := fun event =>
    if_pos hbroadcaster
  clear hstep
  cases hmove with
  | part _ _ hmain | whole _ _ hmain | report _ _ hmain | network _ _ hmain =>
    simp [takenOf, hmain, relay]
  | status _ _ hmain | position _ _ hmain =>
    rw [hbroadcast]
    simp [takenOf, hmain, relay]
  | announceIncoming | announceReport | announceOutgoing =>
    rw [hbroadcast]
    rfl
  | _ => rfl

/-! ### Progress -/

/-- A step of the task of `main_rx`. -/
def ofChannel : AppInput X → Bool
  | .recv _ | .statement _ _ | .resume => true
  | _ => false

def channelSteps (h : List (App X × AppInput X)) : ℕ := h.countP fun p => ofChannel p.2

/-- The steps that the task of `main_rx` has left at most. -/
def work (self : App X) : ℕ := 5 * self.mainRx.length + self.channel.work

/-- A step of another task leaves `main_rx` and its task alone, apart from a message that the modem
sends, and a step of its task is one less to do. -/
theorem Move.work (hmove : Move context s input s' out) :
    channelSteps [(s, input)] + s'.work ≤ s.work + 5 * (sentByModem [(s, input)]).length := by
  cases hmove with
  | message message =>
    have hlength : (s.mainRx ++ [message]).length = s.mainRx.length + 1 := List.length_append
    simp only [App.work, hlength]
    change 0 + _ ≤ _ + 5 * 1
    omega
  | part _ hidle hmain | whole _ hidle hmain | report _ hidle hmain | status _ hidle hmain
  | position _ hidle hmain | network _ hidle hmain =>
    simp only [App.work, hidle, hmain, List.length_cons, ChannelTask.work]
    change 1 + _ ≤ _ + 5 * 0
    omega
  | notStored _ _ _ hchannel | stored _ _ hchannel | found _ _ hchannel | notInserted _ _ hchannel
  | inserted _ _ hchannel | updated _ _ hchannel | announceIncoming hchannel | noTarget hchannel
  | announceReport hchannel =>
    simp only [App.work, hchannel, ChannelTask.work]
    change 1 + _ ≤ _ + 5 * 0
    omega
  | _ => exact (Nat.zero_add _).le

/-- The task of `main_rx` goes on whatever becomes of its statements, and whatever the other tasks
do: while there is something to do, one of its steps can be taken. -/
theorem exists_step (context : AppContext) (hwork : s.mainRx ≠ [] ∨ s.channel ≠ .idle)
    (now : Millis) (call : Call) (nonce : Nonce) :
    ∃ input ∈ [.recv now, .statement call nonce, .resume], (s.step context input).isSome := by
  cases hchannel : s.channel with
  | idle =>
    obtain ⟨message, mainRx, hmain⟩ := List.exists_cons_of_ne_nil
      (hwork.resolve_right fun hbusy => hbusy hchannel)
    exact ⟨.recv now, by simp, by simp [step, hchannel, hmain]⟩
  | storing message =>
    exact ⟨.statement call nonce, by simp, by simp [step, hchannel, ChannelTask.statement]⟩
  | finding report =>
    exact ⟨.statement call nonce, by simp, by simp [step, hchannel, ChannelTask.statement]⟩
  | inserting report messageId =>
    refine ⟨.statement call nonce, by simp, ?_⟩
    simp only [step, hchannel, ChannelTask.statement]
    split <;> rfl
  | updating report messageId =>
    exact ⟨.statement call nonce, by simp, by simp [step, hchannel, ChannelTask.statement]⟩
  | stored message rowId =>
    exact ⟨.resume, by simp, by simp [step, hchannel, ChannelTask.resume]⟩
  | found report target =>
    refine ⟨.resume, by simp, ?_⟩
    cases target <;> simp [step, hchannel, ChannelTask.resume]

/-- The steps of the task of `main_rx` lead to where it has nothing left to do. -/
theorem exists_drained (context : AppContext) (now : App X → Millis) (call : App X → Call)
    (nonce : App X → Nonce) (s : App X) :
    ∃ h s' t, Run (step context) s h s' t ∧ s'.mainRx = [] ∧ s'.channel = .idle ∧
      ∀ p ∈ h, p.2 ∈ [.recv (now p.1), .statement (call p.1) (nonce p.1), .resume] := by
  induction hwork : s.work using Nat.strong_induction_on generalizing s with
  | _ n ih =>
    subst hwork
    by_cases hdone : s.mainRx = [] ∧ s.channel = .idle
    · exact ⟨[], s, [], .start, hdone.1, hdone.2, by simp⟩
    · obtain ⟨input, hinput, hsome⟩ :=
        exists_step context (not_and_or.mp hdone) (now s) (call s) (nonce s)
      obtain ⟨⟨s₁, out⟩, hstep⟩ := Option.isSome_iff_exists.mp hsome
      have hless : s₁.work < s.work := by
        have hwork := (step_move hstep).work
        simp only [List.mem_cons, List.not_mem_nil, or_false] at hinput
        rcases hinput with rfl | rfl | rfl <;> exact Nat.lt_of_succ_le (Nat.one_add _ ▸ hwork)
      obtain ⟨h, s', t, hrun, hmain, hidle, hall⟩ := ih _ hless s₁ rfl
      refine ⟨[] ++ [(s, input)] ++ h, s', [] ++ out ++ t, (Run.start.next hstep).append hrun,
        hmain, hidle, ?_⟩
      simpa using ⟨by simpa using hinput, by simpa using hall⟩

/-- **Progress.** The task of `main_rx` takes at most five steps for each message of the modem, and
from any state its steps lead to where every message has been handled, whatever becomes of the
statements. -/
theorem channel_goesOn {h : List (App X × AppInput X)} {t : List (BroadcastEvent X)}
    {db : SMSDatabase} (hrun : Run (step context) (new db) h s t) :
    channelSteps h + s.work ≤ 5 * (sentByModem h).length ∧
      ∀ (now : App X → Millis) (call : App X → Call) (nonce : App X → Nonce), ∃ h' s' t',
        Run (step context) s h' s' t' ∧ takenOf (h ++ h') = sentByModem h ∧ s'.channel = .idle ∧
          ∀ p ∈ h', p.2 ∈ [.recv (now p.1), .statement (call p.1) (nonce p.1), .resume] := by
  constructor
  · refine hrun.induct (P := fun h s _ => channelSteps h + s.work ≤ 5 * (sentByModem h).length)
      le_rfl ?_
    intro h s t input s' out _ hbound hstep
    have hwork := (step_move hstep).work
    rw [sentByModem_append, List.length_append, channelSteps, List.countP_append]
    change channelSteps h + channelSteps [(s, input)] + s'.work ≤ _
    omega
  · intro now call nonce
    obtain ⟨h', s', t', hrun', hmain, hidle, hall⟩ := exists_drained context now call nonce s
    refine ⟨h', s', t', hrun', ?_, hidle, hall⟩
    have htaken := (received (hrun.append hrun')).taken
    have hsent : sentByModem h' = [] := by
      refine List.filterMap_eq_nil_iff.mpr fun p hp => ?_
      have hinput := hall p hp
      simp only [List.mem_cons, List.not_mem_nil, or_false] at hinput
      rcases hinput with heq | heq | heq <;> rw [heq]
    rw [hmain, List.append_nil, sentByModem_append, hsent, List.append_nil] at htaken
    exact htaken

theorem channel_goesOn_bothWays :
    ∃ (h : List (App .rejecting × AppInput .rejecting)) (s : App .rejecting)
      (t : List (BroadcastEvent .rejecting)),
      Run (step .ofZeros) (new .empty) h s t ∧ s.work = 2 ∧
      channelSteps h + s.work ≤ 5 * (sentByModem h).length ∧
      ∀ (now : App .rejecting → Millis) (call : App .rejecting → Call)
        (nonce : App .rejecting → Nonce), ∃ h' s' t',
        Run (step .ofZeros) s h' s' t' ∧ takenOf (h ++ h') = sentByModem h ∧ s'.channel = .idle ∧
          ∀ p ∈ h', p.2 ∈ [.recv (now p.1), .statement (call p.1) (nonce p.1), .resume] := by
  obtain ⟨s, t, -, hrun, hwork⟩ := Run.of_execute (step (X := .rejecting) .ofZeros) (new .empty)
    bothWays (fun r => r.1.work) (b := 2) (by decide +kernel)
  exact ⟨_, s, t, hrun, hwork, channel_goesOn hrun⟩

end App

end SmsServer
