import Mathlib.Data.List.Chain
import SmsServer.Chatgpt.Order

/-!
# The conversations of the ChatGPT example

What the workers note in the histories, in whatever order they run, and what they make of it. The
transcripts of a run are what its workers have noted for each number since it was last cleared.

* `asked_recent`: ChatGPT is asked with the system prompt and the end of the transcript at the time
  when the message was noted.
* `replied_recorded`: a reply is what came of asking about its message, and was noted if the number
  had a history by then, or it tells how many messages were cleared.
* `asked_inTurn`: as long as no call replaces a queue, user and assistant take turns.
-/

namespace SmsServer.Chatgpt

open RustStd Machine

namespace Transcripts

/-- The transcripts after an effect. -/
def after (self : Transcripts) : Effect → Transcripts
  | .noted phoneNumber message => self.note phoneNumber message
  | .notedReply phoneNumber message => self.noteReply phoneNumber message
  | .cleared phoneNumber => self.clear phoneNumber
  | _ => self

end Transcripts

/-- What a run has noted for each number. -/
def transcripts (t : List Effect) : Transcripts := t.foldl Transcripts.after fun _ => none

theorem transcripts_append (t out : List Effect) :
    transcripts (t ++ out) = out.foldl Transcripts.after (transcripts t) :=
  List.foldl_append

namespace Server

variable {D : DashMaps} {s s' : Server D} {input : Input} {out t : List Effect}
  {h : List (Server D × Input)}

/-! ### The histories -/

theorem WorkerMove.histories {i : ℕ} {histories histories' : MessageHistory} {q q' : Queue}
    (hwork : WorkerMove i histories q q' histories' out) {self : Transcripts}
    (hself : histories.lookup = self.recent) :
    histories'.lookup = (out.foldl Transcripts.after self).recent := by
  cases hwork with
  | cleared => exact MessageHistory.lookup_clearHistory hself
  | noted => exact (MessageHistory.lookup_addMessageAndGetHistory hself).1
  | notedReply => exact MessageHistory.lookup_addMessage hself
  | _ => exact hself

/-- The histories have the ends of the transcripts. -/
theorem run_histories (hrun : Run step Server.new h s t) :
    s.messageHistory.lookup = (transcripts t).recent := by
  refine hrun.induct (P := fun _ s t => s.messageHistory.lookup = (transcripts t).recent) ?_ ?_
  · funext phoneNumber
    exact AList.lookup_empty phoneNumber
  · intro h s t input s' out _ ih hstep
    rw [transcripts_append]
    cases step_move hstep with
    | worked i outcome q q' histories out hq hwork => exact hwork.histories ih
    | _ => exact ih

/-- A property of the stages holds after a step if it holds of those of workers without a message,
of a worker that has moved and of those that have not. -/
theorem Move.forall_stage {P P' : WorkerStage → Prop} (hmove : Move s input s' out)
    (hkept : ∀ stage, P stage → P' stage) (hnone : ∀ stage, stage.task? = none → P' stage)
    (hworked : ∀ i q q' histories, WorkerMove i s.messageHistory q q' histories out →
      P q.stage → P' q'.stage)
    (hP : ∀ q ∈ s.queues, P q.stage) : ∀ q ∈ s'.queues, P' q.stage := by
  intro q hmem
  cases hmove with
  | created i task hcall =>
    rcases List.mem_append.mp hmem with hmem | hmem
    · exact hkept q.stage (hP q hmem)
    · obtain rfl := List.mem_singleton.mp hmem
      exact hnone _ rfl
  | accepted i task queue q' hcall hq =>
    rcases List.mem_or_eq_of_mem_set hmem with hmem | rfl
    · exact hkept q.stage (hP q hmem)
    · exact hkept q'.stage (hP q' (List.mem_of_getElem? hq))
  | worked i outcome q₀ q' histories out hq hwork =>
    rcases List.mem_or_eq_of_mem_set hmem with hmem | rfl
    · exact hkept q.stage (hP q hmem)
    · exact hworked i q₀ q histories hwork (hP q₀ (List.mem_of_getElem? hq))
  | closed i outcome phoneNumber hq | ended i outcome phoneNumber waiting hq =>
    rcases List.mem_or_eq_of_mem_set hmem with hmem | rfl
    · exact hkept q.stage (hP q hmem)
    · exact hnone _ rfl
  | _ => exact hkept q.stage (hP q hmem)

/-! ### What is asked and replied -/

/-- The message of the task was noted, and these were the last messages then. -/
def WasNoted (t : List Effect) (task : MessageTask) (messages : List ChatMessage) : Prop :=
  ∃ before later, t = before ++ .noted task.phoneNumber task.message :: later ∧
    messages =
      ((transcripts before task.phoneNumber).getD [] ++ [task.message]).rtake historyLimit

/-- The history was cleared for the task, and the reply tells of how many messages. -/
def WasCleared (t : List Effect) (task : MessageTask) (reply : Str) : Prop :=
  ∃ before later, t = before ++ .cleared task.phoneNumber :: later ∧
    reply = clearedReply
      (min ((transcripts before task.phoneNumber).getD []).length historyLimit)

/-- The reply is what came of asking about the task, and it was noted if the number had a
transcript by then. -/
def WasAnswered (t : List Effect) (task : MessageTask) (reply : Str) : Prop :=
  ∃ before later request, Effect.asked task request reply ∈ before ∧
    ((transcripts before task.phoneNumber).isSome ∧
        t = before ++ .notedReply task.phoneNumber ⟨"assistant".toList, reply⟩ :: later ∨
      transcripts before task.phoneNumber = none ∧ t = before ++ later)

/-- The reply to the task is what was recorded. -/
def ReplyRecorded (t : List Effect) (task : MessageTask) (reply : Str) : Prop :=
  (trim task.messageContent = "#".toList ∧ WasCleared t task reply) ∨
    (trim task.messageContent ≠ "#".toList ∧ WasAnswered t task reply)

/-- What a worker carries follows from what has happened. -/
def Follows (t : List Effect) : WorkerStage → Prop
  | .asking task messages => trim task.messageContent ≠ "#".toList ∧ WasNoted t task messages
  | .answered task reply =>
    trim task.messageContent ≠ "#".toList ∧ ∃ request, Effect.asked task request reply ∈ t
  | .replying task reply => ReplyRecorded t task reply
  | _ => True

theorem WasNoted.append {task : MessageTask} {messages : List ChatMessage}
    (hnoted : WasNoted t task messages) : WasNoted (t ++ out) task messages := by
  obtain ⟨before, later, rfl, hmessages⟩ := hnoted
  exact ⟨before, later ++ out, by simp, hmessages⟩

theorem ReplyRecorded.append {task : MessageTask} {reply : Str}
    (hreply : ReplyRecorded t task reply) : ReplyRecorded (t ++ out) task reply := by
  obtain ⟨hclear, before, later, rfl, hcount⟩ | ⟨hclear, before, later, request, hmem, hnoted⟩ :=
    hreply
  · exact .inl ⟨hclear, before, later ++ out, by simp, hcount⟩
  · refine .inr ⟨hclear, before, later ++ out, request, hmem, ?_⟩
    rcases hnoted with ⟨hsome, rfl⟩ | ⟨hnone, rfl⟩
    · exact .inl ⟨hsome, by simp⟩
    · exact .inr ⟨hnone, by simp⟩

theorem Follows.append {stage : WorkerStage} (hfollows : Follows t stage) :
    Follows (t ++ out) stage := by
  cases stage with
  | asking task messages => exact hfollows.imp_right WasNoted.append
  | answered task reply =>
    obtain ⟨hclear, request, hmem⟩ := hfollows
    exact ⟨hclear, request, List.mem_append_left out hmem⟩
  | replying task reply => exact ReplyRecorded.append hfollows
  | _ => exact hfollows

theorem WorkerMove.follows {i : ℕ} {histories histories' : MessageHistory} {q q' : Queue}
    (hwork : WorkerMove i histories q q' histories' out)
    (hhistories : histories.lookup = (transcripts t).recent) (hfollows : Follows t q.stage) :
    Follows (t ++ out) q'.stage := by
  cases hwork with
  | took phoneNumber task waiting => trivial
  | cleared phoneNumber task waiting hclear =>
    refine .inl ⟨hclear, t, [], rfl, ?_⟩
    have hlookup : histories.lookup task.phoneNumber = _ :=
      MessageHistory.lookup_eq_recent hhistories
    rw [MessageHistory.clearHistory, hlookup]
    cases transcripts t task.phoneNumber with
    | none => rfl
    | some messages =>
      simp only [Option.map_some, Option.getD_some, List.rtake_eq_reverse_take_reverse,
        List.length_reverse, List.length_take, Nat.min_comm historyLimit]
  | noted phoneNumber task waiting hclear =>
    exact ⟨hclear, t, [], rfl, (MessageHistory.lookup_addMessageAndGetHistory hhistories).2⟩
  | asked phoneNumber task waiting messages reply =>
    exact ⟨hfollows.1, allMessages messages, by simp⟩
  | notedReply phoneNumber task waiting reply hhistory =>
    obtain ⟨hclear, request, hmem⟩ := hfollows
    rw [MessageHistory.lookup_eq_recent hhistories, Option.isSome_map] at hhistory
    exact .inr ⟨hclear, t, [], request, hmem, .inl ⟨hhistory, rfl⟩⟩
  | unnoted phoneNumber task waiting reply hhistory =>
    obtain ⟨hclear, request, hmem⟩ := hfollows
    rw [MessageHistory.lookup_eq_recent hhistories, Option.map_eq_none_iff] at hhistory
    exact .inr ⟨hclear, t, [], request, hmem, .inr ⟨hhistory, rfl⟩⟩
  | replied phoneNumber task waiting reply => trivial

theorem run_follows (hrun : Run step Server.new h s t) : ∀ q ∈ s.queues, Follows t q.stage := by
  refine hrun.induct (P := fun _ s t => ∀ q ∈ s.queues, Follows t q.stage)
    (fun q hmem => by cases hmem) ?_
  intro h s t input s' out hrun ih hstep
  refine (step_move hstep).forall_stage (fun stage hstage => hstage.append) ?_ ?_ ih
  · intro stage hnone
    cases stage with
    | asking task messages | answered task reply | replying task reply => cases hnone
    | _ => trivial
  · intro i q q' histories hwork hfollows
    exact hwork.follows (run_histories hrun) hfollows

/-- **The request.** Whatever order the workers run in, what ChatGPT is asked with is the system
prompt and the last twenty messages of the transcript of the number, as it was when the message was
noted, with that message at its end. -/
theorem asked_recent (hrun : Run step Server.new h s t) {task : MessageTask}
    {request : List ChatMessage} {reply : Str} (hmem : Effect.asked task request reply ∈ t) :
    ∃ before later, t = before ++ .noted task.phoneNumber task.message :: later ∧
      Effect.asked task request reply ∈ later ∧
      request = allMessages
        (((transcripts before task.phoneNumber).getD [] ++ [task.message]).rtake historyLimit) := by
  refine hrun.induct (P := fun _ _ t => Effect.asked task request reply ∈ t → ∃ before later,
    t = before ++ .noted task.phoneNumber task.message :: later ∧
      Effect.asked task request reply ∈ later ∧ request = allMessages
        (((transcripts before task.phoneNumber).getD [] ++ [task.message]).rtake historyLimit))
    (fun hmem => by cases hmem) ?_ hmem
  intro h s t input s' out hrun ih hstep hmem
  rcases List.mem_append.mp hmem with hmem | hmem
  · obtain ⟨before, later, rfl, hasked, hrequest⟩ := ih hmem
    exact ⟨before, later ++ out, by simp, List.mem_append_left out hasked, hrequest⟩
  · cases step_move hstep with
    | worked i outcome q q' histories out hq hwork =>
      have hfollows := run_follows hrun q (List.mem_of_getElem? hq)
      cases hwork with
      | asked phoneNumber task' waiting messages reply' =>
        obtain ⟨rfl, rfl, rfl⟩ :
            task = task' ∧ request = allMessages messages ∧ reply = reply' := by
          simpa using hmem
        obtain ⟨-, before, later, rfl, hmessages⟩ := hfollows
        exact ⟨before, later ++ [.asked task (allMessages messages) reply], by simp, by simp,
          congrArg allMessages hmessages⟩
      | _ => simp at hmem
    | _ => simp at hmem

/-- A first message. -/
theorem asked_recent_first :
    let task : MessageTask := ⟨"+1".toList, "Hi".toList⟩
    let request := allMessages [task.message]
    ∃ (h : List (Server .ofAList × Input)) (s : Server .ofAList) (t : List Effect),
      Run step Server.new h s t ∧
      Effect.asked task request "Hello".toList ∈ t ∧
      ∃ before later, t = before ++ .noted task.phoneNumber task.message :: later ∧
        Effect.asked task request "Hello".toList ∈ later ∧
        request = allMessages
          (((transcripts before task.phoneNumber).getD [] ++ [task.message]).rtake
            historyLimit) := by
  intro task request
  let response : CompletionResponse :=
    ⟨"200 OK".toList, true, none, .ok [⟨"assistant".toList, "Hello".toList⟩]⟩
  obtain ⟨s, t, -, hrun, ht⟩ := Run.of_execute step (Server.new (D := .ofAList))
    [.webhook ⟨"incoming".toList, "+1".toList, "Hi ".toList⟩, .call 0, .call 0, .call 0,
      .worker 0 (.error []), .worker 0 (.error []), .worker 0 (.ok response)]
    Prod.snd (b := [.accepted 0 task, .responded 200 none, .noted "+1".toList task.message,
      .asked task request "Hello".toList]) rfl
  obtain rfl : t = _ := ht
  exact ⟨_, s, _, hrun, by simp, asked_recent hrun (by simp)⟩

/-- **The reply.** By the time it is sent, the reply to a message has come of asking about it, and
was noted if the number had a history then; or, for `#`, it tells how many messages the history had
when it was cleared. -/
theorem replied_recorded (hrun : Run step Server.new h s t) {queue : ℕ} {task : MessageTask}
    {reply : Str} {before later : List Effect}
    (heq : t = before ++ .replied queue task reply :: later) : ReplyRecorded before task reply := by
  refine hrun.induct (P := fun _ _ t => ∀ later, t = before ++ .replied queue task reply :: later →
    ReplyRecorded before task reply) (fun later heq => ?_) ?_ later heq
  · simp at heq
  intro h s t input s' out hrun ih hstep later heq
  -- a step that sends the reply does nothing else
  have hsent : ∀ rest, out = rest ++ .replied queue task reply :: later →
      rest = [] ∧ ReplyRecorded t task reply := by
    intro rest hout
    cases step_move hstep with
    | worked i outcome q q' histories out hq hwork =>
      have hfollows := run_follows hrun q (List.mem_of_getElem? hq)
      cases hwork with
      | replied phoneNumber task' waiting reply' =>
        obtain ⟨rfl, ⟨-, rfl, rfl⟩, -⟩ :
            rest = [] ∧ (queue = i ∧ task = task' ∧ reply = reply') ∧ later = [] := by
          simpa [List.cons_eq_append_iff] using hout
        exact ⟨rfl, hfollows⟩
      | _ => simp [List.cons_eq_append_iff] at hout
    | _ => simp [List.cons_eq_append_iff] at hout
  rcases List.append_eq_append_iff.mp heq with ⟨rest, rfl, hout⟩ | ⟨rest, rfl, hrest⟩
  · obtain ⟨rfl, hrecorded⟩ := hsent rest hout
    rwa [List.append_nil]
  · cases rest with
    | nil =>
      rw [List.append_nil] at hsent
      exact (hsent [] hrest.symm).2
    | cons effect rest =>
      obtain ⟨rfl, -⟩ := List.cons.inj hrest
      exact ih rest rfl

/-- The history is cleared by another worker while ChatGPT is asked: the answer is sent, and not
noted. -/
theorem replied_recorded_cleared :
    let task : MessageTask := ⟨"+1".toList, "Hi".toList⟩
    ∃ (h : List (Server .ofAList × Input)) (s : Server .ofAList) (before : List Effect),
      Run step Server.new h s (before ++ [.replied 0 task "Hello".toList]) ∧
      (∀ message, Effect.notedReply task.phoneNumber message ∉ before) ∧
      ReplyRecorded before task "Hello".toList := by
  intro task
  let clear : MessageTask := ⟨"+1".toList, "#".toList⟩
  let response : CompletionResponse :=
    ⟨"200 OK".toList, true, none, .ok [⟨"assistant".toList, "Hello".toList⟩]⟩
  let before : List Effect := [.accepted 0 task, .responded 200 none, .accepted 1 clear,
    .responded 200 none, .noted "+1".toList task.message, .cleared "+1".toList,
    .asked task (allMessages [task.message]) "Hello".toList]
  obtain ⟨s, t, -, hrun, ht⟩ := Run.of_execute step (Server.new (D := .ofAList))
    [.webhook ⟨"incoming".toList, "+1".toList, "Hi".toList⟩,
      .webhook ⟨"incoming".toList, "+1".toList, "#".toList⟩, .call 0, .call 1, .call 0, .call 1,
      .call 0, .call 1, .worker 0 (.error []), .worker 0 (.error []), .worker 1 (.error []),
      .worker 1 (.error []), .worker 0 (.ok response), .worker 0 (.error []),
      .worker 0 (.error [])] Prod.snd (b := before ++ [.replied 0 task "Hello".toList]) rfl
  obtain rfl : t = before ++ [.replied 0 task "Hello".toList] := ht
  exact ⟨_, s, before, hrun, by simp [before], replied_recorded hrun rfl⟩

end Server

/-! ### Turns -/

/-- User and assistant take turns, and `role` had the last. -/
structure TakesTurns (role : Str) (messages : List ChatMessage) : Prop where
  turns : messages.IsChain fun first second => first.role ≠ second.role
  roles : ∀ message ∈ messages,
    message.role = "user".toList ∨ message.role = "assistant".toList
  last : ∃ message, messages.getLast? = some message ∧ message.role = role

namespace TakesTurns

variable {role : Str} {messages : List ChatMessage}

theorem singleton {message : ChatMessage}
    (hrole : message.role = "user".toList ∨ message.role = "assistant".toList) :
    TakesTurns message.role [message] where
  turns := .singleton message
  roles := List.forall_mem_singleton.mpr hrole
  last := ⟨message, rfl, rfl⟩

theorem append (hturns : TakesTurns role messages) {message : ChatMessage}
    (hrole : message.role = "user".toList ∨ message.role = "assistant".toList)
    (hne : role ≠ message.role) : TakesTurns message.role (messages ++ [message]) where
  turns := by
    obtain ⟨last, hlast, rfl⟩ := hturns.last
    refine hturns.turns.append (.singleton message) fun first hfirst second hsecond => ?_
    obtain rfl := Option.some.inj (hlast.symm.trans hfirst)
    obtain rfl := Option.some.inj hsecond
    exact hne
  roles := List.forall_mem_append.mpr ⟨hturns.roles, List.forall_mem_singleton.mpr hrole⟩
  last := ⟨message, List.getLast?_concat, rfl⟩

theorem rtake (hturns : TakesTurns role messages) (n : ℕ) (hn : 0 < n) :
    TakesTurns role (messages.rtake n) where
  turns := hturns.turns.suffix (List.drop_suffix _ messages)
  roles message hmem := hturns.roles message (List.mem_of_mem_drop hmem)
  last := by
    obtain ⟨last, hlast, hrole⟩ := hturns.last
    obtain ⟨before, rfl⟩ := List.getLast?_eq_some_iff.mp hlast
    refine ⟨last, ?_, hrole⟩
    obtain ⟨n, rfl⟩ := Nat.exists_eq_succ_of_ne_zero hn.ne'
    rw [List.rtake_concat_succ]
    exact List.getLast?_concat

end TakesTurns

namespace Server

variable {D : DashMaps} {s s' : Server D} {input : Input} {out t : List Effect}
  {h : List (Server D × Input)}

/-- Whose turn it is while the worker of a number is at a stage: the user's until its message was
noted, then the assistant's until the reply was noted. -/
def InTurn (transcript : Option (List ChatMessage)) : WorkerStage → Prop
  | .asking _ messages =>
    TakesTurns "user".toList messages ∧
      ∃ noted, transcript = some noted ∧ TakesTurns "user".toList noted
  | .answered _ _ => ∃ noted, transcript = some noted ∧ TakesTurns "user".toList noted
  | _ => ∀ noted, transcript = some noted → TakesTurns "assistant".toList noted

/-- The user's message continues what was noted. -/
theorem takesTurns_note {transcript : Option (List ChatMessage)} (task : MessageTask)
    (hturn : ∀ noted, transcript = some noted → TakesTurns "assistant".toList noted) :
    TakesTurns "user".toList (transcript.getD [] ++ [task.message]) := by
  have hrole : task.message.role = "user".toList ∨ task.message.role = "assistant".toList :=
    .inl rfl
  have hne : "assistant".toList ≠ task.message.role := by
    show "assistant".toList ≠ "user".toList
    decide
  cases transcript with
  | none => exact TakesTurns.singleton hrole
  | some noted => exact (hturn noted rfl).append hrole hne

/-- A step of the worker of a number keeps the turns of its conversation. -/
theorem WorkerMove.inTurn {i : ℕ} {histories histories' : MessageHistory} {q q' : Queue}
    (hwork : WorkerMove i histories q q' histories' out) {self : Transcripts}
    (hhistories : histories.lookup = self.recent)
    (hnumber : ∀ task, q.stage.task? = some task → task.phoneNumber = q.phoneNumber)
    (hturn : InTurn (self q.phoneNumber) q.stage) :
    InTurn ((out.foldl Transcripts.after self) q.phoneNumber) q'.stage := by
  cases hwork with
  | took phoneNumber task waiting => exact hturn
  | cleared phoneNumber task waiting hclear =>
    obtain rfl := hnumber task rfl
    intro noted hnoted
    cases (Function.update_self (f := self) ..).symm.trans hnoted
  | noted phoneNumber task waiting hclear =>
    obtain rfl := hnumber task rfl
    have hnoted := takesTurns_note task hturn
    refine ⟨?_, _, Function.update_self .., hnoted⟩
    rw [(MessageHistory.lookup_addMessageAndGetHistory hhistories).2]
    exact hnoted.rtake historyLimit (by decide)
  | asked phoneNumber task waiting messages reply => exact hturn.2
  | notedReply phoneNumber task waiting reply hhistory =>
    obtain rfl := hnumber task rfl
    obtain ⟨noted, hnoted, hturns⟩ := hturn
    intro noted' hnoted'
    let message : ChatMessage := ⟨"assistant".toList, reply⟩
    have hupdate : some (noted ++ [message]) = some noted' := by
      rw [← hnoted']
      show _ = Function.update self _ _ _
      rw [Function.update_self, hnoted]
      rfl
    obtain rfl := Option.some.inj hupdate
    have hne : "user".toList ≠ message.role := by
      show "user".toList ≠ "assistant".toList
      decide
    exact hturns.append (.inr rfl) hne
  | unnoted phoneNumber task waiting reply hhistory =>
    -- the message of the user is in the history
    obtain rfl := hnumber task rfl
    obtain ⟨noted, hnoted, -⟩ := hturn
    rw [MessageHistory.lookup_eq_recent hhistories, Option.map_eq_none_iff] at hhistory
    cases hhistory.symm.trans hnoted
  | replied phoneNumber task waiting reply => exact hturn

/-- A worker notes nothing for other numbers. -/
theorem WorkerMove.transcripts_ne {i : ℕ} {histories histories' : MessageHistory} {q q' : Queue}
    (hwork : WorkerMove i histories q q' histories' out) (self : Transcripts)
    (hnumber : ∀ task, q.stage.task? = some task → task.phoneNumber = q.phoneNumber)
    {phoneNumber : Str} (hne : phoneNumber ≠ q.phoneNumber) :
    (out.foldl Transcripts.after self) phoneNumber = self phoneNumber := by
  cases hwork with
  | cleared number task waiting hclear | noted number task waiting hclear =>
    obtain rfl := hnumber task rfl
    exact Function.update_of_ne hne ..
  | notedReply number task waiting reply =>
    obtain rfl := hnumber task rfl
    exact Function.update_of_ne hne ..
  | _ => rfl

/-- What a worker has taken is for the number of its queue. -/
theorem run_task_number (hrun : Run step Server.new h s t) {queue : ℕ} {q : Queue}
    (hq : s.queues[queue]? = some q) {task : MessageTask} (htask : q.stage.task? = some task) :
    task.phoneNumber = q.phoneNumber := by
  have haccepted : task ∈ acceptedBy queue t := by
    rw [← run_accounted hrun queue, pending_eq hq, Queue.pending, htask]
    simp
  have hnumber := run_accepted_numbers hrun (mem_acceptedBy.mp haccepted)
  exact Option.some.inj (hnumber.symm.trans (getElem?_numbers hq))

/-- Every conversation is in turn, and there is one only for numbers that have a queue. -/
structure Conversing (s : Server D) (t : List Effect) : Prop where
  inTurn : ∀ q ∈ s.queues, InTurn (transcripts t q.phoneNumber) q.stage
  others : ∀ phoneNumber, phoneNumber ∉ s.numbers → transcripts t phoneNumber = none

theorem Conversing.of_worked {i : ℕ} {histories : MessageHistory} {q q' : Queue}
    (hconversing : Conversing s t) (hrun : Run step Server.new h s t)
    (hq : s.queues[i]? = some q) (hwork : WorkerMove i s.messageHistory q q' histories out)
    (hlisted : ({ s.setQueue i q' with messageHistory := histories } : Server D).Listed) :
    Conversing { s.setQueue i q' with messageHistory := histories } (t ++ out) := by
  have hnumber : ∀ task, q.stage.task? = some task → task.phoneNumber = q.phoneNumber :=
    fun _ htask => run_task_number hrun hq htask
  have hmem : q ∈ s.queues := List.mem_of_getElem? hq
  have hlt : i < s.queues.length := (List.getElem?_eq_some_iff.mp hq).1
  refine ⟨fun q₁ hmem₁ => ?_, fun phoneNumber hnone => ?_⟩
  · rw [transcripts_append]
    by_cases heq : q₁.phoneNumber = q.phoneNumber
    · -- the queue that has moved is the only one for its number
      have hnumbers : q₁.phoneNumber = q'.phoneNumber := heq.trans hwork.worksOn.phoneNumber.symm
      obtain rfl := hlisted.eq_of_phoneNumber_eq hmem₁ (List.mem_set hlt q') hnumbers
      rw [heq]
      exact hwork.inTurn (run_histories hrun) hnumber (hconversing.inTurn q hmem)
    · rw [hwork.transcripts_ne _ hnumber heq]
      rcases List.mem_or_eq_of_mem_set hmem₁ with hmem₁ | rfl
      · exact hconversing.inTurn q₁ hmem₁
      · exact absurd hwork.worksOn.phoneNumber heq
  · replace hnone : phoneNumber ∉ s.numbers := by
      rwa [numbers, ← map_phoneNumber_set hq hwork.worksOn.phoneNumber]
    have hne : phoneNumber ≠ q.phoneNumber := by
      rintro rfl
      exact hnone (List.mem_map_of_mem hmem)
    rw [transcripts_append, hwork.transcripts_ne _ hnumber hne]
    exact hconversing.others phoneNumber hnone

theorem run_conversing (hrun : Run step Server.new h s t)
    (hreplaces : ∀ p ∈ h, p.1.replaces p.2 = false) : Conversing s t := by
  refine hrun.induct (P := fun h s t => (∀ p ∈ h, p.1.replaces p.2 = false) → Conversing s t)
    (fun _ => ⟨fun q hmem => (by cases hmem), fun _ _ => rfl⟩) ?_ hreplaces
  intro h s t input s' out hrun ih hstep hreplaces
  have hlisted' := run_listed (hrun.next hstep) hreplaces
  obtain ⟨hbefore, hlast⟩ := List.forall_mem_append.mp hreplaces
  have hlisted := run_listed hrun hbefore
  obtain ⟨hturns, hnone⟩ := ih hbefore
  have hmove := step_move hstep
  -- only workers note anything
  have hothers : transcripts (t ++ out) = transcripts t →
      ∀ phoneNumber, phoneNumber ∉ s'.numbers → transcripts (t ++ out) phoneNumber = none := by
    intro heq phoneNumber hnumber
    obtain ⟨created, hnumbers⟩ := hmove.numbers
    rw [heq]
    exact hnone phoneNumber fun hmem => hnumber (hnumbers ▸ List.mem_append_left created hmem)
  cases hmove with
  | worked i outcome q q' histories out hq hwork =>
    exact Conversing.of_worked ⟨hturns, hnone⟩ hrun hq hwork hlisted'
  | created i task hcall =>
    have heq : transcripts (t ++ []) = transcripts t := transcripts_append t []
    refine ⟨fun q hmem => ?_, hothers heq⟩
    rw [heq]
    rcases List.mem_append.mp hmem with hmem | hmem
    · exact hturns q hmem
    · obtain rfl := List.mem_singleton.mp hmem
      have hnew : task.phoneNumber ∉ s.numbers :=
        hlisted.not_mem_of_created hcall (hlast _ (List.mem_singleton_self _))
      intro noted hnoted
      cases (hnone task.phoneNumber hnew).symm.trans hnoted
  | accepted i task queue q hcall hq =>
    have heq := transcripts_append t [.accepted queue task, .responded 200 none]
    refine ⟨fun q₁ hmem => ?_, hothers heq⟩
    rw [heq]
    rcases List.mem_or_eq_of_mem_set hmem with hmem | rfl
    · exact hturns q₁ hmem
    · exact hturns q (List.mem_of_getElem? hq)
  | closed i outcome phoneNumber hq | ended i outcome phoneNumber waiting hq =>
    have heq : transcripts (t ++ []) = transcripts t := transcripts_append t []
    refine ⟨fun q₁ hmem => ?_, hothers heq⟩
    rw [heq]
    rcases List.mem_or_eq_of_mem_set hmem with hmem | rfl
    · exact hturns q₁ hmem
    · have hturn := hturns _ (List.mem_of_getElem? hq)
      exact hturn
  | refused payload status error =>
    have heq := transcripts_append t [.responded status error]
    exact ⟨fun q hmem => heq ▸ hturns q hmem, hothers heq⟩
  | dropped i task queue q hcall hq =>
    have heq := transcripts_append t [.responded 500 (some "Failed to queue message".toList)]
    exact ⟨fun q hmem => heq ▸ hturns q hmem, hothers heq⟩
  | _ =>
    have heq : transcripts (t ++ []) = transcripts t := transcripts_append t []
    exact ⟨fun q hmem => heq ▸ hturns q hmem, hothers heq⟩

/-- **In turn.** As long as no call replaces a queue, however the workers run, ChatGPT is asked with
a conversation in which user and assistant take turns, the user having the last, and what is noted
for a number is one. -/
theorem asked_inTurn (hrun : Run step Server.new h s t)
    (hreplaces : ∀ p ∈ h, p.1.replaces p.2 = false) :
    (∀ task request reply, Effect.asked task request reply ∈ t →
      ∃ messages, request = allMessages messages ∧ TakesTurns "user".toList messages) ∧
    ∀ phoneNumber noted, transcripts t phoneNumber = some noted →
      TakesTurns "user".toList noted ∨ TakesTurns "assistant".toList noted := by
  refine ⟨fun task request reply => ?_, fun phoneNumber noted hnoted => ?_⟩
  · refine hrun.induct (P := fun h _ t => (∀ p ∈ h, p.1.replaces p.2 = false) →
      Effect.asked task request reply ∈ t → ∃ messages, request = allMessages messages ∧
        TakesTurns "user".toList messages) (fun _ hmem => by cases hmem) ?_ hreplaces
    intro h s t input s' out hrun ih hstep hreplaces hmem
    obtain ⟨hbefore, -⟩ := List.forall_mem_append.mp hreplaces
    rcases List.mem_append.mp hmem with hmem | hmem
    · exact ih hbefore hmem
    · cases step_move hstep with
      | worked i outcome q q' histories out hq hwork =>
        have hturn := (run_conversing hrun hbefore).inTurn q (List.mem_of_getElem? hq)
        cases hwork with
        | asked phoneNumber task' waiting messages reply' =>
          obtain ⟨-, rfl, -⟩ : task = task' ∧ request = allMessages messages ∧ reply = reply' := by
            simpa using hmem
          exact ⟨messages, rfl, hturn.1⟩
        | _ => simp at hmem
      | _ => simp at hmem
  · obtain ⟨hturns, hnone⟩ := run_conversing hrun hreplaces
    by_cases hmem : phoneNumber ∈ s.numbers
    · obtain ⟨q, hq, rfl⟩ := List.mem_map.mp hmem
      have hturn := hturns q hq
      cases hstage : q.stage with
      | asking task messages =>
        rw [hstage] at hturn
        obtain ⟨-, noted', hnoted', hturns'⟩ := hturn
        obtain rfl := Option.some.inj (hnoted.symm.trans hnoted')
        exact .inl hturns'
      | answered task reply =>
        rw [hstage] at hturn
        obtain ⟨noted', hnoted', hturns'⟩ := hturn
        obtain rfl := Option.some.inj (hnoted.symm.trans hnoted')
        exact .inl hturns'
      | _ =>
        rw [hstage] at hturn
        exact .inr (hturn noted hnoted)
    · cases (hnone phoneNumber hmem).symm.trans hnoted

/-- Two messages, the second sent while the first is asked about. -/
theorem asked_inTurn_twoMessages :
    ∃ (h : List (Server .ofAList × Input)) (s : Server .ofAList) (t : List Effect),
      Run step Server.new h s t ∧
      transcripts t "+1".toList = some [⟨"user".toList, "Hi".toList⟩,
        ⟨"assistant".toList, "Hello".toList⟩, ⟨"user".toList, "Bye".toList⟩] ∧
      (∀ task request reply, Effect.asked task request reply ∈ t →
        ∃ messages, request = allMessages messages ∧ TakesTurns "user".toList messages) ∧
      ∀ phoneNumber noted, transcripts t phoneNumber = some noted →
        TakesTurns "user".toList noted ∨ TakesTurns "assistant".toList noted := by
  let completion (content : Str) : CompletionResponse :=
    ⟨"200 OK".toList, true, none, .ok [⟨"assistant".toList, content⟩]⟩
  let inputs : List Input :=
    [.webhook ⟨"incoming".toList, "+1".toList, "Hi".toList⟩, .call 0, .call 0, .call 0,
      .worker 0 (.error []), .worker 0 (.error []),
      .webhook ⟨"incoming".toList, "+1".toList, "Bye".toList⟩, .call 1, .call 1,
      .worker 0 (.ok (completion "Hello".toList)), .worker 0 (.error []), .worker 0 (.error []),
      .worker 0 (.error []), .worker 0 (.error []), .worker 0 (.ok (completion "See you".toList))]
  obtain ⟨s, t, -, hrun, hnoted⟩ := Run.of_execute step (Server.new (D := .ofAList)) inputs
    (fun r => transcripts r.2 "+1".toList) (b := some [⟨"user".toList, "Hi".toList⟩,
      ⟨"assistant".toList, "Hello".toList⟩, ⟨"user".toList, "Bye".toList⟩]) (by decide +kernel)
  have hall : (history step (Server.new (D := .ofAList)) inputs).all
      (fun p => !p.1.replaces p.2) = true := by
    decide +kernel
  have hreplaces : ∀ p ∈ history step (Server.new (D := .ofAList)) inputs,
      p.1.replaces p.2 = false := by
    simpa using hall
  exact ⟨_, s, t, hrun, hnoted, asked_inTurn hrun hreplaces⟩

/-- Where a queue was replaced, the user may have two turns in a row. -/
example :
    (execute step (Server.new (D := .ofAList))
      [.webhook ⟨"incoming".toList, "+1".toList, "Hi".toList⟩,
        .webhook ⟨"incoming".toList, "+1".toList, "Bye".toList⟩, .call 0, .call 1, .call 0,
        .call 1, .call 0, .call 1, .worker 0 (.error []), .worker 1 (.error []),
        .worker 0 (.error []), .worker 1 (.error [])]).map (fun r => transcripts r.2 "+1".toList) =
      some (some [⟨"user".toList, "Hi".toList⟩, ⟨"user".toList, "Bye".toList⟩]) := by
  decide +kernel

end Server

end SmsServer.Chatgpt
