import SmsServer.Chatgpt.History
import SmsServer.Library.DashMap
import SmsServer.Library.Machine

/-!
# The queues of the ChatGPT example

`http_webhook`, `get_or_create_queue`, the workers and `process_message` of `examples/chatgpt-sms`,
which "queues incoming messages to preserve response order". Calls of the webhook run beside each
other and beside the workers, so the lookup of a queue and the insertion of a new one are two steps,
and of two calls that both find no queue the second replaces the queue of the first.

* `answered_once`: no message is lost by that. Each queue answers what was accepted into it, in
  order and once each, and no call finds a queue whose worker is gone.
* `settles`: when no more messages come, all that was accepted is answered after a bounded number
  of steps, and of the workers only those remain whose queue is in the map.
-/

namespace SmsServer.Chatgpt

open RustStd Machine

structure WebhookPayload where
  webhookType : Str
  phoneNumber : Str
  messageContent : Str
  deriving DecidableEq, Repr

structure MessageTask where
  phoneNumber : Str
  messageContent : Str
  deriving DecidableEq, Repr

/-- The task for a webhook that passes the checks of `http_webhook`. -/
def WebhookPayload.task? (self : WebhookPayload) : Option MessageTask :=
  if self.webhookType ≠ "incoming".toList ∨ ¬ startsWith self.phoneNumber "+".toList then none
  else some ⟨self.phoneNumber, trim self.messageContent⟩

/-- `incoming_message` of `process_message`. -/
def MessageTask.message (self : MessageTask) : ChatMessage :=
  { role := "user".toList, content := self.messageContent }

inductive AppError
  | missingEnvironmentVariable (name : Str)
  | openAI (message : Str)
  | sms (message : Str)
  | network (error : Str)
  | serialization (error : Str)
  deriving DecidableEq, Repr

/-- The response to a completion request: the texts of its status and body, and what the body is
read as, of which only the messages of the choices are used. -/
structure CompletionResponse where
  status : Str
  isSuccess : Bool
  text : Option Str
  choices : Except Str (List ChatMessage)

/-- What `get_reply` makes of the outcome of its request. -/
def getReply : Except Str CompletionResponse → Except AppError Str
  | .ok response =>
    if response.isSuccess then
      match response.choices with
      | .ok (choice :: _) => .ok choice.content
      | .ok [] => .error (.openAI "No choices in response".toList)
      | .error e => .error (.openAI ("Parse error: ".toList ++ e))
    else
      .error (.openAI (response.status ++ ": ".toList ++
        response.text.getD "Unknown error".toList))
  | .error e => .error (.network e)

/-- The reply of `process_message` where `get_reply` failed. -/
def AppError.apology : AppError → Str
  | openAI _ => "Sorry, the AI service is currently unavailable!".toList
  | network _ => "Sorry, I couldn't connect to the AI service!".toList
  | _ => "Sorry, there was an error processing your message!".toList

/-- `get_reply` fails in two ways only, so of the apologies the last is never sent. -/
theorem getReply_error {outcome : Except Str CompletionResponse} {e : AppError}
    (h : getReply outcome = .error e) :
    (∃ message, e = .openAI message) ∨ ∃ error, e = .network error := by
  cases outcome with
  | error error =>
    cases h
    exact .inr ⟨error, rfl⟩
  | ok response =>
    simp only [getReply] at h
    split at h
    · split at h
      · cases h
      · cases h
        exact .inl ⟨_, rfl⟩
      · cases h
        exact .inl ⟨_, rfl⟩
    · cases h
      exact .inl ⟨_, rfl⟩

/-- The reply of `process_message`. -/
def replyFor (outcome : Except Str CompletionResponse) : Str :=
  match getReply outcome with
  | .ok reply => reply
  | .error e => e.apology

/-- `CHATGPT_SYSTEM_PROMPT`. -/
def chatgptSystemPrompt : Str :=
  ("You are an SMS assistant named Dexter, Always reply in short, clear SMS-style " ++
    "messages—never write more than 2-3 sentences per reply. Keep your tone friendly, " ++
    "upbeat, and a little bit witty, like a helpful buddy. Use contractions, emojis (if " ++
    "appropriate), and text as real people do via SMS. Never use formal or overly technical " ++
    "language. No long explanations or paragraphs—keep it brief but helpful! Do not " ++
    "reference that you are an AI or digital assistant. Always sound personable and " ++
    "natural.").toList

/-- The messages of a completion request. -/
def allMessages (messages : List ChatMessage) : List ChatMessage :=
  ⟨"system".toList, chatgptSystemPrompt⟩ :: messages

def clearedReply (count : ℕ) : Str :=
  "History cleared (".toList ++ showNat count ++ " messages)! Starting fresh.".toList

/-! ### Tasks -/

/-- Where the worker of a queue is. -/
inductive WorkerStage
  /-- At `rx.recv()`. -/
  | receiving
  | processing (task : MessageTask)
  /-- In `get_reply`. -/
  | asking (task : MessageTask) (messages : List ChatMessage)
  | answered (task : MessageTask) (reply : Str)
  /-- In `send_reply`. -/
  | replying (task : MessageTask) (reply : Str)
  /-- All senders were dropped. -/
  | closing
  | ended
  deriving DecidableEq, Repr

/-- A channel with its worker. -/
structure Queue where
  phoneNumber : Str
  waiting : List MessageTask
  stage : WorkerStage
  deriving DecidableEq, Repr

/-- Where a call of `http_webhook` is. -/
inductive CallStage
  /-- At `phone_queues.get`. -/
  | lookingUp (task : MessageTask)
  /-- No queue was found. -/
  | creating (task : MessageTask)
  | sending (task : MessageTask) (queue : ℕ)
  | returned
  deriving DecidableEq, Repr

structure Server (D : DashMaps) where
  messageHistory : MessageHistory
  /-- The senders in the map, by their queue. -/
  phoneQueues : D.DashMap Str ℕ
  queues : List Queue
  calls : List CallStage

inductive Input
  | webhook (payload : WebhookPayload)
  | call (i : ℕ)
  /-- The worker of a queue takes a step; the outcome is that of its request if it makes one. -/
  | worker (queue : ℕ) (outcome : Except Str CompletionResponse)

inductive Effect
  | responded (status : ℕ) (error : Option Str)
  | accepted (queue : ℕ) (task : MessageTask)
  | noted (phoneNumber : Str) (message : ChatMessage)
  /-- A reply was added to a history; `add_message` adds none where there is no history. -/
  | notedReply (phoneNumber : Str) (message : ChatMessage)
  | cleared (phoneNumber : Str)
  /-- A completion request, with what `process_message` made of its outcome. -/
  | asked (task : MessageTask) (messages : List ChatMessage) (reply : Str)
  /-- `send_reply` is called, whose failure is only logged. -/
  | replied (queue : ℕ) (task : MessageTask) (reply : Str)
  deriving DecidableEq, Repr

/-- The task that the worker has taken. -/
def WorkerStage.task? : WorkerStage → Option MessageTask
  | processing task | asking task _ | answered task _ | replying task _ => some task
  | receiving | closing | ended => none

/-- The worker has left its loop. -/
def WorkerStage.IsClosed (self : WorkerStage) : Prop := self = closing ∨ self = ended

namespace Queue

def new (phoneNumber : Str) : Queue := { phoneNumber, waiting := [], stage := .receiving }

/-- What was accepted and is not answered. -/
def pending (self : Queue) : List MessageTask := self.stage.task?.toList ++ self.waiting

end Queue

/-- The queue whose sender a call holds. -/
def CallStage.sender? : CallStage → Option ℕ
  | sending _ queue => some queue
  | _ => none

namespace Server

variable {D : DashMaps}

def new : Server D := { messageHistory := ∅, phoneQueues := D.new, queues := [], calls := [] }

def setCall (self : Server D) (i : ℕ) (call : CallStage) : Server D :=
  { self with calls := self.calls.set i call }

def setQueue (self : Server D) (i : ℕ) (queue : Queue) : Server D :=
  { self with queues := self.queues.set i queue }

/-- Somebody can still send to the queue. -/
def HasSender (self : Server D) (phoneNumber : Str) (queue : ℕ) : Prop :=
  D.get self.phoneQueues phoneNumber = some queue ∨
    ∃ call ∈ self.calls, call.sender? = some queue

instance (self : Server D) (phoneNumber : Str) (queue : ℕ) :
    Decidable (self.HasSender phoneNumber queue) :=
  inferInstanceAs (Decidable (_ ∨ _))

/-- A step of `http_webhook` after its checks. -/
def stepCall (self : Server D) (i : ℕ) : CallStage → Option (Server D × List Effect)
  | .lookingUp task =>
    match D.get self.phoneQueues task.phoneNumber with
    | some queue => some (self.setCall i (.sending task queue), [])
    | none => some (self.setCall i (.creating task), [])
  | .creating task =>
    let queue := self.queues.length
    some ({ self.setCall i (.sending task queue) with
      phoneQueues := D.insert self.phoneQueues task.phoneNumber queue
      queues := self.queues ++ [.new task.phoneNumber] }, [])
  | .sending task queue =>
    (self.queues[queue]?).map fun q =>
      if q.stage = .ended then
        (self.setCall i .returned, [.responded 500 (some "Failed to queue message".toList)])
      else
        ((self.setCall i .returned).setQueue queue { q with waiting := q.waiting ++ [task] },
          [.accepted queue task, .responded 200 none])
  | .returned => none

/-- A step of the worker of a queue. -/
def stepWorker (self : Server D) (i : ℕ) (queue : Queue)
    (outcome : Except Str CompletionResponse) : Option (Server D × List Effect) :=
  match queue.stage with
  | .receiving =>
    match queue.waiting with
    | task :: waiting =>
      some (self.setQueue i { queue with waiting, stage := .processing task }, [])
    | [] =>
      if self.HasSender queue.phoneNumber i then none
      else some (self.setQueue i { queue with stage := .closing }, [])
  | .processing task =>
    if trim task.messageContent = "#".toList then
      let (messageHistory, count) := self.messageHistory.clearHistory task.phoneNumber
      some ({ self.setQueue i { queue with stage := .replying task (clearedReply count) } with
        messageHistory }, [.cleared task.phoneNumber])
    else
      let (messageHistory, messages) :=
        self.messageHistory.addMessageAndGetHistory task.phoneNumber task.message
      some ({ self.setQueue i { queue with stage := .asking task messages } with
        messageHistory }, [.noted task.phoneNumber task.message])
  | .asking task messages =>
    let reply := replyFor outcome
    some (self.setQueue i { queue with stage := .answered task reply },
      [.asked task (allMessages messages) reply])
  | .answered task reply =>
    let message : ChatMessage := { role := "assistant".toList, content := reply }
    some ({ self.setQueue i { queue with stage := .replying task reply } with
      messageHistory := self.messageHistory.addMessage task.phoneNumber message },
      if (self.messageHistory.lookup task.phoneNumber).isSome then
        [.notedReply task.phoneNumber message]
      else [])
  | .replying task reply =>
    some (self.setQueue i { queue with stage := .receiving }, [.replied i task reply])
  | .closing =>
    some ({ self.setQueue i { queue with stage := .ended } with
      phoneQueues := D.remove self.phoneQueues queue.phoneNumber }, [])
  | .ended => none

def step (self : Server D) : Input → Option (Server D × List Effect)
  | .webhook payload =>
    if payload.webhookType ≠ "incoming".toList then
      some (self, [.responded 400 (some "Invalid webhook type".toList)])
    else if ¬ startsWith payload.phoneNumber "+".toList then some (self, [.responded 200 none])
    else
      let task : MessageTask := ⟨payload.phoneNumber, trim payload.messageContent⟩
      some ({ self with calls := self.calls ++ [.lookingUp task] }, [])
  | .call i => (self.calls[i]?).bind (self.stepCall i)
  | .worker i outcome => (self.queues[i]?).bind fun queue => self.stepWorker i queue outcome

/-! ### What a step does -/

/-- A step of a worker: its queue and the histories before, the same after, and the effects. -/
inductive WorkerMove (i : ℕ) (histories : MessageHistory) :
    Queue → Queue → MessageHistory → List Effect → Prop
  | took (phoneNumber : Str) (task : MessageTask) (waiting : List MessageTask) :
    WorkerMove i histories ⟨phoneNumber, task :: waiting, .receiving⟩
      ⟨phoneNumber, waiting, .processing task⟩ histories []
  | cleared (phoneNumber : Str) (task : MessageTask) (waiting : List MessageTask)
      (hclear : trim task.messageContent = "#".toList) :
    WorkerMove i histories ⟨phoneNumber, waiting, .processing task⟩
      ⟨phoneNumber, waiting, .replying task
        (clearedReply (histories.clearHistory task.phoneNumber).2)⟩
      (histories.clearHistory task.phoneNumber).1 [.cleared task.phoneNumber]
  | noted (phoneNumber : Str) (task : MessageTask) (waiting : List MessageTask)
      (hclear : trim task.messageContent ≠ "#".toList) :
    WorkerMove i histories ⟨phoneNumber, waiting, .processing task⟩
      ⟨phoneNumber, waiting, .asking task
        (histories.addMessageAndGetHistory task.phoneNumber task.message).2⟩
      (histories.addMessageAndGetHistory task.phoneNumber task.message).1
      [.noted task.phoneNumber task.message]
  | asked (phoneNumber : Str) (task : MessageTask) (waiting : List MessageTask)
      (messages : List ChatMessage) (reply : Str) :
    WorkerMove i histories ⟨phoneNumber, waiting, .asking task messages⟩
      ⟨phoneNumber, waiting, .answered task reply⟩ histories
      [.asked task (allMessages messages) reply]
  | notedReply (phoneNumber : Str) (task : MessageTask) (waiting : List MessageTask)
      (reply : Str) (hhistory : (histories.lookup task.phoneNumber).isSome) :
    WorkerMove i histories ⟨phoneNumber, waiting, .answered task reply⟩
      ⟨phoneNumber, waiting, .replying task reply⟩
      (histories.addMessage task.phoneNumber ⟨"assistant".toList, reply⟩)
      [.notedReply task.phoneNumber ⟨"assistant".toList, reply⟩]
  | unnoted (phoneNumber : Str) (task : MessageTask) (waiting : List MessageTask) (reply : Str)
      (hhistory : histories.lookup task.phoneNumber = none) :
    WorkerMove i histories ⟨phoneNumber, waiting, .answered task reply⟩
      ⟨phoneNumber, waiting, .replying task reply⟩ histories []
  | replied (phoneNumber : Str) (task : MessageTask) (waiting : List MessageTask) (reply : Str) :
    WorkerMove i histories ⟨phoneNumber, waiting, .replying task reply⟩
      ⟨phoneNumber, waiting, .receiving⟩ histories [.replied i task reply]

/-- What a step does. -/
inductive Move (s : Server D) : Input → Server D → List Effect → Prop
  | refused (payload : WebhookPayload) (status : ℕ) (error : Option Str) (hstatus : status ≠ 500)
      (htask : payload.task? = none) : Move s (.webhook payload) s [.responded status error]
  | called (payload : WebhookPayload) (task : MessageTask) (htask : payload.task? = some task) :
    Move s (.webhook payload) { s with calls := s.calls ++ [.lookingUp task] } []
  | found (i : ℕ) (task : MessageTask) (queue : ℕ) (hcall : s.calls[i]? = some (.lookingUp task))
      (hqueue : D.get s.phoneQueues task.phoneNumber = some queue) :
    Move s (.call i) (s.setCall i (.sending task queue)) []
  | missed (i : ℕ) (task : MessageTask) (hcall : s.calls[i]? = some (.lookingUp task))
      (hqueue : D.get s.phoneQueues task.phoneNumber = none) :
    Move s (.call i) (s.setCall i (.creating task)) []
  | created (i : ℕ) (task : MessageTask) (hcall : s.calls[i]? = some (.creating task)) :
    Move s (.call i) { s.setCall i (.sending task s.queues.length) with
      phoneQueues := D.insert s.phoneQueues task.phoneNumber s.queues.length
      queues := s.queues ++ [.new task.phoneNumber] } []
  | dropped (i : ℕ) (task : MessageTask) (queue : ℕ) (q : Queue)
      (hcall : s.calls[i]? = some (.sending task queue)) (hq : s.queues[queue]? = some q)
      (hended : q.stage = .ended) :
    Move s (.call i) (s.setCall i .returned)
      [.responded 500 (some "Failed to queue message".toList)]
  | accepted (i : ℕ) (task : MessageTask) (queue : ℕ) (q : Queue)
      (hcall : s.calls[i]? = some (.sending task queue)) (hq : s.queues[queue]? = some q) :
    Move s (.call i)
      ((s.setCall i .returned).setQueue queue { q with waiting := q.waiting ++ [task] })
      [.accepted queue task, .responded 200 none]
  | worked (i : ℕ) (outcome : Except Str CompletionResponse) (q q' : Queue)
      (histories : MessageHistory) (out : List Effect) (hq : s.queues[i]? = some q)
      (hwork : WorkerMove i s.messageHistory q q' histories out) :
    Move s (.worker i outcome) { s.setQueue i q' with messageHistory := histories } out
  | closed (i : ℕ) (outcome : Except Str CompletionResponse) (phoneNumber : Str)
      (hq : s.queues[i]? = some ⟨phoneNumber, [], .receiving⟩)
      (hsender : ¬ s.HasSender phoneNumber i) :
    Move s (.worker i outcome) (s.setQueue i ⟨phoneNumber, [], .closing⟩) []
  | ended (i : ℕ) (outcome : Except Str CompletionResponse) (phoneNumber : Str)
      (waiting : List MessageTask) (hq : s.queues[i]? = some ⟨phoneNumber, waiting, .closing⟩) :
    Move s (.worker i outcome) { s.setQueue i ⟨phoneNumber, waiting, .ended⟩ with
      phoneQueues := D.remove s.phoneQueues phoneNumber } []

variable {s s' : Server D} {input : Input} {out t : List Effect} {h : List (Server D × Input)}

theorem stepCall_move {i : ℕ} {call : CallStage} (hcall : s.calls[i]? = some call)
    (hstep : s.stepCall i call = some (s', out)) : Move s (.call i) s' out := by
  cases call with
  | lookingUp task =>
    simp only [stepCall] at hstep
    split at hstep
    · next queue hqueue =>
      cases hstep
      exact .found i task queue hcall hqueue
    · next hqueue =>
      cases hstep
      exact .missed i task hcall hqueue
  | creating task =>
    cases hstep
    exact .created i task hcall
  | sending task queue =>
    obtain ⟨q, hq, heq⟩ := Option.map_eq_some_iff.mp hstep
    split at heq
    · next hended =>
      cases heq
      exact .dropped i task queue q hcall hq hended
    · cases heq
      exact .accepted i task queue q hcall hq
  | returned => cases hstep

theorem stepWorker_move {i : ℕ} {queue : Queue} {outcome : Except Str CompletionResponse}
    (hqueue : s.queues[i]? = some queue) (hstep : s.stepWorker i queue outcome = some (s', out)) :
    Move s (.worker i outcome) s' out := by
  obtain ⟨phoneNumber, waiting, stage⟩ := queue
  cases stage with
  | receiving =>
    cases waiting with
    | nil =>
      obtain ⟨hsender, heq⟩ := Option.ite_none_left_eq_some.mp hstep
      cases heq
      exact .closed i outcome phoneNumber hqueue hsender
    | cons task waiting =>
      cases hstep
      exact .worked i outcome _ _ _ _ hqueue (.took phoneNumber task waiting)
  | processing task =>
    simp only [stepWorker] at hstep
    split at hstep
    · next hclear =>
      cases hstep
      exact .worked i outcome _ _ _ _ hqueue (.cleared phoneNumber task waiting hclear)
    · next hclear =>
      cases hstep
      exact .worked i outcome _ _ _ _ hqueue (.noted phoneNumber task waiting hclear)
  | asking task messages =>
    cases hstep
    exact .worked i outcome _ _ _ _ hqueue (.asked phoneNumber task waiting messages _)
  | answered task reply =>
    cases hhistory : s.messageHistory.lookup task.phoneNumber with
    | none =>
      have hkept : s.messageHistory.addMessage task.phoneNumber ⟨"assistant".toList, reply⟩ =
          s.messageHistory := by
        rw [MessageHistory.addMessage, hhistory]
      simp only [stepWorker, hhistory, hkept, Option.isSome_none, Bool.false_eq_true, if_false]
        at hstep
      cases hstep
      exact .worked i outcome _ _ _ _ hqueue (.unnoted phoneNumber task waiting reply hhistory)
    | some messages =>
      have hsome : (s.messageHistory.lookup task.phoneNumber).isSome := by
        rw [hhistory]
        rfl
      simp only [stepWorker, hsome, if_true] at hstep
      cases hstep
      exact .worked i outcome _ _ _ _ hqueue (.notedReply phoneNumber task waiting reply hsome)
  | replying task reply =>
    cases hstep
    exact .worked i outcome _ _ _ _ hqueue (.replied phoneNumber task waiting reply)
  | closing =>
    cases hstep
    exact .ended i outcome phoneNumber waiting hqueue
  | ended => cases hstep

/-- **Case analysis.** Every step is a move. -/
theorem step_move (hstep : s.step input = some (s', out)) : Move s input s' out := by
  cases input with
  | webhook payload =>
    rw [step] at hstep
    split at hstep
    · next htype =>
      cases hstep
      exact .refused payload 400 _ (by decide) (if_pos (.inl htype))
    · next htype =>
      split at hstep
      · next hnumber =>
        cases hstep
        exact .refused payload 200 _ (by decide) (if_pos (.inr hnumber))
      · next hnumber =>
        cases hstep
        exact .called payload _ (if_neg (not_or.mpr ⟨htype, hnumber⟩))
  | call i =>
    obtain ⟨call, hcall, hstep⟩ := Option.bind_eq_some_iff.mp hstep
    exact stepCall_move hcall hstep
  | worker i outcome =>
    obtain ⟨queue, hqueue, hstep⟩ := Option.bind_eq_some_iff.mp hstep
    exact stepWorker_move hqueue hstep

/-! ### What becomes of the accepted messages -/

/-- The tasks accepted into a queue. -/
def acceptedBy (queue : ℕ) : List Effect → List MessageTask :=
  List.filterMap fun
    | .accepted queue' task => if queue' = queue then some task else none
    | _ => none

/-- The tasks whose reply was sent by the worker of a queue. -/
def repliedBy (queue : ℕ) : List Effect → List MessageTask :=
  List.filterMap fun
    | .replied queue' task _ => if queue' = queue then some task else none
    | _ => none

@[simp] theorem acceptedBy_append (queue : ℕ) (before after : List Effect) :
    acceptedBy queue (before ++ after) = acceptedBy queue before ++ acceptedBy queue after :=
  List.filterMap_append

@[simp] theorem repliedBy_append (queue : ℕ) (before after : List Effect) :
    repliedBy queue (before ++ after) = repliedBy queue before ++ repliedBy queue after :=
  List.filterMap_append

/-- What was accepted into a queue and is not answered. -/
def pending (self : Server D) (queue : ℕ) : List MessageTask :=
  ((self.queues[queue]?).map Queue.pending).getD []

/-- What a step of a worker does to its queue. -/
structure WorksOn (i : ℕ) (q q' : Queue) (out : List Effect) : Prop where
  pending : repliedBy i out ++ q'.pending = q.pending
  other : ∀ queue, queue ≠ i → repliedBy queue out = []
  accepted : ∀ queue, acceptedBy queue out = []
  phoneNumber : q'.phoneNumber = q.phoneNumber
  before : ¬ q.stage.IsClosed
  after : ¬ q'.stage.IsClosed

theorem WorkerMove.worksOn {i : ℕ} {histories histories' : MessageHistory} {q q' : Queue}
    (hwork : WorkerMove i histories q q' histories' out) : WorksOn i q q' out := by
  cases hwork with
  | replied phoneNumber task waiting reply =>
    refine ⟨?_, fun queue hne => ?_, fun _ => rfl, rfl, ?_, ?_⟩
    · simp [repliedBy, Queue.pending, WorkerStage.task?]
    · simp [repliedBy, Ne.symm hne]
    · simp [WorkerStage.IsClosed]
    · simp [WorkerStage.IsClosed]
  | _ => exact ⟨rfl, fun _ _ => rfl, fun _ => rfl, rfl, by simp [WorkerStage.IsClosed],
      by simp [WorkerStage.IsClosed]⟩

theorem pending_setQueue {i : ℕ} {q q' : Queue} (hq : s.queues[i]? = some q) (queue : ℕ) :
    (s.setQueue i q').pending queue = if queue = i then q'.pending else s.pending queue := by
  have hlt : i < s.queues.length := (List.getElem?_eq_some_iff.mp hq).1
  rw [pending, setQueue, List.getElem?_set]
  by_cases h : i = queue
  · simp [h, h ▸ hlt]
  · simp [h, Ne.symm h, pending]

theorem pending_eq {i : ℕ} {q : Queue} (hq : s.queues[i]? = some q) :
    s.pending i = q.pending := by
  rw [pending, hq, Option.map_some, Option.getD_some]

/-- A step answers what is at the front of a queue, and adds at its end what it accepts. -/
theorem Move.accounted (hmove : Move s input s' out) (queue : ℕ) :
    repliedBy queue out ++ s'.pending queue = s.pending queue ++ acceptedBy queue out := by
  cases hmove with
  | created i task hcall =>
    show [] ++ _ = _ ++ []
    rw [List.nil_append, List.append_nil, pending, pending]
    rcases Nat.lt_trichotomy queue s.queues.length with hlt | rfl | hgt
    · rw [List.getElem?_append_left hlt]
    · simp [Queue.new, Queue.pending, WorkerStage.task?]
    · rw [List.getElem?_eq_none (by simp; omega), List.getElem?_eq_none hgt.le]
  | accepted i task queue' q hcall hq =>
    have hset : ((s.setCall i .returned).setQueue queue'
        { q with waiting := q.waiting ++ [task] }).pending queue = _ := pending_setQueue hq queue
    rw [hset]
    by_cases h : queue = queue'
    · subst h
      rw [if_pos rfl, pending_eq hq]
      simp [repliedBy, acceptedBy, Queue.pending]
    · rw [if_neg h]
      simp [repliedBy, acceptedBy, Ne.symm h, pending]
  | worked i outcome q q' histories out hq hwork =>
    obtain ⟨hpending, hother, haccepted, -⟩ := hwork.worksOn
    show _ ++ (s.setQueue i q').pending queue = _
    rw [pending_setQueue hq, haccepted, List.append_nil]
    by_cases h : queue = i
    · subst h
      rw [if_pos rfl, hpending, pending_eq hq]
    · rw [if_neg h, hother queue h, List.nil_append]
  | closed i outcome phoneNumber hq hsender =>
    show [] ++ _ = _ ++ []
    rw [List.nil_append, List.append_nil, pending_setQueue hq]
    split
    · next h =>
      rw [h, pending_eq hq]
      rfl
    · rfl
  | ended i outcome phoneNumber waiting hq =>
    show [] ++ (s.setQueue i _).pending queue = _ ++ []
    rw [List.nil_append, List.append_nil, pending_setQueue hq]
    split
    · next h =>
      rw [h, pending_eq hq]
      rfl
    · rfl
  | _ => exact (List.append_nil _).symm

/-- The queue is for the number, and its worker is in its loop. -/
def IsOpen (self : Server D) (phoneNumber : Str) (queue : ℕ) : Prop :=
  ∃ q, self.queues[queue]? = some q ∧ q.phoneNumber = phoneNumber ∧ ¬ q.stage.IsClosed

/-- Whoever has a sender has that of an open queue for its number. -/
structure WellFormed (s : Server D) : Prop where
  stored : ∀ phoneNumber queue, D.get s.phoneQueues phoneNumber = some queue →
    s.IsOpen phoneNumber queue
  held : ∀ task queue, CallStage.sending task queue ∈ s.calls → s.IsOpen task.phoneNumber queue
  /-- A worker leaves its loop when nothing waits. -/
  emptied : ∀ q ∈ s.queues, q.stage.IsClosed → q.waiting = []

theorem isOpen_setQueue {i queue : ℕ} {q q' : Queue} {phoneNumber : Str}
    (hq : s.queues[i]? = some q) (hnumber : q'.phoneNumber = q.phoneNumber)
    (hstage : ¬ q'.stage.IsClosed) (h : s.IsOpen phoneNumber queue) :
    (s.setQueue i q').IsOpen phoneNumber queue := by
  obtain ⟨q₀, hq₀, rfl, hopen⟩ := h
  have hlt : i < s.queues.length := (List.getElem?_eq_some_iff.mp hq).1
  by_cases heq : i = queue
  · subst heq
    obtain rfl := Option.some.inj (hq.symm.trans hq₀)
    exact ⟨q', List.getElem?_set_self hlt, hnumber, hstage⟩
  · exact ⟨q₀, (List.getElem?_set_ne heq).trans hq₀, rfl, hopen⟩

theorem isOpen_setQueue_ne {i queue : ℕ} {q' : Queue} {phoneNumber : Str} (hne : i ≠ queue)
    (h : s.IsOpen phoneNumber queue) : (s.setQueue i q').IsOpen phoneNumber queue := by
  obtain ⟨q, hq, hnumber, hopen⟩ := h
  exact ⟨q, (List.getElem?_set_ne hne).trans hq, hnumber, hopen⟩

/-- A queue that has a sender stays open. -/
theorem Move.isOpen (hmove : Move s input s' out) {phoneNumber : Str} {queue : ℕ}
    (hopen : s.IsOpen phoneNumber queue) (hsender : s.HasSender phoneNumber queue) :
    s'.IsOpen phoneNumber queue := by
  cases hmove with
  | created i task hcall =>
    obtain ⟨q, hq, hnumber, hstage⟩ := hopen
    have hlt : queue < s.queues.length := (List.getElem?_eq_some_iff.mp hq).1
    exact ⟨q, (List.getElem?_append_left hlt).trans hq, hnumber, hstage⟩
  | accepted i task queue' q hcall hq =>
    by_cases h : queue' = queue
    · subst h
      obtain ⟨q₀, hq₀, -, hstage⟩ := id hopen
      obtain rfl := Option.some.inj (hq.symm.trans hq₀)
      exact isOpen_setQueue (s := s.setCall i .returned) hq rfl hstage hopen
    · exact isOpen_setQueue_ne (s := s.setCall i .returned) h hopen
  | worked i outcome q q' histories out hq hwork =>
    exact isOpen_setQueue hq hwork.worksOn.phoneNumber hwork.worksOn.after hopen
  | closed i outcome phoneNumber' hq hclosed =>
    refine isOpen_setQueue_ne (fun h => ?_) hopen
    subst h
    obtain ⟨q, hq', rfl, -⟩ := hopen
    obtain rfl := Option.some.inj (hq.symm.trans hq')
    exact hclosed hsender
  | ended i outcome phoneNumber' waiting hq =>
    refine isOpen_setQueue_ne (fun h => ?_) hopen
    subst h
    obtain ⟨q, hq', -, hstage⟩ := hopen
    obtain rfl := Option.some.inj (hq.symm.trans hq')
    exact hstage (.inl rfl)
  | _ => exact hopen

theorem WellFormed.new : WellFormed (Server.new : Server D) where
  stored := by
    intro phoneNumber queue h
    cases (D.get_new phoneNumber).symm.trans h
  held := by
    intro task queue h
    cases h
  emptied := by
    intro q h
    cases h

theorem isOpen_created {calls : List CallStage} {phoneQueues : D.DashMap Str ℕ}
    (phoneNumber : Str) :
    ({ s with calls, phoneQueues, queues := s.queues ++ [.new phoneNumber] } : Server D).IsOpen
      phoneNumber s.queues.length :=
  ⟨.new phoneNumber, by simp, rfl, by simp [Queue.new, WorkerStage.IsClosed]⟩

/-- Every step keeps the senders those of open queues. -/
theorem Move.wellFormed (hmove : Move s input s' out) (hwf : s.WellFormed) : s'.WellFormed := by
  have hstored : ∀ phoneNumber queue, D.get s.phoneQueues phoneNumber = some queue →
      s'.IsOpen phoneNumber queue :=
    fun phoneNumber queue h => hmove.isOpen (hwf.stored phoneNumber queue h) (.inl h)
  have hheld : ∀ task queue, CallStage.sending task queue ∈ s.calls →
      s'.IsOpen task.phoneNumber queue :=
    fun task queue h => hmove.isOpen (hwf.held task queue h) (.inr ⟨_, h, rfl⟩)
  refine ⟨?_, ?_, ?_⟩
  · intro phoneNumber queue hlookup
    cases hmove with
    | created i task hcall =>
      by_cases h : phoneNumber = task.phoneNumber
      · subst h
        obtain rfl := Option.some.inj (DashMaps.get_insert_self.symm.trans hlookup)
        exact isOpen_created task.phoneNumber
      · exact hstored phoneNumber queue ((DashMaps.get_insert_of_ne h).symm.trans hlookup)
    | ended i outcome phoneNumber' waiting hq =>
      by_cases h : phoneNumber = phoneNumber'
      · subst h
        cases DashMaps.get_remove_self.symm.trans hlookup
      · exact hstored phoneNumber queue ((DashMaps.get_remove_of_ne h).symm.trans hlookup)
    | _ => exact hstored phoneNumber queue hlookup
  · intro task queue hmem
    cases hmove with
    | called payload task' =>
      rcases List.mem_append.mp hmem with hmem | hmem
      · exact hheld task queue hmem
      · cases List.mem_singleton.mp hmem
    | found i task' queue' hcall hqueue =>
      rcases List.mem_or_eq_of_mem_set hmem with hmem | heq
      · exact hheld task queue hmem
      · cases heq
        exact hstored task.phoneNumber queue hqueue
    | created i task' hcall =>
      rcases List.mem_or_eq_of_mem_set hmem with hmem | heq
      · exact hheld task queue hmem
      · cases heq
        exact isOpen_created task.phoneNumber
    | missed | dropped | accepted =>
      rcases List.mem_or_eq_of_mem_set hmem with hmem | heq
      · exact hheld task queue hmem
      · cases heq
    | _ => exact hheld task queue hmem
  · intro q hmem hclosed
    cases hmove with
    | created i task hcall =>
      rcases List.mem_append.mp hmem with hmem | hmem
      · exact hwf.emptied q hmem hclosed
      · obtain rfl := List.mem_singleton.mp hmem
        rfl
    | accepted i task queue q' hcall hq =>
      rcases List.mem_or_eq_of_mem_set hmem with hmem | rfl
      · exact hwf.emptied q hmem hclosed
      · obtain ⟨q₀, hq₀, -, hstage⟩ := hwf.held task queue (List.mem_of_getElem? hcall)
        obtain rfl := Option.some.inj (hq.symm.trans hq₀)
        exact absurd hclosed hstage
    | worked i outcome q₀ q' histories out hq hwork =>
      rcases List.mem_or_eq_of_mem_set hmem with hmem | rfl
      · exact hwf.emptied q hmem hclosed
      · exact absurd hclosed hwork.worksOn.after
    | closed i outcome phoneNumber hq hsender =>
      rcases List.mem_or_eq_of_mem_set hmem with hmem | rfl
      · exact hwf.emptied q hmem hclosed
      · rfl
    | ended i outcome phoneNumber waiting hq =>
      rcases List.mem_or_eq_of_mem_set hmem with hmem | rfl
      · exact hwf.emptied q hmem hclosed
      · have hempty : (⟨phoneNumber, waiting, .closing⟩ : Queue).waiting = [] :=
          hwf.emptied _ (List.mem_of_getElem? hq) (.inl rfl)
        exact hempty
    | _ => exact hwf.emptied q hmem hclosed

theorem run_wellFormed (hrun : Run step Server.new h s t) : s.WellFormed :=
  hrun.invariant .new fun _ _ _ _ hwf hstep => (step_move hstep).wellFormed hwf

/-- The numbers of the queues, in the order in which they were created. -/
def numbers (self : Server D) : List Str := self.queues.map Queue.phoneNumber

theorem getElem?_numbers {queue : ℕ} {q : Queue} (hq : s.queues[queue]? = some q) :
    s.numbers[queue]? = some q.phoneNumber := by
  rw [numbers, List.getElem?_map, hq, Option.map_some]

theorem map_phoneNumber_set {queues : List Queue} {i : ℕ} {q q' : Queue}
    (hq : queues[i]? = some q) (hnumber : q'.phoneNumber = q.phoneNumber) :
    (queues.set i q').map Queue.phoneNumber = queues.map Queue.phoneNumber := by
  obtain ⟨hlt, rfl⟩ := List.getElem?_eq_some_iff.mp hq
  have hlt' : i < (queues.map Queue.phoneNumber).length := by rwa [List.length_map]
  rw [List.map_set, hnumber, ← List.getElem_map Queue.phoneNumber (h := hlt'),
    List.set_getElem_self]

/-- Queues keep their numbers. -/
theorem Move.numbers (hmove : Move s input s' out) :
    ∃ created, s'.numbers = s.numbers ++ created := by
  cases hmove with
  | created i task hcall =>
    exact ⟨[task.phoneNumber], by simp [Server.numbers, Queue.new]⟩
  | accepted i task queue q hcall hq =>
    refine ⟨[], ?_⟩
    rw [List.append_nil]
    exact map_phoneNumber_set hq rfl
  | worked i outcome q q' histories out hq hwork =>
    refine ⟨[], ?_⟩
    rw [List.append_nil]
    exact map_phoneNumber_set hq hwork.worksOn.phoneNumber
  | closed i outcome phoneNumber hq | ended i outcome phoneNumber waiting hq =>
    refine ⟨[], ?_⟩
    rw [List.append_nil]
    exact map_phoneNumber_set hq rfl
  | _ => exact ⟨[], (List.append_nil _).symm⟩

/-- What is accepted goes to a queue for its number. -/
theorem Move.accepted_numbers (hmove : Move s input s' out) (hwf : s.WellFormed) {queue : ℕ}
    {task : MessageTask} (hmem : Effect.accepted queue task ∈ out) :
    s.numbers[queue]? = some task.phoneNumber := by
  cases hmove with
  | accepted i task' queue' q hcall hq =>
    obtain ⟨rfl, rfl⟩ : queue = queue' ∧ task = task' := by simpa using hmem
    obtain ⟨q₀, hq₀, hnumber, -⟩ := hwf.held task queue (List.mem_of_getElem? hcall)
    exact hnumber ▸ getElem?_numbers hq₀
  | worked i outcome q q' histories out hq hwork => cases hwork <;> simp at hmem
  | _ => simp at hmem

/-- No call finds a queue whose worker has ended. -/
theorem Move.not_failed (hmove : Move s input s' out) (hwf : s.WellFormed)
    (error : Option Str) : Effect.responded 500 error ∉ out := by
  intro hmem
  cases hmove with
  | refused payload status error' hstatus =>
    obtain ⟨rfl, -⟩ : 500 = status ∧ error = error' := by simpa using hmem
    exact hstatus rfl
  | dropped i task queue q hcall hq hended =>
    obtain ⟨q₀, hq₀, -, hopen⟩ := hwf.held task queue (List.mem_of_getElem? hcall)
    obtain rfl := Option.some.inj (hq.symm.trans hq₀)
    exact hopen (.inr hended)
  | worked i outcome q q' histories out hq hwork => cases hwork <;> simp at hmem
  | _ => simp at hmem

theorem run_accepted_numbers (hrun : Run step Server.new h s t) {queue : ℕ} {task : MessageTask}
    (hmem : Effect.accepted queue task ∈ t) : s.numbers[queue]? = some task.phoneNumber := by
  refine hrun.induct (P := fun _ s t => Effect.accepted queue task ∈ t →
    s.numbers[queue]? = some task.phoneNumber) (fun hmem => by cases hmem) ?_ hmem
  intro h s t input s' out hrun ih hstep hmem
  have hmove := step_move hstep
  have hbefore : s.numbers[queue]? = some task.phoneNumber := by
    rcases List.mem_append.mp hmem with hmem | hmem
    · exact ih hmem
    · exact hmove.accepted_numbers (run_wellFormed hrun) hmem
  obtain ⟨created, hnumbers⟩ := hmove.numbers
  rw [hnumbers, List.getElem?_append_left (List.getElem?_eq_some_iff.mp hbefore).1]
  exact hbefore

theorem run_accounted (hrun : Run step Server.new h s t) (queue : ℕ) :
    repliedBy queue t ++ s.pending queue = acceptedBy queue t := by
  refine hrun.induct (P := fun _ s t => repliedBy queue t ++ s.pending queue = acceptedBy queue t)
    rfl ?_
  intro h s t input s' out _ ih hstep
  rw [repliedBy_append, acceptedBy_append, List.append_assoc, (step_move hstep).accounted queue,
    ← List.append_assoc, ih]

theorem mem_acceptedBy {queue : ℕ} {task : MessageTask} :
    task ∈ acceptedBy queue t ↔ Effect.accepted queue task ∈ t := by
  rw [acceptedBy, List.mem_filterMap]
  constructor
  · rintro ⟨effect, hmem, heq⟩
    cases effect with
    | accepted queue' task' =>
      obtain ⟨rfl, rfl⟩ := Option.ite_none_right_eq_some.mp heq |>.imp_right Option.some.inj
      exact hmem
    | _ => cases heq
  · exact fun hmem => ⟨_, hmem, if_pos rfl⟩

/-- **Once each.** No message of an answered call is lost and no call fails for want of a worker:
each queue has replied to what was accepted into it, in order and once each, except for what is
pending there, and all of it is for the number of the queue. -/
theorem answered_once (hrun : Run step Server.new h s t) :
    (∀ error, Effect.responded 500 error ∉ t) ∧
      ∀ queue, repliedBy queue t ++ s.pending queue = acceptedBy queue t ∧
        ∀ task ∈ acceptedBy queue t, s.numbers[queue]? = some task.phoneNumber := by
  refine ⟨fun error => ?_, fun queue => ⟨run_accounted hrun queue, fun task hmem =>
    run_accepted_numbers hrun (mem_acceptedBy.mp hmem)⟩⟩
  refine hrun.induct (P := fun _ _ t => Effect.responded 500 error ∉ t) (by simp) ?_
  intro h s t input s' out hrun ih hstep hmem
  rcases List.mem_append.mp hmem with hmem | hmem
  · exact ih hmem
  · exact (step_move hstep).not_failed (run_wellFormed hrun) error hmem

/-- Two calls find no queue, and the message of the second is answered first. -/
theorem answered_once_overtaken :
    ∃ (h : List (Server .ofAList × Input)) (s : Server .ofAList) (t : List Effect),
      Run step Server.new h s t ∧
      repliedBy 0 t = [] ∧ repliedBy 1 t = [⟨"+1".toList, "#".toList⟩] ∧
      (∀ error, Effect.responded 500 error ∉ t) ∧
      ∀ queue, repliedBy queue t ++ s.pending queue = acceptedBy queue t ∧
        ∀ task ∈ acceptedBy queue t, s.numbers[queue]? = some task.phoneNumber := by
  obtain ⟨s, t, -, hrun, hfacts⟩ := Run.of_execute step (Server.new (D := .ofAList))
    [.webhook ⟨"incoming".toList, "+1".toList, "Hi".toList⟩,
      .webhook ⟨"incoming".toList, "+1".toList, "#".toList⟩, .call 0, .call 1, .call 0, .call 1,
      .call 0, .call 1, .worker 1 (.error []), .worker 1 (.error []), .worker 1 (.error [])]
    (fun r => (repliedBy 0 r.2, repliedBy 1 r.2)) (b := ([], [⟨"+1".toList, "#".toList⟩]))
    (by decide +kernel)
  obtain ⟨hfirst, hsecond⟩ := Prod.mk.inj hfacts
  exact ⟨_, s, t, hrun, hfirst, hsecond, answered_once hrun⟩

/-! ### To the end -/

end Server

/-- A bound on the steps that a worker at this stage still takes for what it has taken. -/
def WorkerStage.work : WorkerStage → ℕ
  | processing _ => 6
  | asking _ _ => 5
  | answered _ _ => 4
  | replying _ _ => 3
  | receiving => 2
  | closing => 1
  | ended => 0

def Queue.work (self : Queue) : ℕ := self.stage.work + 5 * self.waiting.length

/-- A bound on the steps of a call and of the workers for it. -/
def CallStage.work : CallStage → ℕ
  | lookingUp _ => 10
  | creating _ => 9
  | sending _ _ => 6
  | returned => 0

/-- The step is one of a call or of a worker. -/
def Input.IsInternal : Input → Prop
  | webhook _ => False
  | _ => True

namespace Server

variable {D : DashMaps} {s s' : Server D} {input : Input} {out t : List Effect}
  {h : List (Server D × Input)}

/-- A bound on the steps that the calls and workers still take. -/
def work (self : Server D) : ℕ :=
  (self.calls.map CallStage.work).sum + (self.queues.map Queue.work).sum

theorem WorkerMove.work_lt {i : ℕ} {histories histories' : MessageHistory} {q q' : Queue}
    (hwork : WorkerMove i histories q q' histories' out) : q'.work < q.work := by
  cases hwork <;> simp only [Queue.work, WorkerStage.work, List.length_cons] <;> omega

/-- A step of a call or a worker leaves less to do. -/
theorem Move.work_lt (hmove : Move s input s' out) (hinternal : input.IsInternal) :
    s'.work < s.work := by
  cases hmove with
  | refused => exact hinternal.elim
  | called => exact hinternal.elim
  | found i task queue hcall hqueue =>
    have hcalls := sum_map_set CallStage.work (b := .sending task queue) hcall
    simp only [work, setCall, CallStage.work] at hcalls ⊢
    omega
  | missed i task hcall =>
    have hcalls := sum_map_set CallStage.work (b := .creating task) hcall
    simp only [work, setCall, CallStage.work] at hcalls ⊢
    omega
  | created i task hcall =>
    have hcalls := sum_map_set CallStage.work (b := .sending task s.queues.length) hcall
    have hqueue : (Queue.new task.phoneNumber).work = 2 := rfl
    simp only [work, setCall, CallStage.work, List.map_append, List.sum_append, List.map_singleton,
      List.sum_singleton, hqueue] at hcalls ⊢
    omega
  | dropped i task queue q hcall hq hended =>
    have hcalls := sum_map_set CallStage.work (b := .returned) hcall
    simp only [work, setCall, CallStage.work] at hcalls ⊢
    omega
  | accepted i task queue q hcall hq =>
    have hcalls := sum_map_set CallStage.work (b := .returned) hcall
    have hqueues := sum_map_set Queue.work (b := { q with waiting := q.waiting ++ [task] }) hq
    simp only [work, setCall, setQueue, CallStage.work, Queue.work, List.length_append,
      List.length_singleton] at hcalls hqueues ⊢
    omega
  | worked i outcome q q' histories out hq hwork =>
    have hqueues := sum_map_set Queue.work (b := q') hq
    have hlt := hwork.work_lt
    simp only [work, setQueue]
    omega
  | closed i outcome phoneNumber hq hsender =>
    have hqueues := sum_map_set Queue.work (b := ⟨phoneNumber, [], .closing⟩) hq
    simp only [work, setQueue, Queue.work, WorkerStage.work] at hqueues ⊢
    omega
  | ended i outcome phoneNumber waiting hq =>
    have hqueues := sum_map_set Queue.work (b := ⟨phoneNumber, waiting, .ended⟩) hq
    simp only [work, setQueue, Queue.work, WorkerStage.work] at hqueues ⊢
    omega

/-- A call that has not returned can take a step. -/
theorem step_call_isSome (hwf : s.WellFormed) {i : ℕ} {call : CallStage}
    (hcall : s.calls[i]? = some call) (hleft : call ≠ .returned) :
    (s.step (.call i)).isSome := by
  rw [step, hcall, Option.bind_some]
  cases call with
  | lookingUp task =>
    rw [stepCall]
    split <;> rfl
  | creating task => rfl
  | sending task queue =>
    obtain ⟨q, hq, -⟩ := hwf.held task queue (List.mem_of_getElem? hcall)
    rw [stepCall, hq]
    rfl
  | returned => exact absurd rfl hleft

/-- A worker can take a step, unless it has ended or waits for messages that may still come. -/
theorem step_worker_isSome {i : ℕ} {q : Queue} (hq : s.queues[i]? = some q)
    (outcome : Except Str CompletionResponse) (hended : q.stage ≠ .ended)
    (hwaits : q.stage = .receiving → q.waiting = [] → ¬ s.HasSender q.phoneNumber i) :
    (s.step (.worker i outcome)).isSome := by
  rw [step, hq, Option.bind_some]
  obtain ⟨phoneNumber, waiting, stage⟩ := q
  cases stage with
  | receiving =>
    cases waiting with
    | nil =>
      have hsender : ¬ s.HasSender phoneNumber i := hwaits rfl rfl
      simp [stepWorker, hsender]
    | cons task waiting => rfl
  | processing task =>
    simp only [stepWorker]
    split <;> rfl
  | ended => exact absurd rfl hended
  | _ => rfl

/-- Where nothing can take a step, all calls have returned, nothing is pending, and a queue has
ended or is the one in the map. -/
theorem settled_of_stuck (hwf : s.WellFormed)
    (hstuck : ∀ input, input.IsInternal → s.step input = none) :
    (∀ call ∈ s.calls, call = .returned) ∧
      ∀ queue q, s.queues[queue]? = some q →
        q.pending = [] ∧ (q.stage = .ended ∨ D.get s.phoneQueues q.phoneNumber = some queue) := by
  have hcalls : ∀ call ∈ s.calls, call = .returned := by
    intro call hmem
    obtain ⟨i, hcall⟩ := List.mem_iff_getElem?.mp hmem
    by_contra hleft
    have hsome := step_call_isSome hwf hcall hleft
    rw [hstuck (.call i) trivial] at hsome
    cases hsome
  refine ⟨hcalls, fun queue q hq => ?_⟩
  by_cases hended : q.stage = .ended
  · have hempty := hwf.emptied q (List.mem_of_getElem? hq) (.inr hended)
    exact ⟨by rw [Queue.pending, hended, hempty]; rfl, .inl hended⟩
  · have hwaits : q.stage = .receiving ∧ q.waiting = [] ∧ s.HasSender q.phoneNumber queue := by
      by_contra hgo
      have hsome := step_worker_isSome hq (.error []) hended fun hstage hwaiting hsender =>
        hgo ⟨hstage, hwaiting, hsender⟩
      rw [hstuck (.worker queue (.error [])) trivial] at hsome
      cases hsome
    obtain ⟨hstage, hwaiting, hsender⟩ := hwaits
    refine ⟨by rw [Queue.pending, hstage, hwaiting]; rfl, .inr ?_⟩
    rcases hsender with hlookup | ⟨call, hmem, hcall⟩
    · exact hlookup
    · rw [hcalls call hmem] at hcall
      cases hcall

/-- **To the end.** Once no more messages come, the calls and workers take a bounded number of
steps, in whatever order and whatever the network answers. When no step is left, every call has
returned, every accepted message was replied to, and no worker is left but one for each number that
has a queue in the map. -/
theorem settles (hrun : Run step Server.new h s t) {h' : List (Server D × Input)}
    {t' : List Effect} (hrest : Run step s h' s' t') (hinternal : ∀ p ∈ h', p.2.IsInternal) :
    h'.length ≤ s.work ∧
      ((∀ input, input.IsInternal → s'.step input = none) →
        (∀ call ∈ s'.calls, call = .returned) ∧
          (∀ queue, repliedBy queue (t ++ t') = acceptedBy queue (t ++ t')) ∧
          ∀ queue q, s'.queues[queue]? = some q →
            q.stage = .ended ∨ D.get s'.phoneQueues q.phoneNumber = some queue) := by
  have hlength := hrest.length_le_of_measure (μ := work) (G := fun _ input => input.IsInternal)
    (fun _ _ _ _ hinternal hstep => (step_move hstep).work_lt hinternal) hinternal
  refine ⟨Nat.le_of_add_right_le hlength, fun hstuck => ?_⟩
  have hwhole := hrun.append hrest
  obtain ⟨hcalls, hqueues⟩ := settled_of_stuck (run_wellFormed hwhole) hstuck
  refine ⟨hcalls, fun queue => ?_, fun queue q hq => (hqueues queue q hq).2⟩
  have hpending : s'.pending queue = [] := by
    cases hq : s'.queues[queue]? with
    | none => rw [pending, hq]; rfl
    | some q => rw [pending_eq hq, (hqueues queue q hq).1]
  rw [← run_accounted hwhole queue, hpending, List.append_nil]

/-- A message that clears the history, from its call to its reply. -/
theorem settles_clear :
    let s : Server .ofAList :=
      { Server.new with calls := [.lookingUp ⟨"+1".toList, "#".toList⟩] }
    ∃ (h' : List (Server .ofAList × Input)) (s' : Server .ofAList) (t' : List Effect),
      Run step s h' s' t' ∧
      h'.map Prod.snd = [.call 0, .call 0, .call 0, .worker 0 (.error []), .worker 0 (.error []),
        .worker 0 (.error [])] ∧
      repliedBy 0 t' = [⟨"+1".toList, "#".toList⟩] ∧ h'.length ≤ s.work ∧
      ((∀ input, input.IsInternal → s'.step input = none) →
        (∀ call ∈ s'.calls, call = .returned) ∧
          (∀ queue, repliedBy queue t' = acceptedBy queue t') ∧
          ∀ queue q, s'.queues[queue]? = some q →
            q.stage = .ended ∨ DashMaps.ofAList.get s'.phoneQueues q.phoneNumber = some queue) := by
  intro s
  obtain ⟨s₁, t, -, hrun, hs⟩ := Run.of_execute step (Server.new (D := .ofAList))
    [.webhook ⟨"incoming".toList, "+1".toList, " #".toList⟩] (fun r => r) (b := (s, [])) rfl
  obtain ⟨rfl, rfl⟩ := Prod.mk.inj hs
  obtain ⟨s', t', hinputs, hrest, hreplied⟩ := Run.of_execute step s
    [.call 0, .call 0, .call 0, .worker 0 (.error []), .worker 0 (.error []), .worker 0 (.error [])]
    (fun r => repliedBy 0 r.2) (b := [⟨"+1".toList, "#".toList⟩]) (by decide +kernel)
  have hinternal : ∀ p ∈ history step s [.call 0, .call 0, .call 0, .worker 0 (.error []),
      .worker 0 (.error []), .worker 0 (.error [])], p.2.IsInternal := by
    have hmem : ∀ input ∈ (history step s [.call 0, .call 0, .call 0, .worker 0 (.error []),
        .worker 0 (.error []), .worker 0 (.error [])]).map Prod.snd, input.IsInternal := by
      rw [hinputs]
      simp [Input.IsInternal]
    exact fun p hp => hmem p.2 (List.mem_map_of_mem hp)
  obtain ⟨hlength, hsettled⟩ := settles hrun hrest hinternal
  exact ⟨_, s', t', hrest, hinputs, hreplied, hlength, hsettled⟩

end Server

end SmsServer.Chatgpt
