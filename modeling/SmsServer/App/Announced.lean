import Mathlib.Data.List.Perm.Basic
import SmsServer.App.Tasks
import SmsServer.Sms.MessageStore

/-!
# What is stored and what is announced

Every message that is stored is announced with its id, unless its task is dropped before, and no id
is announced twice (`announced_once`). What an event says can be read back from the database, and a
request to send is answered after its message was announced (`announced_stored`).
-/

namespace SmsServer

open RustStd Machine BroadcastEvent

variable {X : Crates}

namespace App

variable {context : AppContext} {s s' : App X} {input : AppInput X} {out : List (BroadcastEvent X)}

/-! ### Stored and announced -/

/-- The ids of the stored messages. -/
def rowIds (self : App X) : List ℕ := self.database.messages.map (·.messageId)

/-- The rows that are stored and not announced. -/
def unannounced (self : App X) : List ℕ :=
  self.channel.unannounced.toList ++ self.sends.filterMap (·.stage.unannounced)

/-- Setting one element of a list replaces what is made of it. -/
theorem filterMap_set_perm {α β : Type*} (f : α → Option β) {l : List α} {i : ℕ} {a : α}
    (h : l[i]? = some a) (b : α) :
    ((f a).toList ++ (l.set i b).filterMap f).Perm ((f b).toList ++ l.filterMap f) := by
  obtain ⟨hi, rfl⟩ := List.getElem?_eq_some_iff.mp h
  have hcons : ∀ a rest, (a :: rest).filterMap f = (f a).toList ++ rest.filterMap f := by
    intro a rest
    cases ha : f a <;> simp [ha]
  have hset := (List.set_perm_cons_eraseIdx hi b).filterMap f
  have hget := (List.getElem_cons_eraseIdx_perm hi).filterMap f
  rw [hcons] at hset hget
  calc List.Perm ((f l[i]).toList ++ (l.set i b).filterMap f)
        ((f l[i]).toList ++ ((f b).toList ++ (l.eraseIdx i).filterMap f)) := hset.append_left _
    List.Perm _ ((f b).toList ++ ((f l[i]).toList ++ (l.eraseIdx i).filterMap f)) :=
      List.perm_append_comm_assoc _ _ _
    List.Perm _ ((f b).toList ++ l.filterMap f) := hget.append_left _

/-- A task in `send_sms` is replaced. -/
theorem unannounced_setSend {send : ℕ} {task : SendCall X} (htask : s.sends[send]? = some task)
    (task' : SendCall X) :
    (task.stage.unannounced.toList ++ (s.setSend send task').unannounced).Perm
      (task'.stage.unannounced.toList ++ s.unannounced) := by
  have hperm := filterMap_set_perm (fun task : SendCall X => task.stage.unannounced) htask task'
  calc List.Perm (task.stage.unannounced.toList ++ (s.setSend send task').unannounced)
        (s.channel.unannounced.toList ++ (task.stage.unannounced.toList ++
          (s.sends.set send task').filterMap (·.stage.unannounced))) :=
      List.perm_append_comm_assoc _ _ _
    List.Perm _ (s.channel.unannounced.toList ++ (task'.stage.unannounced.toList ++
          s.sends.filterMap (·.stage.unannounced))) := hperm.append_left _
    List.Perm _ (task'.stage.unannounced.toList ++ s.unannounced) :=
      List.perm_append_comm_assoc _ _ _

theorem unannounced_ofAnswer (fromOutgoing : FromOutgoing) (message : SmsOutgoingMessage)
    (sent : Except Str (Bool × Option (ModemResponse X))) :
    (SendStage.ofAnswer fromOutgoing message sent).unannounced = none := by
  unfold SendStage.ofAnswer
  split
  case h_4 => split <;> rfl
  all_goals rfl

/-- A row without the columns that reports change. -/
def unreported (row : MessageRow) : MessageRow := { row with status := none, completedAt := none }

theorem unreported_updateMessageStatus (call : Call) (db : SMSDatabase) (messageId : ℕ)
    (status : UInt8) (completed : Bool) :
    (db.updateMessageStatus call messageId status completed).1.messages.map unreported =
      db.messages.map unreported := by
  unfold SMSDatabase.updateMessageStatus
  split
  · rfl
  · rw [List.map_map]
    refine List.map_congr_left fun row _ => ?_
    simp only [Function.comp_apply]
    split <;> rfl

theorem rowIds_updateMessageStatus (call : Call) (db : SMSDatabase) (messageId : ℕ) (status : UInt8)
    (completed : Bool) :
    (db.updateMessageStatus call messageId status completed).1.messages.map (·.messageId) =
      db.messages.map (·.messageId) := by
  have hrows := congrArg (List.map (·.messageId))
    (unreported_updateMessageStatus call db messageId status completed)
  rwa [List.map_map, List.map_map] at hrows

theorem messages_insertDeliveryReport (call : Call) (db : SMSDatabase) (messageId : ℕ)
    (status : UInt8) (isFinal : Bool) :
    (db.insertDeliveryReport call messageId status isFinal).1.messages = db.messages := by
  unfold SMSDatabase.insertDeliveryReport
  split <;> rfl

theorem messages_insertSendFailure (call : Call) (db : SMSDatabase) (messageId : ℕ)
    (errorMessage : Str) :
    (db.insertSendFailure call messageId errorMessage).1.messages = db.messages := by
  unfold SMSDatabase.insertSendFailure
  split <;> rfl

theorem rowIds_of_inserted {call : Call} {nonce : Nonce} {message : SmsMessage} {isFinal : Bool}
    {db db' : SMSDatabase} {id : ℕ}
    (hinserted : db.insertMessage call (context.encryption.encrypt nonce) message isFinal =
      (db', .ok id)) :
    db'.messages.map (·.messageId) = db.messages.map (·.messageId) ++ [id] := by
  obtain ⟨content, -, -, -, hmessages⟩ := SMSDatabase.insertMessage_eq_ok hinserted
  rw [hmessages, List.map_append]
  rfl

/-- **Rows of a step.** What was unannounced is announced or still unannounced, and so is what is
stored. -/
theorem Move.rows (hmove : Move context s input s' out)
    (hbroadcaster : context.broadcaster = true) :
    (s'.rowIds ++ s.unannounced).Perm (s.rowIds ++ (rowsOf out ++ s'.unannounced)) := by
  have hbroadcast : ∀ event : BroadcastEvent X, context.broadcast event = [event] := fun event =>
    if_pos hbroadcaster
  have hquiet : s'.rowIds = s.rowIds → s.unannounced.Perm (rowsOf out ++ s'.unannounced) →
      (s'.rowIds ++ s.unannounced).Perm (s.rowIds ++ (rowsOf out ++ s'.unannounced)) :=
    fun hrows hperm => hrows ▸ hperm.append_left _
  cases hmove with
  | stored call nonce hchannel hinserted =>
    simp only [rowIds, unannounced, hchannel, rowIds_of_inserted hinserted,
      ChannelTask.unannounced, Except.toOption, Option.toList, List.nil_append, List.append_assoc]
    exact .refl _
  | @sendStored send call nonce task newMessage sendFailure lastResponse database messageId htask
      hstage hinserted =>
    have hperm := unannounced_setSend (s := { s with database }) htask
      { task with stage := .stored newMessage messageId sendFailure lastResponse }
    rw [hstage] at hperm
    have hrows : database.messages.map (·.messageId) ++ s.unannounced =
        s.rowIds ++ ([messageId] ++ s.unannounced) := by
      rw [rowIds_of_inserted hinserted, List.append_assoc]
      rfl
    exact (List.Perm.of_eq hrows).trans (hperm.symm.append_left _)
  | @announceOutgoing send task newMessage messageId lastResponse htask hdropped hstage =>
    have hperm := unannounced_setSend htask
      { task with stage := .finished (.ok (some messageId, lastResponse)) }
    rw [hstage] at hperm
    refine hquiet rfl ?_
    rw [hbroadcast]
    exact hperm.symm
  | @sendNotStored send call nonce task _ _ _ e htask hstage =>
    have hperm := unannounced_setSend htask { task with stage := .finished (.error e) }
    rw [hstage] at hperm
    exact hquiet rfl hperm.symm
  | @failureStored send call nonce task newMessage messageId failure lastResponse htask hstage =>
    have hperm := unannounced_setSend htask
      { task with stage := .stored newMessage messageId none lastResponse }
    rw [hstage] at hperm
    refine hquiet ?_ ((List.perm_append_left_iff _).mp hperm).symm
    exact congrArg (List.map _) (messages_insertSendFailure ..)
  | @drop send task htask =>
    have hperm := unannounced_setSend htask { task with dropped := true }
    exact hquiet rfl ((List.perm_append_left_iff _).mp hperm).symm
  | answer message sent =>
    refine hquiet rfl (.of_eq ?_)
    simp only [unannounced, List.filterMap_append, List.filterMap_cons, unannounced_ofAnswer,
      List.filterMap_nil, List.append_nil]
    rfl
  | announceIncoming hchannel =>
    rename_i rowId
    refine hquiet rfl (.of_eq ?_)
    rw [hbroadcast]
    simp only [unannounced, hchannel, ChannelTask.unannounced]
    cases rowId <;> rfl
  | announceReport hchannel =>
    refine hquiet rfl (.of_eq ?_)
    rw [hbroadcast]
    simp only [unannounced, hchannel, ChannelTask.unannounced]
    rfl
  | inserted call nonce hchannel =>
    refine hquiet (congrArg (List.map _) (messages_insertDeliveryReport ..)) (.of_eq ?_)
    simp only [unannounced, hchannel, ChannelTask.unannounced]
    rfl
  | updated call nonce hchannel =>
    refine hquiet (rowIds_updateMessageStatus ..) (.of_eq ?_)
    simp only [unannounced, hchannel, ChannelTask.unannounced]
    rfl
  | status _ hidle | position _ hidle =>
    refine hquiet rfl (.of_eq ?_)
    rw [hbroadcast]
    rfl
  | whole _ hchannel | report _ hchannel | notStored _ _ _ hchannel | found _ _ hchannel
  | notInserted _ _ hchannel | noTarget hchannel =>
    refine hquiet rfl (.of_eq ?_)
    simp only [unannounced, hchannel, ChannelTask.unannounced]
    rfl
  | _ => exact hquiet rfl (.refl _)

/-- What no statement undoes. -/
theorem Move.evolves (hmove : Move context s input s' out) :
    SMSDatabase.Evolves s.database s'.database := by
  have hinsert : ∀ {call nonce message isFinal id} {db db' : SMSDatabase},
      db.insertMessage call (context.encryption.encrypt nonce) message isFinal = (db', .ok id) →
      SMSDatabase.Evolves db db' := by
    intro call nonce message isFinal id db db' hinserted
    have hevolves := SMSDatabase.evolves_insertMessage call (context.encryption.encrypt nonce) db
      message isFinal
    rwa [hinserted] at hevolves
  cases hmove with
  | stored _ _ _ hinserted => exact hinsert hinserted
  | sendStored _ _ _ _ hinserted => exact hinsert hinserted
  | inserted => exact SMSDatabase.evolves_insertDeliveryReport ..
  | updated => exact SMSDatabase.evolves_updateMessageStatus ..
  | failureStored => exact SMSDatabase.evolves_insertSendFailure ..
  | _ => exact .refl _

/-- **Announced once.** The stored messages are those that were there, those whose id was announced
and those whose task has not come to announce it yet, or was dropped. No id is announced twice, and
none that was there before. -/
theorem announced_once {h : List (App X × AppInput X)} {t : List (BroadcastEvent X)}
    {db : SMSDatabase} (hkeyed : db.Keyed) (hbroadcaster : context.broadcaster = true)
    (hrun : Run (step context) (new db) h s t) :
    s.rowIds.Perm (db.messages.map (·.messageId) ++ (rowsOf t ++ s.unannounced)) ∧
      (rowsOf t ++ s.unannounced).Nodup ∧
      ∀ row ∈ db.messages, row.messageId ∉ rowsOf t ++ s.unannounced := by
  obtain ⟨hkeyed', hperm⟩ : s.database.Keyed ∧
      s.rowIds.Perm (db.messages.map (·.messageId) ++ (rowsOf t ++ s.unannounced)) := by
    refine hrun.induct (P := fun _ s t => s.database.Keyed ∧
      s.rowIds.Perm (db.messages.map (·.messageId) ++ (rowsOf t ++ s.unannounced)))
      ⟨hkeyed, by simp [new, rowIds, unannounced, ChannelTask.unannounced, rowsOf]⟩ ?_
    intro h s t input s' out _ ⟨hkeyed, hperm⟩ hstep
    have hmove := step_move hstep
    have hrows := hmove.rows hbroadcaster
    refine ⟨hmove.evolves.keyed hkeyed, ?_⟩
    simp only [List.perm_iff_count, List.count_append, rowsOf_append] at hperm hrows ⊢
    intro id
    have hid := hperm id
    have hid' := hrows id
    omega
  obtain ⟨-, hnodup, hdisjoint⟩ := List.nodup_append.mp (hperm.nodup_iff.mp hkeyed'.nodup)
  exact ⟨hperm, hnodup, fun row hrow hmem => hdisjoint _ (List.mem_map_of_mem hrow) _ hmem rfl⟩

theorem announced_once_bothWays :
    ∃ (h : List (App .rejecting × AppInput .rejecting)) (s : App .rejecting)
      (t : List (BroadcastEvent .rejecting)),
      Run (step .ofZeros) (new .empty) h s t ∧ rowsOf t = [2, 1] ∧
      s.rowIds.Perm ([] ++ (rowsOf t ++ s.unannounced)) ∧ (rowsOf t ++ s.unannounced).Nodup ∧
      ∀ row ∈ SMSDatabase.empty.messages, row.messageId ∉ rowsOf t ++ s.unannounced := by
  obtain ⟨s, t, -, hrun, hrows⟩ := Run.of_execute (step (X := .rejecting) .ofZeros) (new .empty)
    bothWays (fun r => rowsOf r.2) (b := [2, 1]) (by decide +kernel)
  exact ⟨_, s, t, hrun, hrows, announced_once .empty rfl hrun⟩

/-! ### What is announced -/

/-- Rows are added, and only reports change them. -/
theorem Move.rows_isPrefix (hmove : Move context s input s' out) :
    s.database.messages.map unreported <+: s'.database.messages.map unreported := by
  have hinsert : ∀ {call nonce message isFinal id} {db db' : SMSDatabase},
      db.insertMessage call (context.encryption.encrypt nonce) message isFinal = (db', .ok id) →
      db.messages.map unreported <+: db'.messages.map unreported := by
    intro call nonce message isFinal id db db' hinserted
    obtain ⟨content, -, -, -, hmessages⟩ := SMSDatabase.insertMessage_eq_ok hinserted
    rw [hmessages, List.map_append]
    exact List.prefix_append _ _
  cases hmove with
  | stored _ _ _ hinserted => exact hinsert hinserted
  | sendStored _ _ _ _ hinserted => exact hinsert hinserted
  | inserted => rw [messages_insertDeliveryReport]
  | failureStored => rw [setSend, messages_insertSendFailure]
  | updated => rw [unreported_updateMessageStatus]
  | _ => exact List.prefix_rfl

/-- The row of a message, which reads back as the message, apart from its status. -/
structure IsRowOf (context : AppContext) (message : SmsMessage) (messageId : ℕ)
    (row : MessageRow) : Prop where
  messageId : row.messageId = messageId
  phoneNumber : row.phoneNumber = message.phoneNumber
  messageReference : row.messageReference = message.messageReference
  isOutgoing : row.isOutgoing = message.isOutgoing
  content : context.encryption.decrypt row.messageContent = .ok message.messageContent

/-- The row a report is for. -/
structure IsTargetOf (report : SmsPartialDeliveryReport) (messageId : ℕ) (row : MessageRow) :
    Prop where
  messageId : row.messageId = messageId
  isOutgoing : row.isOutgoing = true
  phoneNumber : row.phoneNumber = report.phoneNumber
  messageReference : row.messageReference = some report.referenceId

/-- What an event says holds of the database. -/
def Holds (context : AppContext) (db : SMSDatabase) : BroadcastEvent X → Prop
  | .incomingMessage message (some messageId) | .outgoingMessage message (some messageId) =>
    ∃ row ∈ db.messages.map unreported, IsRowOf context message messageId row
  | .deliveryReport messageId report =>
    ∃ row ∈ db.messages.map unreported, IsTargetOf report messageId row
  | _ => True

/-- What the task of `main_rx` has found or stored. -/
def ChannelHolds (context : AppContext) (db : SMSDatabase) : ChannelTask → Prop
  | .stored message (.ok rowId) =>
    ∃ row ∈ db.messages.map unreported, IsRowOf context message rowId row
  | .found report (.ok messageId) | .inserting report messageId | .updating report messageId =>
    ∃ row ∈ db.messages.map unreported, IsTargetOf report messageId row
  | _ => True

/-- A message that a task in `send_sms` stores, by the last response of the modem. -/
structure IsMessageOf (message : SmsOutgoingMessage) (lastResponse : ModemResponse X)
    (newMessage : SmsMessage) : Prop where
  phoneNumber : newMessage.phoneNumber = message.toNumber
  isOutgoing : newMessage.isOutgoing = true
  messageReference : ∀ reference, lastResponse = .sendResult reference →
    newMessage.messageReference = some reference

/-- What a task in `send_sms` has stored, and announced before it returned. -/
def SendHolds (context : AppContext) (db : SMSDatabase) (t : List (BroadcastEvent X))
    (task : SendCall X) : Prop :=
  match task.stage with
  | .storing newMessage _ lastResponse => IsMessageOf task.message lastResponse newMessage
  | .stored newMessage messageId _ lastResponse =>
    IsMessageOf task.message lastResponse newMessage ∧
      ∃ row ∈ db.messages.map unreported, IsRowOf context newMessage messageId row
  | .finished (.ok (some messageId, lastResponse)) => ∃ newMessage,
    IsMessageOf task.message lastResponse newMessage ∧
      (∃ row ∈ db.messages.map unreported, IsRowOf context newMessage messageId row) ∧
      (context.broadcaster = true → .outgoingMessage newMessage (some messageId) ∈ t)
  | .finished _ => True

section

variable {db db' : SMSDatabase} {t u : List (BroadcastEvent X)}

theorem exists_row_mono {P : MessageRow → Prop}
    (hrows : db.messages.map unreported <+: db'.messages.map unreported)
    (h : ∃ row ∈ db.messages.map unreported, P row) :
    ∃ row ∈ db'.messages.map unreported, P row := by
  obtain ⟨row, hrow, hP⟩ := h
  exact ⟨row, hrows.subset hrow, hP⟩

theorem Holds.mono {event : BroadcastEvent X}
    (hrows : db.messages.map unreported <+: db'.messages.map unreported)
    (h : Holds context db event) : Holds context db' event := by
  unfold Holds at h ⊢
  split at h <;> first | exact exists_row_mono hrows h | trivial

theorem ChannelHolds.mono {channel : ChannelTask}
    (hrows : db.messages.map unreported <+: db'.messages.map unreported)
    (h : ChannelHolds context db channel) : ChannelHolds context db' channel := by
  unfold ChannelHolds at h ⊢
  split at h <;> first | exact exists_row_mono hrows h | trivial

theorem SendHolds.mono {task : SendCall X}
    (hrows : db.messages.map unreported <+: db'.messages.map unreported)
    (h : SendHolds context db t task) : SendHolds context db' (t ++ u) task := by
  unfold SendHolds at h ⊢
  split at h
  · exact h
  · exact ⟨h.1, exists_row_mono hrows h.2⟩
  · obtain ⟨newMessage, hmessage, hrow, hannounced⟩ := h
    exact ⟨newMessage, hmessage, exists_row_mono hrows hrow,
      fun hbroadcaster => List.mem_append_left _ (hannounced hbroadcaster)⟩
  · trivial

/-- A row that is stored. -/
theorem exists_row_of_inserted {call : Call} {nonce : Nonce} {message : SmsMessage}
    {isFinal : Bool} {id : ℕ}
    (hinserted : db.insertMessage call (context.encryption.encrypt nonce) message isFinal =
      (db', .ok id)) :
    ∃ row ∈ db'.messages.map unreported, IsRowOf context message id row := by
  obtain ⟨content, hencrypt, -, -, hmessages⟩ := SMSDatabase.insertMessage_eq_ok hinserted
  rw [hmessages, List.map_append]
  exact ⟨_, List.mem_append_right _ (List.mem_singleton_self _),
    ⟨rfl, rfl, rfl, rfl, SMSEncryption.decrypt_of_encrypt hencrypt⟩⟩

/-- The row a report is looked up for. -/
theorem exists_row_of_target {call : Call} {report : SmsPartialDeliveryReport} {messageId : ℕ}
    (htarget : findTarget call db report = .ok messageId) :
    ∃ row ∈ db.messages.map unreported, IsTargetOf report messageId row := by
  rcases findTarget_cases call db report with
    ⟨⟨e, herror⟩, -⟩ | ⟨row, hrow, ⟨-, houtgoing, hnumber, hreference⟩, -, hfound⟩
  · rw [htarget] at herror
    cases herror
  · obtain rfl := Except.ok.inj (htarget.symm.trans hfound)
    exact ⟨unreported row, List.mem_map_of_mem hrow, ⟨rfl, houtgoing, hnumber, hreference⟩⟩

theorem sendHolds_ofAnswer (message : SmsOutgoingMessage)
    (sent : Except Str (Bool × Option (ModemResponse X))) :
    SendHolds context db t
      { message, stage := .ofAnswer context.fromOutgoing message sent, dropped := false } := by
  match sent with
  | .error _ | .ok (_, none) | .ok (false, some _) => trivial
  | .ok (true, some lastResponse) =>
    cases hnew : newMessage context.fromOutgoing message lastResponse with
    | error e => simp only [SendHolds, SendStage.ofAnswer, hnew]
    | ok new =>
      obtain ⟨hnumber, hdirection, hreference⟩ := newMessage_fields hnew
      simp only [SendHolds, SendStage.ofAnswer, hnew]
      exact ⟨hnumber, hdirection, hreference⟩

/-- What the events, the task of `main_rx` and the tasks in `send_sms` go by holds. -/
structure Sound (context : AppContext) (s : App X) (t : List (BroadcastEvent X)) : Prop where
  events : ∀ event ∈ t, Holds context s.database event
  channel : ChannelHolds context s.database s.channel
  sends : ∀ task ∈ s.sends, SendHolds context s.database t task

theorem Sound.step (hsound : Sound context s t) (hmove : Move context s input s' out)
    (hout : ∀ event ∈ out, Holds context s'.database event)
    (hchannel : s'.channel = s.channel ∨ ChannelHolds context s'.database s'.channel)
    (hsends : ∀ task ∈ s'.sends, task ∈ s.sends ∨ SendHolds context s'.database (t ++ out) task) :
    Sound context s' (t ++ out) := by
  have hrows := hmove.rows_isPrefix
  refine ⟨fun event hevent => ?_, ?_, fun task htask => ?_⟩
  · exact (List.mem_append.mp hevent).elim (fun h => (hsound.events event h).mono hrows)
      (hout event)
  · exact hchannel.elim (fun h => h ▸ hsound.channel.mono hrows) id
  · exact (hsends task htask).elim (fun h => (hsound.sends task h).mono hrows) id

theorem Move.sound (hmove : Move context s input s' out) (hsound : Sound context s t) :
    Sound context s' (t ++ out) := by
  have hbroadcast : ∀ {event : BroadcastEvent X}, Holds context s'.database event →
      ∀ e ∈ context.broadcast event, Holds context s'.database e := by
    intro event hevent e he
    rw [AppContext.broadcast] at he
    split at he
    · exact List.mem_singleton.mp he ▸ hevent
    · cases he
  have hset : ∀ {send : ℕ} {task : SendCall X}, SendHolds context s'.database (t ++ out) task →
      ∀ task' ∈ s.sends.set send task,
        task' ∈ s.sends ∨ SendHolds context s'.database (t ++ out) task' := by
    intro send task htask task' htask'
    rcases List.mem_or_eq_of_mem_set htask' with hold | rfl
    · exact .inl hold
    · exact .inr htask
  have hquiet : ∀ event ∈ ([] : List (BroadcastEvent X)), Holds context s'.database event := by simp
  have hrows := hmove.rows_isPrefix
  have hstep := hsound.step hmove
  have hchannel := hsound.channel
  cases hmove with
  | whole | report | notStored | notInserted | updated | noTarget =>
    exact hstep hquiet (.inr trivial) fun _ => .inl
  | stored _ _ _ hinserted =>
    exact hstep hquiet (.inr (exists_row_of_inserted hinserted)) fun _ => .inl
  | @found call _ report _ =>
    refine hstep hquiet (.inr ?_) fun _ => .inl
    cases htarget : findTarget call s.database report with
    | error e => trivial
    | ok messageId => exact exists_row_of_target htarget
  | inserted _ _ heq =>
    rw [heq] at hchannel
    exact hstep hquiet (.inr (exists_row_mono hrows hchannel)) fun _ => .inl
  | @announceIncoming message rowId heq =>
    rw [heq] at hchannel
    refine hstep (hbroadcast ?_) (.inr trivial) fun _ => .inl
    cases rowId with
    | error e => trivial
    | ok rowId => exact hchannel
  | announceReport heq =>
    rw [heq] at hchannel
    exact hstep (hbroadcast hchannel) (.inr hchannel) fun _ => .inl
  | status | position => exact hstep (hbroadcast trivial) (.inl rfl) fun _ => .inl
  | answer message sent =>
    refine hstep hquiet (.inl rfl) fun task htask => ?_
    rcases List.mem_append.mp htask with hold | hnew
    · exact .inl hold
    · obtain rfl := List.mem_singleton.mp hnew
      exact .inr (sendHolds_ofAnswer message sent)
  | sendNotStored => exact hstep hquiet (.inl rfl) (hset trivial)
  | sendStored _ _ htask hstage hinserted =>
    have hholds := hsound.sends _ (List.mem_of_getElem? htask)
    rw [SendHolds, hstage] at hholds
    exact hstep hquiet (.inl rfl) (hset ⟨hholds, exists_row_of_inserted hinserted⟩)
  | failureStored _ _ htask hstage =>
    have hholds := hsound.sends _ (List.mem_of_getElem? htask)
    rw [SendHolds, hstage] at hholds
    exact hstep hquiet (.inl rfl) (hset ⟨hholds.1, exists_row_mono hrows hholds.2⟩)
  | announceOutgoing htask _ hstage =>
    have hholds := hsound.sends _ (List.mem_of_getElem? htask)
    rw [SendHolds, hstage] at hholds
    refine hstep (hbroadcast hholds.2) (.inl rfl) (hset ⟨_, hholds.1, hholds.2, ?_⟩)
    intro hbroadcaster
    rw [AppContext.broadcast, if_pos hbroadcaster]
    exact List.mem_append_right _ (List.mem_singleton_self _)
  | drop htask =>
    have hholds := hsound.sends _ (List.mem_of_getElem? htask)
    exact hstep hquiet (.inl rfl) (hset (hholds.mono hrows))
  | _ => exact hstep hquiet (.inl rfl) fun _ => .inl

/-- **Announced messages are stored.** An event with an id names a row, which reads back as the
message that was announced; a report is announced for a row of its number and reference; and a
request to send that was answered with an id has a row under the reference of the modem, and was
announced before. -/
theorem announced_stored {h : List (App X × AppInput X)}
    (hrun : Run (step context) (new db) h s t) :
    (∀ message messageId, .incomingMessage message (some messageId) ∈ t ∨
        .outgoingMessage message (some messageId) ∈ t →
      ∃ row ∈ s.database.messages, IsRowOf context message messageId row) ∧
    (∀ messageId report, .deliveryReport messageId report ∈ t →
      ∃ row ∈ s.database.messages, IsTargetOf report messageId row) ∧
    ∀ task ∈ s.sends, ∀ messageId lastResponse,
      task.stage = .finished (.ok (some messageId, lastResponse)) → ∃ newMessage,
        IsMessageOf task.message lastResponse newMessage ∧
        (∃ row ∈ s.database.messages, IsRowOf context newMessage messageId row) ∧
        (context.broadcaster = true → .outgoingMessage newMessage (some messageId) ∈ t) := by
  have hsound : Sound context s t := by
    refine hrun.induct (P := fun _ s t => Sound context s t)
      (show Sound context (new db) [] from ⟨by simp, trivial, by simp [new]⟩) ?_
    intro h s t input s' out _ hsound hstep
    exact (step_move hstep).sound hsound
  have hrow : ∀ message messageId,
      (∃ row ∈ s.database.messages.map unreported, IsRowOf context message messageId row) →
      ∃ row ∈ s.database.messages, IsRowOf context message messageId row := by
    rintro message messageId ⟨_, hmem, hof⟩
    obtain ⟨row, hrow, rfl⟩ := List.mem_map.mp hmem
    exact ⟨row, hrow, hof.messageId, hof.phoneNumber, hof.messageReference, hof.isOutgoing,
      hof.content⟩
  refine ⟨fun message messageId hevent => hrow _ _ ?_, fun messageId report hevent => ?_,
    fun task htask messageId lastResponse hstage => ?_⟩
  · exact hevent.elim (hsound.events _) (hsound.events _)
  · obtain ⟨_, hmem, hof⟩ := hsound.events _ hevent
    obtain ⟨row, hrow, rfl⟩ := List.mem_map.mp hmem
    exact ⟨row, hrow, hof.messageId, hof.isOutgoing, hof.phoneNumber, hof.messageReference⟩
  · have hholds := hsound.sends task htask
    rw [SendHolds, hstage] at hholds
    obtain ⟨newMessage, hmessage, hstored, hannounced⟩ := hholds
    exact ⟨newMessage, hmessage, hrow _ _ hstored, hannounced⟩

theorem announced_stored_bothWays :
    ∃ (h : List (App .rejecting × AppInput .rejecting)) (s : App .rejecting)
      (t : List (BroadcastEvent .rejecting)),
      Run (step .ofZeros) (new .empty) h s t ∧
      rowsOf t = [2, 1] ∧ (s.database.messages.map fun row => (row.messageId, row.phoneNumber)) =
        [(1, "+2".toList), (2, "+1".toList)] ∧
      (∀ message messageId, .incomingMessage message (some messageId) ∈ t ∨
          .outgoingMessage message (some messageId) ∈ t →
        ∃ row ∈ s.database.messages, IsRowOf .ofZeros message messageId row) ∧
      (∀ messageId report, .deliveryReport messageId report ∈ t →
        ∃ row ∈ s.database.messages, IsTargetOf report messageId row) ∧
      ∀ task ∈ s.sends, ∀ messageId lastResponse,
        task.stage = .finished (.ok (some messageId, lastResponse)) → ∃ newMessage,
          IsMessageOf task.message lastResponse newMessage ∧
          (∃ row ∈ s.database.messages, IsRowOf .ofZeros newMessage messageId row) ∧
          (AppContext.ofZeros.broadcaster = true →
            .outgoingMessage newMessage (some messageId) ∈ t) := by
  obtain ⟨s, t, -, hrun, hseen⟩ := Run.of_execute (step (X := .rejecting) .ofZeros) (new .empty)
    bothWays
    (fun r => (rowsOf r.2, r.1.database.messages.map fun row => (row.messageId, row.phoneNumber)))
    (b := ([2, 1], [(1, "+2".toList), (2, "+1".toList)])) (by decide +kernel)
  obtain ⟨hannounced, hrows⟩ := Prod.mk.inj hseen
  exact ⟨_, s, t, hrun, hannounced, hrows, announced_stored hrun⟩

end

end App

end SmsServer
