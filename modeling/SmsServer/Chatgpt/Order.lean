import SmsServer.Chatgpt.Queues

/-!
# The order of replies of the ChatGPT example

A call *replaces* a queue if it inserts a new one where the map has one by then, which another call
for the same number has inserted since it looked. Replacing is the only way to a second queue of a
number (`oneQueue_iff`), and a worker leaves its loop only after its queue was replaced; what it
then removes from the map is the queue of another (`removed_other`). As long as no call replaces a
queue, the replies to each number come in the order in which its messages were accepted
(`answered_inOrder`).
-/

namespace SmsServer.Chatgpt.Server

open RustStd Machine

variable {D : DashMaps} {s s' : Server D} {input : Input} {out t : List Effect}
  {h : List (Server D × Input)}
  {phoneNumber : Str}

/-- The call inserts a queue where there is one. -/
def replaces (self : Server D) : Input → Bool
  | .call i =>
    match self.calls[i]? with
    | some (.creating task) => (D.get self.phoneQueues task.phoneNumber).isSome
    | _ => false
  | _ => false

/-- Every queue is the one that the map has for its number. -/
def Listed (s : Server D) : Prop :=
  ∀ queue phoneNumber, s.numbers[queue]? = some phoneNumber →
    D.get s.phoneQueues phoneNumber = some queue

theorem IsOpen.numbers {queue : ℕ} (hopen : s.IsOpen phoneNumber queue) :
    s.numbers[queue]? = some phoneNumber := by
  obtain ⟨q, hq, rfl, -⟩ := hopen
  exact getElem?_numbers hq

/-- What a worker removes from the map when it ends is the sender of another queue, whose worker is
in its loop. -/
theorem removed_other (hrun : Run step Server.new h s t) {i queue : ℕ} {q : Queue}
    (hq : s.queues[i]? = some q) (hclosing : q.stage = .closing)
    (hlookup : D.get s.phoneQueues q.phoneNumber = some queue) :
    queue ≠ i ∧ s.IsOpen q.phoneNumber queue := by
  have hopen := (run_wellFormed hrun).stored q.phoneNumber queue hlookup
  refine ⟨?_, hopen⟩
  rintro rfl
  obtain ⟨q₀, hq₀, -, hstage⟩ := hopen
  obtain rfl := Option.some.inj (hq.symm.trans hq₀)
  exact hstage (.inl hclosing)

/-- No worker has left its loop where every queue is in the map. -/
theorem Listed.working (hlisted : s.Listed) (hwf : s.WellFormed) {q : Queue} (hmem : q ∈ s.queues) :
    ¬ q.stage.IsClosed := by
  obtain ⟨queue, hq⟩ := List.mem_iff_getElem?.mp hmem
  obtain ⟨q₀, hq₀, -, hopen⟩ :=
    hwf.stored q.phoneNumber queue (hlisted queue q.phoneNumber (getElem?_numbers hq))
  obtain rfl := Option.some.inj (hq.symm.trans hq₀)
  exact hopen

theorem Listed.eq_of_phoneNumber_eq (hlisted : s.Listed) {q q' : Queue} (hmem : q ∈ s.queues)
    (hmem' : q' ∈ s.queues) (heq : q.phoneNumber = q'.phoneNumber) : q = q' := by
  obtain ⟨i, hq⟩ := List.mem_iff_getElem?.mp hmem
  obtain ⟨j, hq'⟩ := List.mem_iff_getElem?.mp hmem'
  have hi := hlisted i q.phoneNumber (getElem?_numbers hq)
  have hj := hlisted j q'.phoneNumber (getElem?_numbers hq')
  obtain rfl : i = j := Option.some.inj (hi.symm.trans (heq ▸ hj))
  exact Option.some.inj (hq.symm.trans hq')

theorem Listed.nodup (hlisted : s.Listed) : s.numbers.Nodup := by
  refine List.nodup_iff_getElem?_ne_getElem?.mpr fun i j hij hj heq => ?_
  have hlast : s.numbers[j]? = some s.numbers[j] := List.getElem?_eq_getElem hj
  have hi := hlisted i s.numbers[j] (heq.trans hlast)
  have hj := hlisted j s.numbers[j] hlast
  exact hij.ne (Option.some.inj (hi.symm.trans hj))

/-- A call that replaces nothing inserts the first queue of its number. -/
theorem Listed.not_mem_of_created (hlisted : s.Listed) {i : ℕ} {task : MessageTask}
    (hcall : s.calls[i]? = some (.creating task)) (hreplaces : s.replaces (.call i) = false) :
    task.phoneNumber ∉ s.numbers := by
  have hnone : D.get s.phoneQueues task.phoneNumber = none := by
    simpa [replaces, hcall] using hreplaces
  intro hmem
  obtain ⟨queue, hqueue⟩ := List.mem_iff_getElem?.mp hmem
  cases hnone.symm.trans (hlisted queue task.phoneNumber hqueue)

/-- A call that replaces nothing leaves every queue in the map. -/
theorem Move.listed (hmove : Move s input s' out) (hwf : s.WellFormed) (hlisted : s.Listed)
    (hreplaces : s.replaces input = false) : s'.Listed := by
  have hkept : s'.numbers = s.numbers → s'.phoneQueues = s.phoneQueues → s'.Listed := by
    intro hnumbers hqueues queue phoneNumber hnumber
    rw [hqueues]
    exact hlisted queue phoneNumber (hnumbers ▸ hnumber)
  cases hmove with
  | created i task hcall =>
    have hnew := hlisted.not_mem_of_created hcall hreplaces
    intro queue phoneNumber hnumber
    replace hnumber : (s.numbers ++ [task.phoneNumber])[queue]? = some phoneNumber := by
      simpa [Server.numbers, Queue.new] using hnumber
    rcases Nat.lt_or_ge queue s.numbers.length with hlt | hge
    · rw [List.getElem?_append_left hlt] at hnumber
      have hne : phoneNumber ≠ task.phoneNumber := by
        rintro rfl
        exact hnew (List.mem_of_getElem? hnumber)
      exact (DashMaps.get_insert_of_ne hne).trans (hlisted queue phoneNumber hnumber)
    · rw [List.getElem?_append_right hge] at hnumber
      obtain ⟨hlt, heq⟩ := List.getElem?_eq_some_iff.mp hnumber
      rw [List.length_singleton] at hlt
      have hlength : s.numbers.length = s.queues.length := List.length_map _
      have hqueue : queue = s.queues.length := by omega
      obtain rfl : phoneNumber = task.phoneNumber := by
        rw [← heq, List.getElem_singleton]
      rw [hqueue]
      exact DashMaps.get_insert_self
  | accepted i task queue q hcall hq => exact hkept (map_phoneNumber_set hq rfl) rfl
  | worked i outcome q q' histories out hq hwork =>
    exact hkept (map_phoneNumber_set hq hwork.worksOn.phoneNumber) rfl
  | closed i outcome phoneNumber hq hsender => exact hkept (map_phoneNumber_set hq rfl) rfl
  | ended i outcome phoneNumber waiting hq =>
    exact absurd (.inl rfl) (hlisted.working hwf (List.mem_of_getElem? hq))
  | _ => exact hkept rfl rfl

theorem run_listed (hrun : Run step Server.new h s t)
    (hreplaces : ∀ p ∈ h, p.1.replaces p.2 = false) : s.Listed := by
  refine hrun.induct_of_guard (G := fun s input => s.replaces input = false)
    (P := fun s _ => s.Listed) (fun queue phoneNumber hnumber => by cases hnumber) ?_ hreplaces
  intro h s t input s' out hrun hlisted hreplaces hstep
  exact (step_move hstep).listed (run_wellFormed hrun) hlisted hreplaces

/-- A call that replaces a queue leaves its number with two. -/
theorem Move.not_nodup (hmove : Move s input s' out) (hwf : s.WellFormed)
    (hreplaces : s.replaces input = true) : ¬ s'.numbers.Nodup := by
  cases hmove with
  | created i task hcall =>
    obtain ⟨queue, hqueue⟩ : ∃ queue, D.get s.phoneQueues task.phoneNumber = some queue := by
      simpa [replaces, hcall, Option.isSome_iff_exists] using hreplaces
    have hmem : task.phoneNumber ∈ s.numbers :=
      List.mem_of_getElem? (hwf.stored task.phoneNumber queue hqueue).numbers
    intro hnodup
    replace hnodup : (s.numbers ++ [task.phoneNumber]).Nodup := by
      simpa [Server.numbers, Queue.new] using hnodup
    exact (List.nodup_append.mp hnodup).2.2 _ hmem _ (List.mem_singleton_self _) rfl
  | found i task queue hcall hqueue => simp [replaces, hcall] at hreplaces
  | missed i task hcall => simp [replaces, hcall] at hreplaces
  | dropped i task queue q hcall hq hended => simp [replaces, hcall] at hreplaces
  | accepted i task queue q hcall hq => simp [replaces, hcall] at hreplaces
  | _ => cases hreplaces

/-- **One queue.** No two queues of a run are for one number, exactly if no call replaced one. -/
theorem oneQueue_iff (hrun : Run step Server.new h s t) :
    s.numbers.Nodup ↔ ∀ p ∈ h, p.1.replaces p.2 = false := by
  refine ⟨?_, fun hreplaces => (run_listed hrun hreplaces).nodup⟩
  refine hrun.induct (P := fun h s _ => s.numbers.Nodup → ∀ p ∈ h, p.1.replaces p.2 = false)
    (fun _ p hp => by cases hp) ?_
  intro h s t input s' out hrun ih hstep hnodup
  have hmove := step_move hstep
  obtain ⟨created, hnumbers⟩ := hmove.numbers
  have hbefore : s.numbers.Nodup := (List.nodup_append.mp (hnumbers ▸ hnodup)).1
  refine List.forall_mem_append.mpr ⟨ih hbefore, List.forall_mem_singleton.mpr ?_⟩
  by_contra hreplaces
  exact hmove.not_nodup (run_wellFormed hrun) (Bool.of_not_eq_false hreplaces) hnodup

/-- Of two calls that find no queue, the second replaces the queue of the first. -/
theorem oneQueue_iff_replaced :
    ∃ (h : List (Server .ofAList × Input)) (s : Server .ofAList) (t : List Effect),
      Run step Server.new h s t ∧
      s.numbers = ["+1".toList, "+1".toList] ∧ ∃ p ∈ h, p.1.replaces p.2 = true := by
  obtain ⟨s, t, -, hrun, hnumbers⟩ := Run.of_execute step (Server.new (D := .ofAList))
    [.webhook ⟨"incoming".toList, "+1".toList, "Hi".toList⟩,
      .webhook ⟨"incoming".toList, "+1".toList, "#".toList⟩, .call 0, .call 1, .call 0, .call 1]
    (fun r => r.1.numbers) (b := ["+1".toList, "+1".toList]) (by decide +kernel)
  have htwo : ¬ s.numbers.Nodup := by
    rw [show s.numbers = _ from hnumbers]
    decide
  refine ⟨_, s, t, hrun, hnumbers, ?_⟩
  by_contra hnone
  refine htwo ((oneQueue_iff hrun).mpr fun p hp => ?_)
  exact Bool.of_not_eq_true fun hreplaces => hnone ⟨p, hp, hreplaces⟩

/-! ### The messages of a number -/

/-- The accepted messages of a number. -/
def acceptedFor (phoneNumber : Str) : List Effect → List MessageTask :=
  List.filterMap fun
    | .accepted _ task => if task.phoneNumber = phoneNumber then some task else none
    | _ => none

/-- The messages of a number whose reply was sent. -/
def repliedFor (phoneNumber : Str) : List Effect → List MessageTask :=
  List.filterMap fun
    | .replied _ task _ => if task.phoneNumber = phoneNumber then some task else none
    | _ => none

/-- What is pending in the queue that the map has for a number. -/
def pendingFor (self : Server D) (phoneNumber : Str) : List MessageTask :=
  ((D.get self.phoneQueues phoneNumber).map self.pending).getD []

theorem mem_repliedBy {queue : ℕ} {task : MessageTask} {reply : Str}
    (hmem : Effect.replied queue task reply ∈ t) : task ∈ repliedBy queue t :=
  List.mem_filterMap.mpr ⟨_, hmem, if_pos rfl⟩

/-- What was replied to was accepted, and is for the number of the queue. -/
theorem run_replied_numbers (hrun : Run step Server.new h s t) {queue : ℕ} {task : MessageTask}
    {reply : Str} (hmem : Effect.replied queue task reply ∈ t) :
    s.numbers[queue]? = some task.phoneNumber := by
  have haccepted : task ∈ acceptedBy queue t := by
    rw [← run_accounted hrun queue]
    exact List.mem_append_left _ (mem_repliedBy hmem)
  exact run_accepted_numbers hrun (mem_acceptedBy.mp haccepted)

/-- Where every queue is in the map, queues differ where their numbers do. -/
theorem Listed.eq_iff (hlisted : s.Listed) {queue queue' : ℕ} {phoneNumber phoneNumber' : Str}
    (hqueue : s.numbers[queue]? = some phoneNumber)
    (hqueue' : s.numbers[queue']? = some phoneNumber') :
    queue' = queue ↔ phoneNumber' = phoneNumber := by
  constructor
  · rintro rfl
    exact Option.some.inj (hqueue'.symm.trans hqueue)
  · rintro rfl
    exact Option.some.inj ((hlisted _ _ hqueue').symm.trans (hlisted _ _ hqueue))

/-- Where every queue is in the map, the messages of a number are those of its queue. -/
theorem Listed.messagesFor (hlisted : s.Listed) (hrun : Run step Server.new h s t) {queue : ℕ}
    (hqueue : s.numbers[queue]? = some phoneNumber) :
    acceptedFor phoneNumber t = acceptedBy queue t ∧
      repliedFor phoneNumber t = repliedBy queue t := by
  constructor
  · refine List.filterMap_congr fun effect hmem => ?_
    cases effect with
    | accepted queue' task =>
      have hqueue' := run_accepted_numbers hrun hmem
      simp only [hlisted.eq_iff hqueue hqueue']
    | _ => rfl
  · refine List.filterMap_congr fun effect hmem => ?_
    cases effect with
    | replied queue' task reply =>
      have hqueue' := run_replied_numbers hrun hmem
      simp only [hlisted.eq_iff hqueue hqueue']
    | _ => rfl

/-- A number without a queue has no messages. -/
theorem run_noMessages (hrun : Run step Server.new h s t) (hnone : phoneNumber ∉ s.numbers) :
    acceptedFor phoneNumber t = [] ∧ repliedFor phoneNumber t = [] := by
  constructor
  · refine List.filterMap_eq_nil_iff.mpr fun effect hmem => ?_
    cases effect with
    | accepted queue task =>
      refine if_neg ?_
      rintro rfl
      exact hnone (List.mem_of_getElem? (run_accepted_numbers hrun hmem))
    | _ => rfl
  · refine List.filterMap_eq_nil_iff.mpr fun effect hmem => ?_
    cases effect with
    | replied queue task reply =>
      refine if_neg ?_
      rintro rfl
      exact hnone (List.mem_of_getElem? (run_replied_numbers hrun hmem))
    | _ => rfl

theorem run_inOrder (hrun : Run step Server.new h s t)
    (hreplaces : ∀ p ∈ h, p.1.replaces p.2 = false) (phoneNumber : Str) :
    repliedFor phoneNumber t ++ s.pendingFor phoneNumber = acceptedFor phoneNumber t := by
  have hlisted := run_listed hrun hreplaces
  cases hlookup : D.get s.phoneQueues phoneNumber with
  | none =>
    have hnone : phoneNumber ∉ s.numbers := by
      intro hmem
      obtain ⟨queue, hqueue⟩ := List.mem_iff_getElem?.mp hmem
      cases hlookup.symm.trans (hlisted queue phoneNumber hqueue)
    obtain ⟨haccepted, hreplied⟩ := run_noMessages hrun hnone
    rw [haccepted, hreplied, pendingFor, hlookup]
    rfl
  | some queue =>
    obtain ⟨haccepted, hreplied⟩ := hlisted.messagesFor hrun
      ((run_wellFormed hrun).stored phoneNumber queue hlookup).numbers
    rw [haccepted, hreplied, pendingFor, hlookup]
    exact run_accounted hrun queue

/-- **In order.** As long as no call replaces a queue, no worker leaves its loop, and each number is
replied to in the order in which its messages were accepted. -/
theorem answered_inOrder (hrun : Run step Server.new h s t)
    (hreplaces : ∀ p ∈ h, p.1.replaces p.2 = false) :
    (∀ q ∈ s.queues, ¬ q.stage.IsClosed) ∧
      ∀ phoneNumber, repliedFor phoneNumber t ++ s.pendingFor phoneNumber =
        acceptedFor phoneNumber t :=
  ⟨fun _ hmem => (run_listed hrun hreplaces).working (run_wellFormed hrun) hmem,
    run_inOrder hrun hreplaces⟩

/-- Two messages of one number, the second sent while the first is processed. -/
theorem answered_inOrder_twoMessages :
    ∃ (h : List (Server .ofAList × Input)) (s : Server .ofAList) (t : List Effect),
      Run step Server.new h s t ∧
      repliedFor "+1".toList t =
        [⟨"+1".toList, "Hi".toList⟩, ⟨"+1".toList, "#".toList⟩] ∧
      (∀ q ∈ s.queues, ¬ q.stage.IsClosed) ∧
      ∀ phoneNumber, repliedFor phoneNumber t ++ s.pendingFor phoneNumber =
        acceptedFor phoneNumber t := by
  let inputs : List Input :=
    [.webhook ⟨"incoming".toList, "+1".toList, "Hi".toList⟩, .call 0, .call 0, .call 0,
      .worker 0 (.error []), .webhook ⟨"incoming".toList, "+1".toList, "#".toList⟩, .call 1,
      .call 1, .worker 0 (.error []), .worker 0 (.error "timed out".toList), .worker 0 (.error []),
      .worker 0 (.error []), .worker 0 (.error []), .worker 0 (.error []), .worker 0 (.error [])]
  obtain ⟨s, t, -, hrun, hreplied⟩ := Run.of_execute step (Server.new (D := .ofAList)) inputs
    (fun r => repliedFor "+1".toList r.2)
    (b := [⟨"+1".toList, "Hi".toList⟩, ⟨"+1".toList, "#".toList⟩]) (by decide +kernel)
  have hall : (history step (Server.new (D := .ofAList)) inputs).all
      (fun p => !p.1.replaces p.2) = true := by
    decide +kernel
  have hreplaces : ∀ p ∈ history step (Server.new (D := .ofAList)) inputs,
      p.1.replaces p.2 = false := by
    simpa using hall
  exact ⟨_, s, t, hrun, hreplied, answered_inOrder hrun hreplaces⟩

end SmsServer.Chatgpt.Server
