import SmsServer.Http.ModemRoutes

/-!
# Handlers beside the worker

Any number of handlers that ask the modem run beside the worker and all its other requesters, and
every order of steps is allowed. A handler that is under way is what its route's handler goes on as
after the calls it made (`Followed`), so a response is the outcome of a dialogue of its own calls,
each answered in kind.

* `answered_error`: a handler that fails tells of an error of one of its own calls, and never of an
  unexpected response.
* `deviceInfo_answered`: `sms_get_device_info` fills in what the modem answers its five requests
  with, and fails as a whole if one of the calls does.
-/

namespace SmsServer

open RustStd Machine

variable {X : Crates}

/-! ### The system -/

/-- Where a handler is. -/
inductive HandlerStage (X : Crates) (A : Type)
  | ready (rest : Client ModemRequest (Except Str (ModemResponse X)) (Except HttpError A))
  /-- Waiting for the response to a command. -/
  | waiting (command : OutgoingCommand)
      (next : Except Str (ModemResponse X) →
        Client ModemRequest (Except Str (ModemResponse X)) (Except HttpError A))
  | finished

/-- What is left of a handler that is under way. -/
def HandlerStage.rest? {A : Type} : HandlerStage X A →
    Option (Client ModemRequest (Except Str (ModemResponse X)) (Except HttpError A))
  | ready rest => some rest
  | waiting command next => some (.call command.request next)
  | finished => none

/-- A request of a client of the server, and its handler. -/
structure HandlerTask (X : Crates) where
  route : ModemRoute
  stage : HandlerStage X (route.Body X)

/-- The command whose response a handler waits for. -/
def HandlerTask.command? (self : HandlerTask X) : Option OutgoingCommand :=
  match self.stage with
  | .waiting command _ => some command
  | _ => none

/-- The handlers, and the worker with all calls of `send_request`. -/
structure Handlers (X : Crates) where
  requests : RequestState X
  tasks : List (HandlerTask X)

inductive HandlerInput
  /-- A client of the server requests a route. -/
  | arrive (route : ModemRoute)
  /-- A handler takes a step. -/
  | advance (i : ℕ)
  /-- A step of the worker or of another requester. -/
  | request (input : RequestInput)

inductive HandlerEffect (X : Crates)
  | request (effect : RequestEffect X)
  /-- A call of a handler returned. -/
  | called (i : ℕ) (command : OutgoingCommand) (result : Except Str (ModemResponse X))
  | answered (i : ℕ) (route : ModemRoute) (response : Except HttpError (route.Body X))

namespace HandlerEffect

/-- What requesters see. -/
def requestsOf : List (HandlerEffect X) → List (RequestEffect X) :=
  List.filterMap fun
    | request effect => some effect
    | called _ command result => some (.returned command result)
    | answered .. => none

/-- The calls of a handler that returned. -/
def exchangesOf (i : ℕ) :
    List (HandlerEffect X) → List (ModemRequest × Except Str (ModemResponse X)) :=
  List.filterMap fun
    | called j command result => if j = i then some (command.request, result) else none
    | _ => none

variable {i j : ℕ} (t u : List (HandlerEffect X))

@[simp] theorem requestsOf_append : requestsOf (t ++ u) = requestsOf t ++ requestsOf u :=
  List.filterMap_append

@[simp] theorem exchangesOf_append :
    exchangesOf i (t ++ u) = exchangesOf i t ++ exchangesOf i u :=
  List.filterMap_append

@[simp] theorem exchangesOf_request (out : List (RequestEffect X)) :
    exchangesOf i (out.map request) = [] := by
  simp [exchangesOf, List.filterMap_map]

@[simp] theorem requestsOf_request (out : List (RequestEffect X)) :
    requestsOf (out.map request) = out := by
  rw [requestsOf, List.filterMap_map]
  exact List.filterMap_some

end HandlerEffect

namespace Handlers

open HandlerEffect (requestsOf exchangesOf requestsOf_request exchangesOf_append)

/-- A handler takes a step: it responds, makes its next call, or goes on with what the call it waits
for returned. -/
def advance (self : Handlers X) (i : ℕ) (task : HandlerTask X) :
    Option (Handlers X × List (HandlerEffect X)) :=
  match task.stage with
  | .ready (.done response) =>
    some ({ self with tasks := self.tasks.set i ⟨task.route, .finished⟩ },
      [.answered i task.route response])
  | .ready (.call request next) =>
    let command := OutgoingCommand.new self.requests.loop.commandSequence
      self.requests.loop.nextReply request none
    match self.requests.sendRequest request none with
    -- the queue is full
    | (requests, .returned _ result :: _) =>
      some (⟨requests, self.tasks.set i ⟨task.route, .ready (next result)⟩⟩,
        [.called i command result])
    | (requests, _) => some (⟨requests, self.tasks.set i ⟨task.route, .waiting command next⟩⟩, [])
  | .waiting command next => do
    let call ← self.requests.waiting.find? fun call => call.command = command
    let result ← self.requests.result? call
    return (⟨self.requests.finish call, self.tasks.set i ⟨task.route, .ready (next result)⟩⟩,
      [.called i command result])
  | .finished => none

/-- A call that a handler waits for is polled by this handler alone. -/
def IsOther (self : Handlers X) : RequestInput → Prop
  | .poll call => call.command ∉ self.tasks.filterMap HandlerTask.command?
  | _ => True

instance (self : Handlers X) : DecidablePred self.IsOther
  | .poll call =>
    inferInstanceAs (Decidable (call.command ∉ self.tasks.filterMap HandlerTask.command?))
  | .elapse _ | .sendRequest .. | .work _ => inferInstanceAs (Decidable True)

def step (display : TransitionError X → Str) (state : ModemRouteState X) (self : Handlers X) :
    HandlerInput → Option (Handlers X × List (HandlerEffect X))
  | .arrive route =>
    some ({ self with tasks := self.tasks ++ [⟨route, .ready (route.handler state).run⟩] }, [])
  | .advance i => self.tasks[i]?.bind (self.advance i)
  | .request input =>
    if self.IsOther input then
      (self.requests.step display input).map fun next =>
        ({ self with requests := next.1 }, next.2.map .request)
    else none

/-- No request arrived yet. -/
def start (X : Crates) (config : ModemConfig) (port : Port) : Handlers X :=
  { requests := .start X config port, tasks := [] }

/-- What a step does. -/
inductive Turn (display : TransitionError X → Str) (state : ModemRouteState X) (s : Handlers X) :
    Handlers X → List (HandlerEffect X) → Prop
  | arrived (route : ModemRoute) :
    Turn display state s
      { s with tasks := s.tasks ++ [⟨route, .ready (route.handler state).run⟩] } []
  | answered (i : ℕ) (route : ModemRoute) (response : Except HttpError (route.Body X))
      (htask : s.tasks[i]? = some ⟨route, .ready (.done response)⟩) :
    Turn display state s { s with tasks := s.tasks.set i ⟨route, .finished⟩ }
      [.answered i route response]
  /-- The queue is full. -/
  | refused (i : ℕ) (route : ModemRoute) (command : OutgoingCommand)
      (next : Except Str (ModemResponse X) →
        Client ModemRequest (Except Str (ModemResponse X)) (Except HttpError (route.Body X)))
      (result : Except Str (ModemResponse X)) (requests : RequestState X)
      (htask : s.tasks[i]? = some ⟨route, .ready (.call command.request next)⟩)
      (hrequests : s.requests.step display (.sendRequest command.request none) =
        some (requests, [.returned command result])) :
    Turn display state s ⟨requests, s.tasks.set i ⟨route, .ready (next result)⟩⟩
      [.called i command result]
  | queued (i : ℕ) (route : ModemRoute) (command : OutgoingCommand)
      (next : Except Str (ModemResponse X) →
        Client ModemRequest (Except Str (ModemResponse X)) (Except HttpError (route.Body X)))
      (requests : RequestState X)
      (htask : s.tasks[i]? = some ⟨route, .ready (.call command.request next)⟩)
      (hrequests : s.requests.step display (.sendRequest command.request none) =
        some (requests, [])) :
    Turn display state s ⟨requests, s.tasks.set i ⟨route, .waiting command next⟩⟩ []
  | resumed (i : ℕ) (route : ModemRoute) (command : OutgoingCommand)
      (next : Except Str (ModemResponse X) →
        Client ModemRequest (Except Str (ModemResponse X)) (Except HttpError (route.Body X)))
      (result : Except Str (ModemResponse X)) (call : WaitingCall) (requests : RequestState X)
      (htask : s.tasks[i]? = some ⟨route, .waiting command next⟩)
      (hrequests : s.requests.step display (.poll call) =
        some (requests, [.returned command result])) :
    Turn display state s ⟨requests, s.tasks.set i ⟨route, .ready (next result)⟩⟩
      [.called i command result]
  | requested (input : RequestInput) (requests : RequestState X) (out : List (RequestEffect X))
      (hrequests : s.requests.step display input = some (requests, out)) :
    Turn display state s { s with requests } (out.map .request)

variable {display : TransitionError X → Str} {state : ModemRouteState X}

/-- **Case analysis.** Every step is a turn. -/
theorem step_turn {s s' : Handlers X} {input : HandlerInput} {out : List (HandlerEffect X)}
    (h : s.step display state input = some (s', out)) : Turn display state s s' out := by
  cases input with
  | arrive route =>
    obtain ⟨rfl, rfl⟩ := Prod.mk.inj (Option.some_inj.mp h)
    exact .arrived route
  | request input =>
    obtain ⟨-, h⟩ := Option.ite_none_right_eq_some.mp h
    obtain ⟨⟨requests, out⟩, hrequests, h⟩ := Option.map_eq_some_iff.mp h
    obtain ⟨rfl, rfl⟩ := Prod.mk.inj h
    exact .requested input requests out hrequests
  | advance i =>
    obtain ⟨⟨route, stage⟩, htask, h⟩ := Option.bind_eq_some_iff.mp h
    cases stage with
    | finished => cases h
    | waiting command next =>
      obtain ⟨call, hcall, h⟩ := Option.bind_eq_some_iff.mp h
      obtain ⟨result, hresult, h⟩ := Option.bind_eq_some_iff.mp h
      obtain ⟨rfl, rfl⟩ := Prod.mk.inj (Option.some_inj.mp h)
      obtain rfl : call.command = command := by simpa using List.find?_some hcall
      refine .resumed i route _ next result call _ htask ?_
      rw [RequestState.step, if_pos (List.mem_of_find?_eq_some hcall), hresult]
      rfl
    | ready rest =>
      cases rest with
      | done response =>
        obtain ⟨rfl, rfl⟩ := Prod.mk.inj (Option.some_inj.mp h)
        exact .answered i route response htask
      | call request next =>
        by_cases hroom :
            s.requests.loop.commandRx.length < s.requests.loop.worker.config.cmdChannelBufferSize
        · simp only [advance, RequestState.sendRequest, hroom, if_true, Option.some_inj] at h
          obtain ⟨rfl, rfl⟩ := Prod.mk.inj h
          refine .queued i route (.new _ _ request none) next _ htask ?_
          simp only [RequestState.step, RequestState.sendRequest, OutgoingCommand.new, hroom,
            if_true]
        · simp only [advance, RequestState.sendRequest, hroom, if_false, Option.some_inj] at h
          obtain ⟨rfl, rfl⟩ := Prod.mk.inj h
          refine .refused i route (.new _ _ request none) next _ _ htask ?_
          simp only [RequestState.step, RequestState.sendRequest, OutgoingCommand.new, hroom,
            if_false]

/-! ### Handlers that are under way -/

section

variable {config : ModemConfig} {port : Port} {h : List (Handlers X × HandlerInput)}
  {s : Handlers X} {t : List (HandlerEffect X)}

/-- What the requesters and the worker do in a run is a run of theirs. -/
theorem run_requests (hrun : Run (step display state) (start X config port) h s t) :
    ∃ h', Run (RequestState.step display) (RequestState.start X config port) h' s.requests
      (requestsOf t) := by
  refine hrun.exists_component (π := Handlers.requests) fun s _ s' out hstep => ?_
  cases step_turn hstep with
  | arrived => exact .inr ⟨rfl, rfl⟩
  | answered => exact .inr ⟨rfl, rfl⟩
  | refused _ _ command _ _ _ _ hrequests => exact .inl ⟨_, hrequests⟩
  | queued _ _ command _ _ _ hrequests => exact .inl ⟨_, hrequests⟩
  | resumed _ _ _ _ _ call _ _ hrequests => exact .inl ⟨_, hrequests⟩
  | requested input _ out hrequests =>
    refine .inl ⟨input, ?_⟩
    show _ = some (_, requestsOf (out.map .request))
    rw [requestsOf_request]
    exact hrequests

/-- The calls of a handler are answered in kind. -/
theorem run_inKind (hrun : Run (step display state) (start X config port) h s t) (i : ℕ) :
    InKind (exchangesOf i t) := by
  rintro ⟨request, result⟩ hp response rfl
  obtain ⟨effect, heffect, heq⟩ := List.mem_filterMap.mp hp
  cases effect with
  | called j command result =>
    obtain ⟨-, heq⟩ := Option.ite_none_right_eq_some.mp heq
    obtain ⟨rfl, rfl⟩ := Prod.mk.inj (Option.some_inj.mp heq)
    obtain ⟨_, hrequests⟩ := run_requests hrun
    exact RequestState.run_isFor hrequests (List.mem_filterMap.mpr ⟨_, heffect, rfl⟩)
  | _ => cases heq

/-- A handler that is under way goes on as the handler of its route does after the calls it made,
and one that responded did so at the end of its dialogue. -/
structure Followed (state : ModemRouteState X) (s : Handlers X) (t : List (HandlerEffect X)) :
    Prop where
  fresh : ∀ i, s.tasks.length ≤ i → exchangesOf i t = []
  leads : ∀ i (route : ModemRoute) (stage : HandlerStage X (route.Body X)) rest,
    s.tasks[i]? = some ⟨route, stage⟩ → stage.rest? = some rest →
      (route.handler state).run.Leads (exchangesOf i t) rest
  answered : ∀ i (route : ModemRoute) (response : Except HttpError (route.Body X)),
    .answered i route response ∈ t →
    s.tasks[i]? = some ⟨route, .finished⟩ ∧
      (route.handler state).run.Dialogue (exchangesOf i t) response

/-- A step of the other requesters. -/
theorem Followed.request (hfollowed : Followed state s t) (requests : RequestState X)
    (out : List (RequestEffect X)) :
    Followed state { s with requests } (t ++ out.map .request) where
  fresh i hi := by simpa using hfollowed.fresh i hi
  leads i route stage rest htask hrest := by
    simpa using hfollowed.leads i route stage rest htask hrest
  answered i route response h := by
    rcases List.mem_append.mp h with h | h
    · simpa using hfollowed.answered i route response h
    · obtain ⟨_, -, heq⟩ := List.mem_map.mp h
      cases heq

/-- A new handler has made no calls. -/
theorem Followed.arrive (hfollowed : Followed state s t) (route : ModemRoute) :
    Followed state { s with tasks := s.tasks ++ [⟨route, .ready (route.handler state).run⟩] }
      (t ++ []) := by
  rw [List.append_nil]
  have hold : ∀ {i : ℕ}, i < s.tasks.length →
      (s.tasks ++ [⟨route, .ready (route.handler state).run⟩])[i]? = s.tasks[i]? := fun hi =>
    List.getElem?_append_left hi
  refine ⟨fun i hi => ?_, fun i route' stage rest hget hrest => ?_, fun i route' response h => ?_⟩
  · rw [List.length_append, List.length_singleton] at hi
    exact hfollowed.fresh i (by omega)
  · have hi := (List.getElem?_eq_some_iff.mp hget).1
    rw [List.length_append, List.length_singleton] at hi
    rcases lt_or_eq_of_le (Nat.lt_succ_iff.mp hi) with hi | rfl
    · exact hfollowed.leads i route' stage rest (hold hi ▸ hget) hrest
    · rw [List.getElem?_concat_length] at hget
      cases hget
      obtain rfl := Option.some_inj.mp hrest
      rw [hfollowed.fresh _ le_rfl]
      exact .refl _
  · obtain ⟨hfinished, hdialogue⟩ := hfollowed.answered i route' response h
    exact ⟨(hold (List.getElem?_eq_some_iff.mp hfinished).1).trans hfinished, hdialogue⟩

/-- A step of a handler that is under way. -/
theorem Followed.set {i : ℕ} {route : ModemRoute} {stage stage' : HandlerStage X (route.Body X)}
    {out : List (HandlerEffect X)} (hfollowed : Followed state s t)
    (htask : s.tasks[i]? = some ⟨route, stage⟩) (hstage : stage.rest?.isSome)
    (requests : RequestState X) (hother : ∀ j, j ≠ i → exchangesOf j out = [])
    (hleads : ∀ rest, stage'.rest? = some rest →
      (route.handler state).run.Leads (exchangesOf i (t ++ out)) rest)
    (hanswered : ∀ j (route' : ModemRoute) (response : Except HttpError (route'.Body X)),
      .answered j route' response ∈ out →
      (s.tasks.set i ⟨route, stage'⟩)[j]? = some ⟨route', .finished⟩ ∧
        (route'.handler state).run.Dialogue (exchangesOf j (t ++ out)) response) :
    Followed state ⟨requests, s.tasks.set i ⟨route, stage'⟩⟩ (t ++ out) := by
  have hlength : i < s.tasks.length := (List.getElem?_eq_some_iff.mp htask).1
  have hsame : ∀ j, j ≠ i → exchangesOf j (t ++ out) = exchangesOf j t := fun j hj => by
    rw [exchangesOf_append, hother j hj, List.append_nil]
  have hget : ∀ j, j ≠ i → (s.tasks.set i ⟨route, stage'⟩)[j]? = s.tasks[j]? := fun j hj =>
    List.getElem?_set_ne (Ne.symm hj)
  refine ⟨fun j hj => ?_, fun j route' stage'' rest hget' hrest => ?_,
    fun j route' response h => ?_⟩
  · rw [List.length_set] at hj
    rw [hsame j (by omega)]
    exact hfollowed.fresh j hj
  · rcases eq_or_ne j i with rfl | hj
    · rw [List.getElem?_set_self hlength] at hget'
      cases hget'
      exact hleads rest hrest
    · rw [hsame j hj]
      exact hfollowed.leads j route' stage'' rest (hget j hj ▸ hget') hrest
  · rcases List.mem_append.mp h with h | h
    · obtain ⟨hfinished, hdialogue⟩ := hfollowed.answered j route' response h
      have hj : j ≠ i := by
        rintro rfl
        cases Option.some_inj.mp (htask.symm.trans hfinished)
        cases hstage
      exact ⟨(hget j hj).trans hfinished, (hsame j hj).symm ▸ hdialogue⟩
    · exact hanswered j route' response h

theorem exchangesOf_called_ne {i j : ℕ} (hj : j ≠ i) (command : OutgoingCommand)
    (result : Except Str (ModemResponse X)) : exchangesOf j [.called i command result] = [] := by
  simp [exchangesOf, Ne.symm hj]

theorem exchangesOf_called_self (i : ℕ) (command : OutgoingCommand)
    (result : Except Str (ModemResponse X)) :
    exchangesOf i [.called i command result] = [(command.request, result)] := by
  simp [exchangesOf]

/-- A call of a handler returns. -/
theorem Followed.called {i : ℕ} {route : ModemRoute} {stage : HandlerStage X (route.Body X)}
    {command : OutgoingCommand}
    {next : Except Str (ModemResponse X) →
      Client ModemRequest (Except Str (ModemResponse X)) (Except HttpError (route.Body X))}
    (hfollowed : Followed state s t) (htask : s.tasks[i]? = some ⟨route, stage⟩)
    (hstage : stage.rest? = some (.call command.request next))
    (result : Except Str (ModemResponse X)) (requests : RequestState X) :
    Followed state ⟨requests, s.tasks.set i ⟨route, .ready (next result)⟩⟩
      (t ++ [.called i command result]) := by
  refine hfollowed.set htask (hstage ▸ rfl) requests
    (fun j hj => exchangesOf_called_ne hj command result) ?_ (by simp)
  rintro rest hrest
  obtain rfl := Option.some_inj.mp hrest
  rw [exchangesOf_append, exchangesOf_called_self]
  exact (hfollowed.leads i route stage _ htask hstage).next result

theorem run_followed (hrun : Run (step display state) (start X config port) h s t) :
    Followed state s t := by
  refine hrun.induct (P := fun _ s t => Followed state s t) ?_ ?_
  · exact ⟨fun _ _ => rfl, by simp [start], by simp⟩
  · intro h s t input s' out _ hfollowed hstep
    cases step_turn hstep with
    | arrived route => exact hfollowed.arrive route
    | answered i route response htask =>
      refine hfollowed.set htask rfl s.requests (fun _ _ => rfl) nofun ?_
      rintro j route' response' hmem
      cases List.mem_singleton.mp hmem
      have hlength : i < s.tasks.length := (List.getElem?_eq_some_iff.mp htask).1
      refine ⟨List.getElem?_set_self hlength, ?_⟩
      rw [exchangesOf_append]
      simpa [exchangesOf] using (hfollowed.leads i route _ _ htask rfl).dialogue
    | refused i route command next result requests htask =>
      exact hfollowed.called htask rfl result requests
    | queued i route command next requests htask =>
      refine hfollowed.set htask rfl requests (fun _ _ => rfl) ?_ (by simp)
      intro rest hrest
      obtain rfl := Option.some_inj.mp hrest
      simpa using hfollowed.leads i route _ _ htask rfl
    | resumed i route command next result call requests htask =>
      exact hfollowed.called htask rfl result requests
    | requested _ requests out => exact hfollowed.request requests out

/-- **Errors.** In every run of any number of handlers beside the worker and its other requesters,
what a handler responds is the outcome of the calls it made. If it is an error, it is an internal
server error with the text of one of these calls: the call's own, if it failed, or the one the modem
responded. No handler finds a response unexpected. -/
theorem answered_error (hrun : Run (step display state) (start X config port) h s t) {i : ℕ}
    {route : ModemRoute} {response : Except HttpError (route.Body X)}
    (hanswered : .answered i route response ∈ t) :
    (route.handler state).run.Dialogue (exchangesOf i t) response ∧
      (exchangesOf i t).map Prod.fst <+: route.requests ∧
      ∀ error, response = .error error → error.status = internalServerError ∧
        ∃ p ∈ exchangesOf i t, p.2 = .error error.message ∨ p.2 = .ok (.error error.message) := by
  obtain ⟨-, hdialogue⟩ := (run_followed hrun).answered i route response hanswered
  refine ⟨hdialogue, ModemRoute.requests_dialogue hdialogue, ?_⟩
  rintro error rfl
  exact ModemRoute.error_dialogue (run_inKind hrun i) hdialogue

end

/-- The errors responded. -/
def errorsOf : List (HandlerEffect X) → List (ℕ × ModemRoute × HttpError) :=
  List.filterMap fun
    | .answered i route (.error error) => some (i, route, error)
    | _ => none

theorem mem_errorsOf {t : List (HandlerEffect X)} {i : ℕ} {route : ModemRoute} {error : HttpError}
    (h : (i, route, error) ∈ errorsOf t) : .answered i route (.error error) ∈ t := by
  obtain ⟨effect, heffect, heq⟩ := List.mem_filterMap.mp h
  split at heq
  · cases heq
    exact heffect
  · cases heq

/-- A handler gives up on its call. -/
theorem answered_error_timeout :
    let state : ModemRouteState .rejecting := ⟨fun _ => [], [], none⟩
    ∃ (h : List (Handlers .rejecting × HandlerInput)) (s : Handlers .rejecting)
      (t : List (HandlerEffect .rejecting)),
      Run (step (fun _ => []) state) (start .rejecting .default .ready) h s t ∧
      .answered 0 .smsSignalStrength (.error ⟨500, timedOutWaiting 1⟩) ∈ t ∧
      ∃ p ∈ exchangesOf 0 t, p.2 = .error (timedOutWaiting 1) ∨
        p.2 = .ok (.error (timedOutWaiting 1)) := by
  intro state
  obtain ⟨s, t, -, hrun, herrors⟩ := Run.of_execute (step (fun _ => []) state)
    (start .rejecting .default .ready)
    [.arrive .smsSignalStrength, .advance 0, .request (.elapse 90000), .advance 0, .advance 0]
    (fun r => errorsOf r.2) (b := [(0, .smsSignalStrength, ⟨500, timedOutWaiting 1⟩)])
    (by decide +kernel)
  have hanswered : .answered 0 .smsSignalStrength (.error ⟨500, timedOutWaiting 1⟩) ∈ t :=
    mem_errorsOf (herrors ▸ List.mem_singleton_self _)
  exact ⟨_, s, t, hrun, hanswered, ((answered_error hrun hanswered).2.2 _ rfl).2⟩

/-- **Device information.** In every run, `sms_get_device_info` either fills in what the modem
answers its five requests with, where a field is left empty for an error that the modem responds, or
it ends with the first of its calls that fails and responds with that error alone. -/
theorem deviceInfo_answered {config : ModemConfig} {port : Port}
    {h : List (Handlers X × HandlerInput)} {s : Handlers X} {t : List (HandlerEffect X)}
    (hrun : Run (step display state) (start X config port) h s t) {i : ℕ}
    {response : Except HttpError HttpSmsDeviceInfoResponse}
    (hanswered : .answered i .smsDeviceInfo response ∈ t) :
    (∃ provider operator status battery signal : ModemResponse X,
      exchangesOf i t = [(.getServiceProvider, .ok provider), (.getNetworkOperator, .ok operator),
        (.getNetworkStatus, .ok status), (.getBatteryLevel, .ok battery),
        (.getSignalStrength, .ok signal)] ∧
      ∃ info, response = .ok info ∧ info.version = state.version ∧
        info.phoneNumber = state.phoneNumber ∧
        ResponseVariant.serviceProvider.FilledBy provider info.serviceProvider ∧
        ResponseVariant.networkOperator.FilledBy operator info.networkOperator ∧
        ResponseVariant.networkStatus.FilledBy status info.networkStatus ∧
        ResponseVariant.batteryLevel.FilledBy battery info.battery ∧
        ResponseVariant.signalStrength.FilledBy signal info.signal) ∨
    ∃ front request message, exchangesOf i t = front ++ [(request, .error message)] ∧
      (∀ p ∈ front, ∃ response, p.2 = .ok response) ∧
      front.map Prod.fst ++ [request] <+: ModemRoute.smsDeviceInfo.requests ∧
      response = .error ⟨internalServerError, message⟩ := by
  obtain ⟨-, hdialogue⟩ := (run_followed hrun).answered i .smsDeviceInfo response hanswered
  have hkind := run_inKind hrun i
  refine (ModemRoute.dialogue_deviceInfo hdialogue).imp_left ?_
  rintro ⟨provider, operator, status, battery, signal, hlog, rfl⟩
  simp only [hlog, InKind, List.forall_mem_cons] at hkind
  obtain ⟨hprovider, hoperator, hstatus, hbattery, hsignal, -⟩ := hkind
  exact ⟨provider, operator, status, battery, signal, hlog, _, rfl, rfl, rfl,
    ResponseVariant.filledBy_extract _ (hprovider _ rfl),
    ResponseVariant.filledBy_extract _ (hoperator _ rfl),
    ResponseVariant.filledBy_extract _ (hstatus _ rfl),
    ResponseVariant.filledBy_extract _ (hbattery _ rfl),
    ResponseVariant.filledBy_extract _ (hsignal _ rfl)⟩

/-- The modem refuses the first request, and the second call is given up: nothing is reported. -/
theorem deviceInfo_answered_timeout :
    let state : ModemRouteState .rejecting := ⟨fun _ => [], [], none⟩
    ∃ (h : List (Handlers .rejecting × HandlerInput)) (s : Handlers .rejecting)
      (t : List (HandlerEffect .rejecting)),
      Run (step (fun _ => []) state) (start .rejecting .default .ready) h s t ∧
      .answered 0 .smsDeviceInfo (.error ⟨500, timedOutWaiting 2⟩) ∈ t ∧
      ∃ front request message, exchangesOf 0 t = front ++ [(request, .error message)] ∧
        (∀ p ∈ front, ∃ response, p.2 = .ok response) := by
  intro state
  obtain ⟨s, t, -, hrun, herrors⟩ := Run.of_execute (step (fun _ => []) state)
    (start .rejecting .default .ready)
    [.arrive .smsDeviceInfo, .advance 0, .request (.work (.command 0)),
      .request (.work (.workerEvent (.ok ()))),
      .request (.work (.read (.ok (encodeUtf8 "ERROR\r\n".toList)))), .request (.work .lineEvent),
      .advance 0, .advance 0, .request (.elapse 90000), .advance 0, .advance 0]
    (fun r => errorsOf r.2) (b := [(0, .smsDeviceInfo, ⟨500, timedOutWaiting 2⟩)])
    (by decide +kernel)
  have hanswered : .answered 0 .smsDeviceInfo (.error ⟨500, timedOutWaiting 2⟩) ∈ t :=
    mem_errorsOf (herrors ▸ List.mem_singleton_self _)
  rcases deviceInfo_answered hrun hanswered with ⟨_, _, _, _, _, -, _, heq, -⟩ |
    ⟨front, request, message, hlog, hfront, -, -⟩
  · cases heq
  · exact ⟨_, s, t, hrun, hanswered, front, request, message, hlog, hfront⟩

end Handlers

end SmsServer
