import IntegrationOrchestrator.Dispatch.Selection

namespace IntegrationOrchestrator

open IntegrationRequest RequestDispatcher

variable {settings : Settings} {input : Input} {s s' : State} {frame : Frame} {pushed : List Frame}
  {q q' : IntegrationRequest} {requestId : UUID} {c c' : Config}

/-- The frame is about to call the provider's create operation for the request. -/
def Frame.calls (requestId : UUID) : Frame → Bool
  | .callProvider q _ => q.id = requestId
  | _ => false

def Event.isCall (requestId : UUID) : Event → Bool
  | .performed other _ => other = requestId
  | _ => false

/-- How many create calls were ever made for the request. -/
def State.createCalls (s : State) (requestId : UUID) : Nat := s.history.countP (Event.isCall requestId)

theorem RequestStatus.isTerminal_stuck {status requested : RequestStatus} (terminal : status.isTerminal = true) :
    canTransition status requested = false := by
  cases status <;> first | rfl | cases terminal

theorem Frame.calls_of_idle (idle : frame.attempts = none) : frame.calls requestId = false := by
  cases frame <;> first | rfl | cases idle

theorem State.createCalls_append {extra : List Event} (history : s'.history = s.history ++ extra)
    (none : ∀ event ∈ extra, event.isCall requestId = false) : s'.createCalls requestId = s.createCalls requestId := by
  rw [createCalls, createCalls, history, List.countP_append, Nat.add_eq_left, List.countP_eq_zero]
  intro event member
  simp [none event member]

/-- A row that ended keeps its end through every write. -/
theorem State.Wrote.terminal {old new : IntegrationRequest} (wrote : s.Wrote s' old new)
    (kept : old.status.isTerminal = true → new.status.isTerminal = true)
    (stored : s.db.requests.get requestId = some q) (terminal : q.status.isTerminal = true) :
    ∃ q', s'.db.requests.get requestId = some q' ∧ q'.status.isTerminal = true := by
  rw [wrote.get]
  split
  · rename_i same
    subst same
    cases wrote.stored.symm.trans stored
    exact ⟨new, rfl, kept terminal⟩
  · exact ⟨q, stored, terminal⟩

theorem IntegrationRequest.Moved.terminal {target : RequestStatus} (moved : Moved q q' target)
    (terminal : q.status.isTerminal = true) : q'.status.isTerminal = true := by
  have allowed := moved.allowed
  rw [RequestStatus.isTerminal_stuck terminal] at allowed
  cases allowed

namespace RequestStep

/-- A request that ended stays so. -/
theorem terminal (step : RequestStep settings input frame s s' pushed)
    (stored : s.db.requests.get requestId = some q) (terminal : q.status.isTerminal = true) :
    ∃ q', s'.db.requests.get requestId = some q' ∧ q'.status.isTerminal = true := by
  have unchanged : s'.db.requests = s.db.requests →
      ∃ q', s'.db.requests.get requestId = some q' ∧ q'.status.isTerminal = true :=
    fun same => ⟨q, same ▸ stored, terminal⟩
  cases step with
  | quiet _ same => exact unchanged same
  | creates _ fresh _ _ requests =>
    refine ⟨q, ?_, terminal⟩
    rw [requests, Table.get_put, if_neg, stored]
    rintro rfl
    exact absurd (fresh.symm.trans stored) (by simp)
  | claims _ allowed wrote =>
    refine wrote.terminal (fun ended => ?_) stored terminal
    rcases allowed with received | moves
    · simp [received, RequestStatus.isTerminal] at ended
    · rw [RequestStatus.isTerminal_stuck ended] at moves
      cases moves
  | calls _ _ same => exact unchanged same
  | settles _ _ _ _ _ written outcome =>
    rcases written with quiet | wrote
    · exact unchanged quiet.requests
    · refine wrote.terminal (fun ended => ?_) stored terminal
      rcases outcome with ⟨_, kept⟩ | ⟨_, _, _, _, moved, _⟩
      · rw [kept.status]
        exact ended
      · exact moved.terminal ended
  | retries _ wrote moved => exact wrote.terminal moved.terminal stored terminal
  | reports _ wrote _ _ moved => exact wrote.terminal moved.terminal stored terminal

/-- A step that is not a create call for the ended request makes no call for
it, and leads to none. -/
theorem uncalled (step : RequestStep settings input frame s s' pushed)
    (stored : s.db.requests.get requestId = some q) (terminal : q.status.isTerminal = true)
    (silent : frame.calls requestId = false) :
    s'.createCalls requestId = s.createCalls requestId ∧ ∀ next ∈ pushed, next.calls requestId = false := by
  have same : s'.history = s.history → s'.createCalls requestId = s.createCalls requestId :=
    fun history => by rw [State.createCalls, State.createCalls, history]
  have idle : Idle pushed → ∀ next ∈ pushed, next.calls requestId = false :=
    fun idle next member => Frame.calls_of_idle (idle next member)
  cases step with
  | quiet _ _ history none => exact ⟨same history, idle none⟩
  | creates _ _ _ _ _ history events =>
    refine ⟨State.createCalls_append history fun event member => ?_, by simp [Frame.calls]⟩
    obtain ⟨_, _, _, rfl⟩ := events event member
    rfl
  | claims _ allowed wrote history status =>
    refine ⟨same history, fun next member => ?_⟩
    cases List.mem_singleton.mp member
    simp only [Frame.calls, wrote.id, decide_eq_false_iff_not]
    rintro rfl
    cases wrote.stored.symm.trans stored
    rcases allowed with received | moves
    · simp [received, RequestStatus.isTerminal] at terminal
    · rw [RequestStatus.isTerminal_stuck terminal] at moves
      cases moves
  | calls call _ _ history next =>
    subst call
    refine ⟨State.createCalls_append history fun event member => ?_, fun frame member => ?_⟩
    · cases List.mem_singleton.mp member
      exact silent
    · rcases next with ⟨e, rfl⟩ | ⟨result, rfl, _⟩ <;> cases List.mem_singleton.mp member <;> rfl
  | settles _ _ _ _ history => exact ⟨same history, idle (idle_afterAttempt _ _ _)⟩
  | retries _ _ _ history =>
    exact ⟨State.createCalls_append history (by simp [Event.isCall]), by simp⟩
  | reports _ _ history _ _ none => exact ⟨same history, idle none⟩

end RequestStep

/-- Once a request ended with no create call outstanding, none is ever made
for it again. -/
theorem uncalled_stays (stored : c.state.db.requests.get requestId = some q) (terminal : q.status.isTerminal = true)
    (settled : ∀ frame ∈ c.frames, frame.calls requestId = false)
    (onward : (orchestrator settings).Reach (fun _ _ => True) c c') :
    c'.state.createCalls requestId = c.state.createCalls requestId := by
  let good (s : State) : Prop := (∃ q, s.db.requests.get requestId = some q ∧ q.status.isTerminal = true) ∧
    s.createCalls requestId = c.state.createCalls requestId
  have held : good c'.state ∧ ∀ frame ∈ c'.frames, frame.calls requestId = false := by
    refine onward.pool_invariant good (fun _ frame => frame.calls requestId = false)
      ⟨⟨⟨q, stored, terminal⟩, rfl⟩, settled⟩ ?_ ?_
    · intro state frame _ entry
      cases frame <;> first | rfl | cases entry
    · rintro c task input frame rest state pushed ⟨⟨q, stored, terminal⟩, calls⟩ silent _ atTask ran
      have top := silent frame (TaskPool.mem_frames_top atTask)
      have step := Frame.requestStep ran
      obtain ⟨same, quiet⟩ := step.uncalled stored terminal top
      exact ⟨⟨step.terminal stored terminal, same.trans calls⟩, quiet, fun _ _ => id⟩
  exact held.1.2

/-- The statuses in which a request still takes a reported success, or has ended. -/
def receptiveStatuses : List RequestStatus := [.dispatching, .pending, .manualReview, .succeeded, .cancelled]

/-- A reported success carries no progress only where the table has none. -/
theorem applyNormalizedStatus_none {now : Instant} {reference : Option String} {failure : Option FailureDetail}
    (run : Mutator.call (applyNormalizedStatus .succeeded now reference failure) q = .ok (none, q')) :
    isForwardProgress q.status .succeeded = false := by
  simp only [applyNormalizedStatus, Mutator.call_bind, Mutator.call_get, Except.bind, projectNormalizedStatus,
    Mutator.call_ite] at run
  split at run
  · rename_i blocked
    simpa using blocked
  · simp only [Mutator.call_modify, applyTarget] at run
    obtain ⟨_, made, _⟩ := call_some_map run
    cases made

/-- The transaction that processes a reported success ends a receptive request. -/
theorem processWebhook_ends {event : NormalizedWebhookEvent} {reference : String}
    (succeeded : event.normalizedStatus = .succeeded) (named : event.providerReference = some reference)
    (known : reference ≠ "") (found : s.db.requestByProviderReference event.provider reference = some q)
    (receptive : q.status ∈ receptiveStatuses)
    (run : Frame.execProcessWebhook event input s = .ok (s', pushed)) :
    ∃ q', s'.db.requests.get q.id = some q' ∧ q'.status.isTerminal = true := by
  have stored := Database.requestByProviderReference_some found
  have names : truthy (some reference) = true := by simp [truthy, known]
  simp only [Frame.execProcessWebhook, named, names, not_true, if_false, Option.getD_some, found, succeeded] at run
  obtain ⟨⟨made, q'⟩, applied, run⟩ := Rows.bind_eq_ok.mp run
  cases made with
  | none =>
    cases run
    have blocked := applyNormalizedStatus_none applied
    refine ⟨q, stored, ?_⟩
    simp only [receptiveStatuses, List.mem_cons, List.not_mem_nil, or_false] at receptive
    rcases receptive with status | status | status | status | status <;>
      simp_all [isForwardProgress, RequestStatus.isTerminal, canTransition, transitions]
  | some made =>
    obtain ⟨saved, wrote, done⟩ := Rows.bind_eq_ok.mp run
    cases done
    obtain ⟨target, projected, moved⟩ := moved_of_applyNormalizedStatus applied
    cases projected
    obtain ⟨wrote, _⟩ := State.savedRequest_ok wrote stored moved.id
    exact ⟨q', by simp [wrote.get], by simp [moved.status, RequestStatus.isTerminal]⟩

/-- No success is lost, if the report finds the request receptive and no create
call of it outstanding: after the transaction that processes the report, no
create call is made for the request in any continuation. -/
theorem no_success_lost {event : NormalizedWebhookEvent} {reference : String} {task : Nat} {rest : List Frame}
    (reach : Reachable settings c) (atTask : c.tasks[task]? = some (.processWebhook event :: rest))
    (succeeded : event.normalizedStatus = .succeeded) (named : event.providerReference = some reference)
    (known : reference ≠ "") (found : c.state.db.requestByProviderReference event.provider reference = some q)
    (processed : Frame.exec settings (.processWebhook event) input c.state = .ok (s', pushed))
    (receptive : q.status ∈ receptiveStatuses) (settled : ∀ frame ∈ c.frames, frame.calls q.id = false) :
    ∃ c', (orchestrator settings).next c (.run task input) = some c' ∧ Reachable settings c' ∧
      ∀ c'', (orchestrator settings).Reach (fun _ _ => True) c' c'' →
        c''.state.createCalls q.id = c.state.createCalls q.id := by
  have next := TaskPool.next_run_ok (P := orchestrator settings) atTask processed
  obtain ⟨q', after, terminal⟩ := processWebhook_ends succeeded named known found receptive processed
  obtain ⟨reported, pushes⟩ := Frame.exec_report rfl processed
  have history : s'.history = c.state.history := by
    rcases reported with quiet | ⟨_, _, _, _, same, _⟩
    · exact quiet.history
    · exact same
  have silent : ∀ frame ∈ pushed, frame.calls q.id = false := by
    intro frame member
    rcases pushes frame member with again | ⟨_, _, rfl, _⟩
    · cases frame <;> first | rfl | cases again
    · rfl
  refine ⟨_, next, reach.next trivial next, fun c'' onward => ?_⟩
  rw [uncalled_stays after terminal ?_ onward, State.createCalls, State.createCalls, history]
  intro frame member
  rcases TaskPool.mem_frames_set member with top | old
  · rcases List.mem_append.mp top with new | below
    · exact silent frame new
    · exact settled frame (TaskPool.mem_frames_of_task atTask (List.mem_cons_of_mem _ below))
  · exact settled frame old

namespace Sample

/-- A report about the operation with this reference. -/
def report (status : NormalizedStatus) (reference : String) : Frame :=
  .processWebhook { provider := provider, normalizedStatus := status, providerReference := some reference }

/-- The provider accepts the operation of a client's request. -/
def accepted : List Action :=
  .spawn create :: work 0 1 200 2 ++ answer 0 2 (answered .pending "op-1") :: work 0 3 0 3

/-- The accepted operation is reported failed, an operator retries the request,
and then the operation is reported to have succeeded after all. -/
def reversed : List Action :=
  accepted ++ .spawn (report .failed "op-1") :: work 1 4 0 3 ++
    .spawn (.retryRequest 200 { type := .apiClient }) :: work 2 5 0 1 ++ .spawn (report .succeeded "op-1") :: []

/-- The task is about to process a reported success of the operation, and the
test holds of the report. -/
def processesSuccess (task : Nat) (test : NormalizedWebhookEvent → Bool) (c : Config) : Bool :=
  match c.tasks[task]? with
  | some [Frame.processWebhook event] =>
    event.normalizedStatus = .succeeded && (event.providerReference = some "op-1" && test event)
  | _ => false

theorem processesSuccess_iff {task : Nat} {test : NormalizedWebhookEvent → Bool}
    (found : processesSuccess task test c = true) : ∃ event, c.tasks[task]? = some [.processWebhook event] ∧
      event.normalizedStatus = .succeeded ∧ event.providerReference = some "op-1" ∧ test event = true := by
  unfold processesSuccess at found
  split at found
  · rename_i event atTask
    simp only [Bool.and_eq_true, decide_eq_true_eq] at found
    exact ⟨event, atTask, found⟩
  · cases found

end Sample

/-- A success reported for a request that waits for its retry is processed and
dropped: the retry worker calls the provider again. -/
theorem late_success_dropped :
    ∃ c c' c'' event q, Reachable Sample.settings c ∧ c.tasks[3]? = some [.processWebhook event] ∧
      event.normalizedStatus = .succeeded ∧ event.providerReference = some "op-1" ∧
      c.state.db.requestByProviderReference event.provider "op-1" = some q ∧ q.id = 200 ∧
      (Frame.exec Sample.settings (.processWebhook event) (Sample.input 6 0 .crashed) c.state).isOk = true ∧
      (orchestrator Sample.settings).next c (.run 3 (Sample.input 6 0 .crashed)) = some c' ∧
      (orchestrator Sample.settings).Reach (fun _ _ => True) c' c'' ∧
      c.state.createCalls 200 = 1 ∧ c''.state.createCalls 200 = 2 := by
  let again : List Action := .spawn (.claimRetry 200) :: Sample.work 4 10 0 1 ++
    [Sample.answer 4 11 (Sample.answered .pending "op-2")]
  obtain ⟨c, reach, found⟩ := reachable_replay Sample.settings Sample.reversed
    (fun (c : Config) => Sample.processesSuccess 3 (fun event => c.state.createCalls 200 = 1 &&
      (c.state.db.requestByProviderReference event.provider "op-1").any (·.id = 200) &&
      (Frame.exec Sample.settings (.processWebhook event) (Sample.input 6 0 .crashed) c.state).isOk &&
      ((orchestrator Sample.settings).next c (.run 3 (Sample.input 6 0 .crashed))).any fun (c' : Config) =>
        ((orchestrator Sample.settings).replay (fun _ _ => true) c' again).any fun (c'' : Config) =>
          c''.state.createCalls 200 = 2) c) (by decide)
  obtain ⟨event, atTask, succeeded, named, found⟩ := Sample.processesSuccess_iff found
  simp only [Option.any_eq_true, Bool.and_eq_true, decide_eq_true_eq] at found
  obtain ⟨⟨⟨once, q, here, id⟩, processed⟩, c', next, c'', replayed, twice⟩ := found
  exact ⟨c, c', c'', event, q, reach, atTask, succeeded, named, here, id, processed, next,
    .of_replay (fun _ _ _ => trivial) replayed, once, twice⟩

theorem no_success_lost_pending :
    ∃ c c' q, Reachable Sample.settings c ∧ c.state.db.requests.get 200 = some q ∧ q.status = .pending ∧
      (orchestrator Sample.settings).next c (.run 1 (Sample.input 4 0 .crashed)) = some c' ∧
      ∀ c'', (orchestrator Sample.settings).Reach (fun _ _ => True) c' c'' →
        c''.state.createCalls q.id = c.state.createCalls q.id := by
  obtain ⟨c, reach, found⟩ := reachable_replay Sample.settings
    (Sample.accepted ++ [.spawn (Sample.report .succeeded "op-1")])
    (fun (c : Config) => Sample.processesSuccess 1 (fun event => c.frames.all (fun frame => ¬ frame.calls 200) &&
      (c.state.db.requestByProviderReference event.provider "op-1").any (fun q => q.id = 200 && q.status = .pending) &&
      (Frame.exec Sample.settings (.processWebhook event) (Sample.input 4 0 .crashed) c.state).isOk) c) (by decide)
  obtain ⟨event, atTask, succeeded, named, found⟩ := Sample.processesSuccess_iff found
  simp only [Option.any_eq_true, Bool.and_eq_true, decide_eq_true_eq, List.all_eq_true] at found
  obtain ⟨⟨silent, q, here, id, pending⟩, processed⟩ := found
  cases ran : Frame.exec Sample.settings (.processWebhook event) (Sample.input 4 0 .crashed) c.state with
  | ok outcome =>
    obtain ⟨c', next, _, uncalled⟩ := no_success_lost reach atTask succeeded named (by decide) here ran
      (by simp [pending, receptiveStatuses]) (fun frame member => by simpa [id] using silent frame member)
    exact ⟨c, c', q, reach, id ▸ Database.requestByProviderReference_some here, pending, next, uncalled⟩
  | error raised => simp [ran, Except.isOk, Except.toBool] at processed

end IntegrationOrchestrator
