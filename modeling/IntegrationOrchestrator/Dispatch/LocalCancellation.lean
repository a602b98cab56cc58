import IntegrationOrchestrator.Dispatch.LateSuccess
import IntegrationOrchestrator.Dispatch.RetryBound

namespace IntegrationOrchestrator

open IntegrationRequest RequestDispatcher

variable {settings : Settings} {input : Input} {s s' : State} {frame : Frame} {pushed : List Frame}
  {q q' : IntegrationRequest} {requestId : UUID} {c c' : Config}

/-- A create call costs one. -/
abbrev flatRate : ProviderSlug → Nat := fun _ => 1

theorem RequestStep.createCalls_le (step : RequestStep settings input frame s s' pushed) (requestId : UUID) :
    s'.createCalls requestId ≤ s.createCalls requestId + frame.price flatRate requestId := by
  have same : s'.history = s.history →
      s'.createCalls requestId ≤ s.createCalls requestId + frame.price flatRate requestId := by
    intro history
    rw [State.createCalls, State.createCalls, history]
    exact Nat.le_add_right ..
  cases step with
  | quiet _ _ history => exact same history
  | creates _ _ _ _ _ history made =>
    rw [State.createCalls_append history fun event member => ?_]
    · exact Nat.le_add_right ..
    · obtain ⟨_, _, _, rfl⟩ := made event member
      rfl
  | claims _ _ _ history => exact same history
  | @calls q caller _ _ here _ _ history =>
    subst here
    rw [State.createCalls, State.createCalls, history, List.countP_append, List.countP_singleton]
    simp only [Event.isCall, Frame.price, decide_eq_true_eq]
    exact le_rfl
  | settles _ _ _ _ history => exact same history
  | retries _ _ _ history =>
    rw [State.createCalls_append history (by simp [Event.isCall])]
    exact Nat.le_add_right ..
  | reports _ _ history => exact same history

/-- The create calls of a request that were made or are about to be made are at
most its attempts. -/
theorem createCalls_within {allowed : Restriction} (reach : ReachableUnder settings allowed c) (requestId : UUID) :
    c.state.createCalls requestId + c.load (Frame.price flatRate requestId) ≤ c.state.budget flatRate requestId := by
  have bounded := reach.load_within (Frame.price flatRate requestId) (·.createCalls requestId)
    (·.budget flatRate requestId) (fun _ => False) (Nat.zero_le _) (fun _ entry => Frame.price_of_entry entry)
    (fun _ _ _ _ _ _ never => never)
    (fun c task input frame rest state pushed reached _ atTask ran _ held => by
      have step := Frame.requestStep ran
      have paid := step.paid flatRate fun q stored => (reachable_begun reached requestId q stored).nonneg
      have cost := step.createCalls_le requestId
      omega)
  exact bounded.resolve_left id

/-- Nothing was sent, or is about to be, for a request that has begun no attempt. -/
theorem unattempted_unsent {allowed : Restriction} (reach : ReachableUnder settings allowed c)
    (stored : c.state.db.requests.get requestId = some q) (unattempted : q.attemptCount = 0) :
    c.state.createCalls requestId = 0 ∧ ∀ frame ∈ c.frames, frame.calls requestId = false := by
  have within := createCalls_within reach requestId
  rw [State.budget, State.reads_stored stored, unattempted] at within
  have none : c.load (Frame.price flatRate requestId) = 0 := by
    simp only [Int.toNat_zero, mul_zero] at within
    omega
  refine ⟨by simp only [Int.toNat_zero, mul_zero] at within; omega, fun frame member => ?_⟩
  have unpriced : frame.price flatRate requestId = 0 :=
    List.sum_eq_zero_iff.mp none _ (List.mem_map_of_mem member)
  cases frame with
  | callProvider q caller => simpa [Frame.price, Frame.calls] using unpriced
  | _ => rfl

/-- A request that the cancel use case marks cancelled on its own keeps its
attempts. -/
theorem cancelRequest_attempts {reason : Option String} {actor : Actor}
    (ran : Frame.exec settings (.cancelRequest requestId reason actor) input s = .ok (s', pushed))
    (stored : s.db.requests.get requestId = some q) (unmarked : q.status ≠ .cancelled)
    (stored' : s'.db.requests.get requestId = some q') (marked : q'.status = .cancelled) :
    q'.attemptCount = q.attemptCount := by
  have step := (Frame.requestStep ran).attemptStep requestId
  generalize (pushed.map (Frame.dispatches requestId)).sum = made at step
  cases step with
  | same unchanged =>
    cases stored'.symm.trans (unchanged.trans stored)
    exact absurd marked unmarked
  | born absent => exact absurd (absent.symm.trans stored) (by simp)
  | claimed _ after status =>
    cases stored'.symm.trans after
    exact absurd (status.symm.trans marked) (by simp)
  | moved before after _ attempts =>
    cases stored'.symm.trans after
    cases stored.symm.trans before
    exact attempts

/-- A request that is cancelled on its own before its first attempt has nothing
at the provider: no create call was sent for it, and none ever will be. -/
theorem local_cancellation_truthful {task : Nat} {rest : List Frame} {reason : Option String} {actor : Actor}
    (reach : Reachable settings c) (atTask : c.tasks[task]? = some (.cancelRequest requestId reason actor :: rest))
    (next : (orchestrator settings).next c (.run task input) = some c')
    (stored : c.state.db.requests.get requestId = some q) (unmarked : q.status ≠ .cancelled)
    (stored' : c'.state.db.requests.get requestId = some q') (marked : q'.status = .cancelled)
    (unattempted : q.attemptCount = 0) :
    c.state.createCalls requestId = 0 ∧
      ∀ c'', (orchestrator settings).Reach (fun _ _ => True) c' c'' → c''.state.createCalls requestId = 0 := by
  have after : Reachable settings c' := reach.next trivial next
  have attempts : q'.attemptCount = 0 := by
    rcases TaskPool.next_cases next with ⟨_, other, _⟩ | ⟨_, _, frame, _, s', pushed, same, here, ran, rfl⟩ |
      ⟨_, _, _, _, _, same, _, _, rfl⟩
    · cases other
    · cases same
      cases atTask.symm.trans here
      exact (cancelRequest_attempts ran stored unmarked stored' marked).trans unattempted
    · cases stored'.symm.trans stored
      exact unattempted
  obtain ⟨unsent, silent⟩ := unattempted_unsent after stored' attempts
  refine ⟨(unattempted_unsent reach stored unattempted).1, fun c'' onward => ?_⟩
  rw [uncalled_stays stored' (by rw [marked]; rfl) silent onward, unsent]

namespace Sample

/-- The provider carries the operation of a client's request out, but its answer
is lost; the client cancels the request that waits for its retry. -/
def cancelledUnanswered : List Action :=
  .spawn create :: work 0 1 200 2 ++ answer 0 2 (.lost .timeout) :: work 0 3 0 1 ++
    [.spawn (.cancelRequest 200 none { type := .apiClient })]

/-- The second task is about to cancel the request. -/
def cancelsNext (c : Config) : Bool := match c.tasks[1]? with
  | some [Frame.cancelRequest requestId _ _] => requestId = 200
  | _ => false

theorem cancelsNext_iff (found : cancelsNext c = true) :
    ∃ reason actor, c.tasks[1]? = some [.cancelRequest 200 reason actor] := by
  unfold cancelsNext at found
  split at found
  · rename_i requestId reason actor atTask
    cases of_decide_eq_true found
    exact ⟨reason, actor, atTask⟩
  · cases found

end Sample

/-- A request is marked cancelled on its own although the provider has carried
its operation out. -/
theorem cancelled_after_performed :
    ∃ c c' reason actor q q', Reachable Sample.settings c ∧
      c.tasks[1]? = some [.cancelRequest 200 reason actor] ∧
      (orchestrator Sample.settings).next c (.run 1 (Sample.input 4 0 .crashed)) = some c' ∧
      c.state.db.requests.get 200 = some q ∧ q.status = .retryScheduled ∧ q.providerReference = none ∧
      c'.state.db.requests.get 200 = some q' ∧ q'.status = .cancelled ∧
      Event.performed 200 1 ∈ c.state.history := by
  obtain ⟨c, reach, there, ⟨q, stored, status, unnamed⟩, sent, c', next, q', stored', marked⟩ := reachable_replay
    Sample.settings Sample.cancelledUnanswered (fun (c : Config) => Sample.cancelsNext c = true ∧
      (∃ q, c.state.db.requests.get 200 = some q ∧ q.status = .retryScheduled ∧ q.providerReference = none) ∧
      Event.performed 200 1 ∈ c.state.history ∧
      ∃ c', (orchestrator Sample.settings).next c (.run 1 (Sample.input 4 0 .crashed)) = some c' ∧
        ∃ q', c'.state.db.requests.get 200 = some q' ∧ q'.status = .cancelled) (by decide +kernel)
  obtain ⟨reason, actor, atTask⟩ := Sample.cancelsNext_iff there
  exact ⟨c, c', reason, actor, q, q', reach, atTask, next, stored, status, unnamed, stored', marked, sent⟩

/-- A client cancels a request whose dispatch was never begun. -/
theorem local_cancellation_truthful_received :
    ∃ c c' q', Reachable Sample.settings c ∧
      (orchestrator Sample.settings).next c (.run 1 (Sample.input 4 0 .crashed)) = some c' ∧
      c'.state.db.requests.get 200 = some q' ∧ q'.status = .cancelled ∧ c.state.createCalls 200 = 0 := by
  obtain ⟨c, reach, there, ⟨q, stored, unmarked, unattempted⟩, c', next, q', stored', marked⟩ := reachable_replay
    Sample.settings
    (.spawn Sample.create :: Sample.work 0 1 200 1 ++ [.spawn (.cancelRequest 200 none { type := .apiClient })])
    (fun (c : Config) => Sample.cancelsNext c = true ∧
      (∃ q, c.state.db.requests.get 200 = some q ∧ q.status ≠ .cancelled ∧ q.attemptCount = 0) ∧
      ∃ c', (orchestrator Sample.settings).next c (.run 1 (Sample.input 4 0 .crashed)) = some c' ∧
        ∃ q', c'.state.db.requests.get 200 = some q' ∧ q'.status = .cancelled) (by decide +kernel)
  obtain ⟨reason, actor, atTask⟩ := Sample.cancelsNext_iff there
  exact ⟨c, c', q', reach, next, stored', marked,
    (local_cancellation_truthful reach atTask next stored unmarked stored' marked unattempted).1⟩

end IntegrationOrchestrator
