import IntegrationOrchestrator.Dispatch.Tracking
import IntegrationOrchestrator.Saga.Runs

namespace IntegrationOrchestrator

open IntegrationRequest RequestDispatcher

variable {settings : Settings} {input : Input} {s s' : State} {frame : Frame} {pushed : List Frame}
  {q : IntegrationRequest} {c c' : Config}

/-- The request of which the frame begins an attempt. -/
def Frame.beginsAttempt : Frame → Option UUID
  | .dispatch requestId _ => some requestId
  | .claimRetry requestId => some requestId
  | _ => none

/-- The runs in which an attempt of a request begins only when no earlier
attempt of it is still at the provider or waiting to be settled. -/
abbrev NoOverlappingAttempts : Restriction := .frames fun c _ frame =>
  frame.beginsAttempt.all fun requestId => c.frames.all fun other => other.attempt.all (·.id ≠ requestId)

/-- The attempt under way is the latest one of its request. -/
def Frame.Latest (s : State) (frame : Frame) : Prop :=
  ∀ q, frame.attempt = some q → ∃ current, s.db.requests.get q.id = some current ∧
    current.attemptCount = q.attemptCount

theorem State.Wrote.latest {old new : IntegrationRequest} (wrote : s.Wrote s' old new)
    (same : new.attemptCount = old.attemptCount) {other : Frame} (latest : other.Latest s) : other.Latest s' := by
  intro q attempted
  obtain ⟨current, stored, count⟩ := latest q attempted
  rw [wrote.get]
  split
  · rename_i here
    rw [here, wrote.stored] at stored
    cases stored
    exact ⟨new, rfl, same.trans count⟩
  · exact ⟨current, stored, count⟩

/-- Only the beginning of an attempt makes the attempts under way old ones. -/
theorem RequestStep.latest (step : RequestStep settings input frame s s' pushed) {other : Frame}
    (latest : other.Latest s)
    (apart : ∀ requestId, frame.beginsAttempt = some requestId → ∀ q, other.attempt = some q → q.id ≠ requestId) :
    other.Latest s' := by
  have unchanged : s'.db.requests = s.db.requests → other.Latest s' := by
    intro same q attempted
    rw [same]
    exact latest q attempted
  cases step with
  | quiet _ same => exact unchanged same
  | creates _ fresh _ _ requests =>
    intro q attempted
    obtain ⟨current, stored, count⟩ := latest q attempted
    refine ⟨current, ?_, count⟩
    rw [requests, Table.get_put, if_neg, stored]
    intro same
    rw [same, fresh] at stored
    cases stored
  | @claims old new caller begun _ wrote =>
    intro q attempted
    obtain ⟨current, stored, count⟩ := latest q attempted
    have elsewhere : q.id ≠ old.id := by
      refine apart old.id ?_ q attempted
      rcases begun with rfl | ⟨rfl, _⟩ <;> rfl
    exact ⟨current, by rw [wrote.get, if_neg elsewhere, stored], count⟩
  | calls _ _ same => exact unchanged same
  | settles _ _ _ _ _ written outcome =>
    rcases written with quiet | wrote
    · exact unchanged quiet.requests
    · refine wrote.latest ?_ latest
      rcases outcome with ⟨_, kept⟩ | ⟨_, _, _, _, moved, _⟩
      · exact kept.attemptCount
      · exact moved.attemptCount
  | retries _ wrote moved => exact wrote.latest moved.attemptCount latest
  | reports _ wrote _ _ moved => exact wrote.latest moved.attemptCount latest

theorem Frame.latest_of_idle (idle : frame.attempts = none) : frame.Latest s := by
  intro q attempted
  cases frame <;> simp [Frame.attempt, Frame.attempts] at attempted idle

theorem RequestStep.latest_pushed (step : RequestStep settings input frame s s' pushed) (top : frame.Latest s) :
    ∀ next ∈ pushed, next.Latest s' := by
  intro next member
  cases step with
  | quiet _ _ _ idle => exact Frame.latest_of_idle (idle next member)
  | creates =>
    cases List.mem_singleton.mp member
    intro q attempted
    cases attempted
  | @claims _ q' _ _ _ wrote =>
    cases List.mem_singleton.mp member
    intro q attempted
    cases attempted
    exact ⟨q', by rw [wrote.get, wrote.id, if_pos rfl], rfl⟩
  | calls here _ requests _ next =>
    subst here
    rcases next with ⟨e, rfl⟩ | ⟨result, rfl, _⟩
    · cases List.mem_singleton.mp member
      exact Frame.latest_of_idle rfl
    · cases List.mem_singleton.mp member
      intro q attempted
      rw [requests]
      exact top q attempted
  | settles => exact Frame.latest_of_idle (idle_afterAttempt _ _ _ next member)
  | retries => cases member
  | reports _ _ _ _ _ idle => exact Frame.latest_of_idle (idle next member)

/-- Where attempts do not overlap, every attempt under way is the latest one. -/
theorem reachable_latest (reach : ReachableUnder settings NoOverlappingAttempts c) :
    ∀ frame ∈ c.frames, frame.Latest c.state := by
  refine (reach.pool_invariant (fun _ => True) Frame.Latest
    ⟨trivial, by simp [Config.initial, TaskPool.Config.frames]⟩ ?_ ?_).2
  · intro state frame _ entry
    refine Frame.latest_of_idle ?_
    cases frame <;> first | rfl | cases entry
  · intro c task input frame rest state pushed _ latest ok atTask ran
    have top := latest frame (TaskPool.mem_frames_top atTask)
    have step := Frame.requestStep ran
    have apart := Restriction.frames_run ok atTask
    simp only [Option.all_eq_true, List.all_eq_true, decide_eq_true_eq] at apart
    exact ⟨trivial, step.latest_pushed top, fun other member held =>
      step.latest held fun requestId begins => apart requestId begins other member⟩

/-- Attempt identity in the settle phase, over every run without overlapping
attempts: the transaction that applies the result of an attempt finds the stored
request in that attempt, and leaves it there. -/
theorem attempt_identity (reach : ReachableUnder settings NoOverlappingAttempts c) {task : Nat} {rest : List Frame}
    {result : ProviderOperationResult} {caller : Caller}
    (settles : c.tasks[task]? = some (.settleAttempt q result caller :: rest))
    (next : (orchestrator settings).next c (.run task input) = some c') :
    ∃ current settled, c.state.db.requests.get q.id = some current ∧ current.attemptCount = q.attemptCount ∧
      c'.state.db.requests.get q.id = some settled ∧ settled.attemptCount = q.attemptCount := by
  have top := TaskPool.mem_frames_of_task settles (List.mem_cons_self ..)
  have latest := reachable_latest reach _ top
  obtain ⟨current, stored, count⟩ := latest q rfl
  have after : Frame.Latest c'.state (.settleAttempt q result caller) := by
    rcases TaskPool.next_cases next with ⟨_, spawns, _⟩ |
      ⟨_, _, frame, _, state, pushed, same, atTask, ran, rfl⟩ | ⟨_, _, _, _, _, _, _, _, rfl⟩
    · cases spawns
    · cases same
      cases settles.symm.trans atTask
      have step : RequestStep settings input (.settleAttempt q result caller) c.state state pushed :=
        Frame.requestStep ran
      refine step.latest latest fun requestId begins => ?_
      cases begins
    · exact latest
  obtain ⟨settled, stored', count'⟩ := after q rfl
  exact ⟨current, settled, stored, count, stored', count'⟩

namespace Sample

/-- The first attempt hangs at the provider; the reconciliation escalates the
request, an operator retries it, and the retry worker starts a second attempt. -/
def secondAttempt : List Action :=
  .spawn (start [stage "only" []] none) :: work 0 1 100 2 ++ work 0 2 200 3 ++
    .spawn (.findStale 200) :: work 1 100000000 0 3 ++
    .spawn (.retryRequest 200 { type := .apiClient }) :: work 2 200000000 0 1 ++
    .spawn (.claimRetry 200) :: work 3 300000000 0 1

/-- The first attempt comes back while the second one is at the provider. -/
def firstReturns : List Action := secondAttempt ++ [answer 0 300000000 (answered .succeeded "op-1")]

/-- The retry worker is about to call the provider for this request. -/
def retryCalls (requestId : UUID) (c : Config) : Bool := match c.tasks[3]? with
  | some (Frame.callProvider second .retryWorker :: _) => second.id = requestId
  | _ => false

/-- The first task is about to settle an attempt, and the test holds of it. -/
def settlesNext (test : IntegrationRequest → Bool) (c : Config) : Bool := match c.tasks[0]? with
  | some (Frame.settleAttempt q _ _ :: _) => test q
  | _ => false

theorem retryCalls_iff {c : Config} {requestId : UUID} (found : retryCalls requestId c = true) :
    ∃ second rest, c.tasks[3]? = some (.callProvider second .retryWorker :: rest) ∧ second.id = requestId := by
  unfold retryCalls at found
  split at found
  · rename_i second rest atTask
    exact ⟨second, rest, atTask, of_decide_eq_true found⟩
  · cases found

theorem settlesNext_iff {c : Config} {test : IntegrationRequest → Bool} (found : settlesNext test c = true) :
    ∃ q result caller rest, c.tasks[0]? = some (.settleAttempt q result caller :: rest) ∧ test q = true := by
  unfold settlesNext at found
  split at found
  · rename_i q result caller rest atTask
    exact ⟨q, result, caller, rest, atTask, found⟩
  · cases found

end Sample

/-- The result of the first attempt settles the second one, which is in flight. -/
theorem old_attempt_settles :
    ∃ c q result caller rest, Reachable Sample.settings c ∧
      c.tasks[0]? = some (.settleAttempt q result caller :: rest) ∧ q.attemptCount = 1 ∧
      (∃ current, c.state.db.requests.get q.id = some current ∧ current.status = .dispatching ∧
        current.attemptCount = 2) ∧
      ∃ c', (orchestrator Sample.settings).next c (.run 0 (Sample.input 300000000 0 .crashed)) = some c' ∧
        (∃ settled, c'.state.db.requests.get q.id = some settled ∧ settled.status = .succeeded) ∧
        ∃ second rest, c'.tasks[3]? = some (.callProvider second .retryWorker :: rest) ∧ second.id = q.id := by
  obtain ⟨c, reach, found⟩ := reachable_replay Sample.settings Sample.firstReturns
    (fun (c : Config) => Sample.settlesNext (fun q => q.attemptCount = 1 &&
      (c.state.db.requests.get q.id).any (fun current => current.status = .dispatching && current.attemptCount = 2) &&
      ((orchestrator Sample.settings).next c (.run 0 (Sample.input 300000000 0 .crashed))).any fun (c' : Config) =>
        (c'.state.db.requests.get q.id).any (fun settled => settled.status = .succeeded) &&
          Sample.retryCalls q.id c') c) (by decide +kernel)
  obtain ⟨q, result, caller, rest, settles, found⟩ := Sample.settlesNext_iff found
  simp only [Option.any_eq_true, Bool.and_eq_true, decide_eq_true_eq] at found
  obtain ⟨⟨first, current, stored, status, attempts⟩, c', next, ⟨settled, after, succeeded⟩, second⟩ := found
  exact ⟨c, q, result, caller, rest, reach, settles, first, ⟨current, stored, status, attempts⟩, c', next,
    ⟨settled, after, succeeded⟩, Sample.retryCalls_iff second⟩

theorem attempt_identity_first :
    ∃ c c' q result caller rest, ReachableUnder Sample.settings NoOverlappingAttempts c ∧
      c.tasks[0]? = some (.settleAttempt q result caller :: rest) ∧
      (orchestrator Sample.settings).next c (.run 0 (Sample.input 4 0 .crashed)) = some c' ∧
      ∃ current settled, c.state.db.requests.get q.id = some current ∧ current.attemptCount = q.attemptCount ∧
        c'.state.db.requests.get q.id = some settled ∧ settled.attemptCount = q.attemptCount := by
  obtain ⟨c, reach, found⟩ := reachableUnder_replay Sample.settings NoOverlappingAttempts
    (Sample.onlyStep (Sample.answered .succeeded "op-1"))
    (fun (c : Config) => Sample.settlesNext (fun _ =>
      ((orchestrator Sample.settings).next c (.run 0 (Sample.input 4 0 .crashed))).isSome) c) (by decide)
  obtain ⟨q, result, caller, rest, settles, found⟩ := Sample.settlesNext_iff found
  obtain ⟨c', next⟩ := Option.isSome_iff_exists.mp found
  exact ⟨c, c', q, result, caller, rest, reach, settles, next, attempt_identity reach settles next⟩

end IntegrationOrchestrator
