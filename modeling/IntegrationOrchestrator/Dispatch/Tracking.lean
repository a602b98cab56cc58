import IntegrationOrchestrator.Dispatch.Steps

namespace IntegrationOrchestrator

open IntegrationRequest RequestDispatcher

variable {settings : Settings} {input : Input} {s s' : State} {frame : Frame} {pushed : List Frame}
  {q : IntegrationRequest} {requestId : UUID} {c : Config}

/-- The row that an attempt was started with, as long as its result is out. -/
def Frame.attempt : Frame → Option IntegrationRequest
  | .callProvider q _ => some q
  | .settleAttempt q _ _ => some q
  | _ => none

/-- What stays the same, and what only grows, in the life of a request. -/
structure IntegrationRequest.Later (q q' : IntegrationRequest) : Prop where
  provider : q'.provider = q.provider
  attemptCount : q.attemptCount ≤ q'.attemptCount

theorem IntegrationRequest.Later.refl (q : IntegrationRequest) : q.Later q := ⟨rfl, le_refl _⟩

theorem IntegrationRequest.Later.trans {q q' q'' : IntegrationRequest} (first : q.Later q') (second : q'.Later q'') :
    q.Later q'' :=
  ⟨second.provider.trans first.provider, first.attemptCount.trans second.attemptCount⟩

theorem IntegrationRequest.Moved.later {q' : IntegrationRequest} {target : RequestStatus}
    (moved : Moved q q' target) : q.Later q' := ⟨moved.provider, le_of_eq moved.attemptCount.symm⟩

theorem IntegrationRequest.Kept.later {q' : IntegrationRequest} (kept : Kept q q') : q.Later q' :=
  ⟨kept.provider, le_of_eq kept.attemptCount.symm⟩

theorem State.Wrote.later {old new : IntegrationRequest} (wrote : s.Wrote s' old new) (order : old.Later new)
    (stored : s.db.requests.get requestId = some q) :
    ∃ q', s'.db.requests.get requestId = some q' ∧ q.Later q' := by
  rw [wrote.get]
  split
  · rename_i same
    subst same
    cases wrote.stored.symm.trans stored
    exact ⟨new, rfl, order⟩
  · exact ⟨q, stored, .refl q⟩

namespace RequestStep

/-- A settled attempt keeps the identity of its request. -/
theorem settled_later {current settled : IntegrationRequest} {result : ProviderOperationResult}
    (outcome : (current.status ≠ .dispatching ∧ Kept current settled) ∨
      (current.status = .dispatching ∧ s.Wrote s' current settled ∧
        ∃ target ∈ settledStatuses, Moved current settled target ∧
          (target = .retryScheduled → result.accepted = false ∧
            (settings.retryPolicy current.provider).shouldRetry current.attemptCount
              (result.error.getD missingError).retryable = true))) : current.Later settled := by
  rcases outcome with ⟨_, kept⟩ | ⟨_, _, _, _, moved, _⟩
  · exact kept.later
  · exact moved.later

/-- No request is ever removed, or handed to another provider. -/
theorem stored (step : RequestStep settings input frame s s' pushed)
    (before : s.db.requests.get requestId = some q) :
    ∃ q', s'.db.requests.get requestId = some q' ∧ q.Later q' := by
  have unchanged : s'.db.requests = s.db.requests → ∃ q', s'.db.requests.get requestId = some q' ∧ q.Later q' :=
    fun same => ⟨q, same ▸ before, .refl q⟩
  cases step with
  | quiet _ same => exact unchanged same
  | creates _ fresh _ _ requests =>
    refine ⟨q, ?_, .refl q⟩
    rw [requests, Table.get_put, if_neg, before]
    rintro rfl
    exact absurd (fresh.symm.trans before) (by simp)
  | claims _ _ wrote _ _ provider attempts =>
    refine wrote.later ⟨provider, ?_⟩ before
    omega
  | calls _ _ same => exact unchanged same
  | settles _ _ _ _ _ written outcome =>
    rcases written with quiet | wrote
    · exact unchanged quiet.requests
    · exact wrote.later (settled_later outcome) before
  | retries _ wrote moved => exact wrote.later moved.later before
  | reports _ wrote _ _ moved => exact wrote.later moved.later before

end RequestStep

/-- A frame that carries a request out knows a row of it that is not newer than
the stored one. -/
def Frame.Tracks (s : State) (frame : Frame) : Prop :=
  (∀ requestId, frame.attempts = some requestId → ∃ q, s.db.requests.get requestId = some q) ∧
    ∀ q, frame.attempt = some q → ∃ current, s.db.requests.get q.id = some current ∧ q.Later current

/-- Providers were only ever called for stored requests. -/
def State.Performed (s : State) : Prop :=
  ∀ requestId count, Event.performed requestId count ∈ s.history → ∃ q, s.db.requests.get requestId = some q

theorem Frame.tracks_of_idle (idle : frame.attempts = none) : frame.Tracks s := by
  refine ⟨fun requestId some => ?_, fun q some => ?_⟩
  · rw [idle] at some
    cases some
  · cases frame <;> simp [Frame.attempt, Frame.attempts] at some idle

theorem RequestStep.tracks (step : RequestStep settings input frame s s' pushed) {other : Frame}
    (tracks : other.Tracks s) : other.Tracks s' := by
  refine ⟨fun requestId carried => ?_, fun q attempted => ?_⟩
  · obtain ⟨q, before⟩ := tracks.1 requestId carried
    obtain ⟨q', after, _⟩ := step.stored before
    exact ⟨q', after⟩
  · obtain ⟨current, before, order⟩ := tracks.2 q attempted
    obtain ⟨current', after, later⟩ := step.stored before
    exact ⟨current', after, order.trans later⟩

/-- The frames a step pushes know the rows they are about. -/
theorem RequestStep.tracks_pushed (step : RequestStep settings input frame s s' pushed) (top : frame.Tracks s) :
    ∀ next ∈ pushed, next.Tracks s' := by
  intro next member
  cases step with
  | quiet _ _ _ idle => exact Frame.tracks_of_idle (idle next member)
  | @creates q caller extra _ _ _ _ requests =>
    cases List.mem_singleton.mp member
    refine ⟨fun requestId carried => ?_, fun q attempted => by cases attempted⟩
    cases carried
    exact ⟨q, by rw [requests, Table.get_put_self]⟩
  | @claims q q' caller _ _ wrote =>
    cases List.mem_singleton.mp member
    have stored : s'.db.requests.get q'.id = some q' := by rw [wrote.get, wrote.id, if_pos rfl]
    refine ⟨fun requestId carried => ?_, fun row attempted => ?_⟩
    · cases carried
      exact ⟨q', stored⟩
    · cases attempted
      exact ⟨q', stored, .refl q'⟩
  | calls here _ requests _ next =>
    subst here
    rcases next with ⟨e, rfl⟩ | ⟨result, rfl, _⟩
    · cases List.mem_singleton.mp member
      exact Frame.tracks_of_idle rfl
    · cases List.mem_singleton.mp member
      unfold Frame.Tracks at top ⊢
      rw [requests]
      exact top
  | settles => exact Frame.tracks_of_idle (idle_afterAttempt _ _ _ next member)
  | retries => cases member
  | reports _ _ _ _ _ idle => exact Frame.tracks_of_idle (idle next member)

theorem RequestStep.performed (step : RequestStep settings input frame s s' pushed) (top : frame.Tracks s)
    (performed : s.Performed) : s'.Performed := by
  intro requestId count event
  have old : Event.performed requestId count ∈ s.history → ∃ q, s'.db.requests.get requestId = some q := by
    intro before
    obtain ⟨q, stored⟩ := performed requestId count before
    obtain ⟨q', after, _⟩ := step.stored stored
    exact ⟨q', after⟩
  cases step with
  | quiet _ _ history => exact old (history ▸ event)
  | creates _ _ _ _ _ history extra =>
    rw [history] at event
    rcases List.mem_append.mp event with before | new
    · exact old before
    · obtain ⟨_, _, _, same⟩ := extra _ new
      cases same
  | claims _ _ _ history => exact old (history ▸ event)
  | calls here _ requests history =>
    rw [history] at event
    rcases List.mem_append.mp event with before | new
    · exact old before
    · cases List.mem_singleton.mp new
      subst here
      rw [requests]
      exact top.1 _ rfl
  | settles _ _ _ _ history => exact old (history ▸ event)
  | retries _ _ _ history =>
    rw [history] at event
    rcases List.mem_append.mp event with before | new
    · exact old before
    · cases List.mem_singleton.mp new
  | reports _ _ history => exact old (history ▸ event)

/-- Over every run, the attempts under way are attempts of stored requests. -/
theorem reachable_tracked {allowed : Restriction} (reach : ReachableUnder settings allowed c) :
    c.state.Performed ∧ ∀ frame ∈ c.frames, frame.Tracks c.state := by
  refine reach.pool_invariant State.Performed Frame.Tracks ⟨?_, by simp [Config.initial, TaskPool.Config.frames]⟩ ?_ ?_
  · intro requestId count event
    cases event
  · intro state frame _ entry
    refine Frame.tracks_of_idle ?_
    cases frame <;> first | rfl | cases entry
  · intro c task input frame rest state pushed performed tracks _ atTask ran
    have top := tracks frame (TaskPool.mem_frames_top atTask)
    have step := Frame.requestStep ran
    exact ⟨step.performed top performed, step.tracks_pushed top, fun other _ => step.tracks⟩

end IntegrationOrchestrator
