import IntegrationOrchestrator.Dispatch.Steps
import IntegrationOrchestrator.Saga.Runs

namespace IntegrationOrchestrator

open IntegrationRequest RequestDispatcher Mutator

variable {settings : Settings} {input : Input} {s s' : State} {frame : Frame} {pushed : List Frame}
  {q q' : IntegrationRequest} {requestId : UUID} {c : Config} {now : Instant} {actor : Actor}
  {records : List RequestRecord}

/-- The row satisfies the selection of the retry worker or of reconciliation at
this time: `claim_due_for_retry` and `find_stale_in_flight`. -/
def Settings.selects (settings : Settings) (q : IntegrationRequest) (now : Instant) : Bool :=
  q.isDueForRetry now ||
    (q.status ∈ reconcilableStatuses && q.updatedAt ≤ now - settings.staleAfterSeconds * 1000000)

/-- A worker that looks at the row acts on it exactly if the row is selected. -/
theorem selects_iff_acts (stored : s.db.requests.get requestId = some q) :
    settings.selects q input.readings.now = true ↔
      (q.isDueForRetry input.readings.now = true ∨
        Frame.exec settings (.findStale requestId) input s = .ok (s, [.reconcile q])) := by
  have looks : Frame.exec settings (.findStale requestId) input s =
      if q.status ∈ reconcilableStatuses && q.updatedAt ≤ input.readings.now - settings.staleAfterSeconds * 1000000 then
        .ok (s, [.reconcile q]) else .ok (s, []) := by
    simp only [Frame.exec, Frame.execFindStale, stored]
  rw [looks, Settings.selects, Bool.or_eq_true]
  refine or_congr_right ?_
  split
  · rename_i stale
    exact iff_of_true stale rfl
  · rename_i fresh
    exact iff_of_false fresh (by simp)

/-- A committed request is not being validated, and a scheduled one knows its time. -/
structure IntegrationRequest.Attended (q : IntegrationRequest) : Prop where
  settled : q.status ≠ .validating
  scheduled : q.status = .retryScheduled → q.nextRetryAt ≠ none

theorem IntegrationRequest.Attended.of_status (settled : q.status ≠ .validating) (unscheduled : q.status ≠ .retryScheduled) :
    q.Attended :=
  ⟨settled, fun status => absurd status unscheduled⟩

theorem IntegrationRequest.Moved.attended {target : RequestStatus} (moved : Moved q q' target)
    (listed : target ∈ Frame.reportedStatuses) : q'.Attended := by
  refine .of_status ?_ ?_ <;> rw [moved.status] <;> rintro rfl <;> simp [Frame.reportedStatuses] at listed

namespace RequestDispatcher

theorem applyFailure_attended {policy : RetryPolicy} {result : ProviderOperationResult} {jitter : Rat}
    (run : applyFailure policy q result actor now jitter = .ok (q', records)) : q'.Attended := by
  unfold applyFailure at run
  dsimp only at run
  split at run
  · obtain ⟨nextRetryAt, _, run⟩ := Rows.bind_eq_ok.mp run
    obtain ⟨_, called⟩ := recorded_ok run
    rw [scheduleRetry, call_transitionThen] at called
    split at called
    · cases called
      exact ⟨by simp [withFailure, moved, touched], by simp⟩
    · cases called
  · split at run
    · exact (escalate_moved run).attended (by simp [Frame.reportedStatuses])
    · obtain ⟨_, called⟩ := recorded_ok run
      have change : Moved q q' .failed := moved_of_transitionThen called fun _ => ⟨rfl, rfl, rfl, rfl⟩
      exact change.attended (by simp [Frame.reportedStatuses])

theorem attachedIfNew_attended {result : ProviderOperationResult} (attended : q.Attended)
    (run : attachedIfNew q result now = .ok q') : q'.Attended := by
  unfold attachedIfNew at run
  split at run
  · obtain ⟨_, rfl⟩ := attachProviderReference_ok run
    exact ⟨attended.settled, attended.scheduled⟩
  · cases run
    exact attended

/-- The settle transaction leaves a request that is attended to. -/
theorem settle_attended {policy : RetryPolicy} {result : ProviderOperationResult} {jitter : Rat}
    (attended : q.Attended) (run : settle policy q result actor now jitter = .ok (q', records)) : q'.Attended := by
  unfold settle at run
  split at run
  · obtain ⟨attached, changed, done⟩ := Rows.bind_eq_ok.mp run
    cases done
    exact attachedIfNew_attended attended changed
  · split at run
    · obtain ⟨target, member, change⟩ := applyAcceptance_moved run
      refine change.attended ?_
      simp only [Frame.reportedStatuses, List.mem_cons] at member ⊢
      grind
    · exact applyFailure_attended run

end RequestDispatcher

/-- Every stored request is attended to. -/
def State.Attended (s : State) : Prop := ∀ requestId q, s.db.requests.get requestId = some q → q.Attended

theorem State.Attended.put (held : s.Attended) (attended : q.Attended)
    (requests : s'.db.requests = s.db.requests.put q) : s'.Attended := by
  intro requestId other stored
  rw [requests, Table.get_put] at stored
  split at stored
  · cases stored
    exact attended
  · exact held requestId other stored

theorem State.Attended.same (held : s.Attended) (requests : s'.db.requests = s.db.requests) : s'.Attended := by
  intro requestId q stored
  rw [requests] at stored
  exact held requestId q stored

/-- An operator's retry schedules the request at once. -/
theorem Frame.execRetryRequest_attended (held : s.Attended)
    (run : execRetryRequest requestId actor input s = .ok (s', pushed)) : s'.Attended := by
  obtain ⟨q, _, run⟩ := Rows.bind_eq_ok.mp run
  split at run
  · cases run
  · obtain ⟨⟨q', records⟩, moved, run⟩ := Rows.bind_eq_ok.mp run
    obtain ⟨saved, wrote, done⟩ := Rows.bind_eq_ok.mp run
    cases done
    obtain ⟨db, updated, written⟩ := Rows.bind_eq_ok.mp wrote
    cases written
    obtain ⟨_, called⟩ := recorded_ok moved
    rw [restoreForRetry, call_transitionThen] at called
    split at called
    · cases called
      cases Database.updateRequest_ok updated
      exact held.put ⟨by simp [IntegrationRequest.moved, touched], by simp⟩ rfl
    · cases called

theorem Frame.execSettleAttempt_attended {result : ProviderOperationResult} {caller : Caller} (held : s.Attended)
    (run : execSettleAttempt settings q result caller input s = .ok (s', pushed)) : s'.Attended := by
  obtain ⟨current, found, run⟩ := Rows.bind_eq_ok.mp run
  obtain ⟨⟨settled, records⟩, outcome, run⟩ := Rows.bind_eq_ok.mp run
  obtain ⟨saved, wrote, done⟩ := Rows.bind_eq_ok.mp run
  cases done
  have attended := settle_attended (held _ _ (State.request_ok found).1) outcome
  unfold savedSettlement at wrote
  split at wrote
  · obtain ⟨db, updated, written⟩ := Rows.bind_eq_ok.mp wrote
    cases written
    cases Database.updateRequest_ok updated
    exact held.put attended rfl
  · cases wrote
    exact held.same rfl

/-- Every committed frame leaves the stored requests attended to. -/
theorem Frame.attended (held : s.Attended) (run : frame.exec settings input s = .ok (s', pushed)) : s'.Attended := by
  have step := Frame.requestStep run
  cases step with
  | quiet _ same => exact held.same same
  | creates _ _ received _ requests => exact held.put (.of_status (by simp [received]) (by simp [received])) requests
  | claims _ _ wrote _ status =>
    exact held.put (.of_status (by simp [status]) (by simp [status])) wrote.requests
  | calls _ _ same => exact held.same same
  | reports _ wrote _ listed moved => exact held.put (moved.attended listed) wrote.requests
  | retries retry =>
    subst retry
    exact execRetryRequest_attended held run
  | settles settle =>
    subst settle
    exact execSettleAttempt_attended held run

theorem reachable_attended (reach : Reachable settings c) : c.state.Attended := by
  refine reach.state_invariant State.Attended ?_ ?_
  · intro requestId q stored
    cases stored
  · intro c task input frame rest state pushed _ held _ _ ran
    exact Frame.attended held ran

/-- No stranded request but a received one. Whatever was under way when it was
committed, a request that is not settled is selected by a worker from some time
on, unless it was committed by its creation and not yet claimed for dispatch. -/
theorem no_stranded_request (reach : Reachable settings c) (stored : c.state.db.requests.get requestId = some q)
    (unsettled : q.status ∉ [RequestStatus.succeeded, .failed, .cancelled, .manualReview]) :
    (∃ since, ∀ now, since ≤ now → settings.selects q now = true) ↔ q.status ≠ .received := by
  obtain ⟨settled, scheduled⟩ := reachable_attended reach requestId q stored
  constructor
  · rintro ⟨since, selected⟩ received
    have never := selected since (le_refl _)
    simp [Settings.selects, isDueForRetry, received, reconcilableStatuses] at never
  · intro claimed
    by_cases retry : q.status = .retryScheduled
    · obtain ⟨due, known⟩ := Option.ne_none_iff_exists'.mp (scheduled retry)
      refine ⟨due, fun now later => ?_⟩
      simp [Settings.selects, isDueForRetry, retry, known, later]
    · have inFlight : q.status ∈ reconcilableStatuses := by
        cases status : q.status <;> simp_all [reconcilableStatuses]
      refine ⟨q.updatedAt + settings.staleAfterSeconds * 1000000, fun now later => ?_⟩
      have stale : q.updatedAt ≤ now - settings.staleAfterSeconds * 1000000 := le_sub_iff_add_le.mpr later
      simp [Settings.selects, inFlight, stale]

namespace Sample

/-- A client asks for one operation. -/
def create : Frame :=
  .createRequest
    { provider := provider, operationType := .resourceProvision, externalReference := order
      payload := [("size", .int 1)], correlationId := correlationId, actor := { type := .apiClient } }

end Sample

/-- A request whose creation is committed and not yet dispatched is not
selected by any worker at any time. -/
theorem received_request_stranded :
    ∃ c, Reachable Sample.settings c ∧ ∃ q, c.state.db.requests.get 200 = some q ∧
      q.status ∉ [RequestStatus.succeeded, .failed, .cancelled, .manualReview] ∧
      ∀ now, Sample.settings.selects q now = false := by
  obtain ⟨c, reach, q, stored, received⟩ := reachable_replay Sample.settings
    (.spawn Sample.create :: Sample.work 0 1 200 1)
    (fun c => ∃ q, c.state.db.requests.get 200 = some q ∧ q.status = .received) (by decide)
  refine ⟨c, reach, q, stored, by simp [received], fun now => ?_⟩
  simp [Settings.selects, isDueForRetry, received, reconcilableStatuses]

theorem no_stranded_request_dispatching :
    ∃ c, Reachable Sample.settings c ∧ ∃ q, c.state.db.requests.get 200 = some q ∧ q.status = .dispatching ∧
      ∃ since, ∀ now, since ≤ now → Sample.settings.selects q now = true := by
  obtain ⟨c, reach, q, stored, dispatching⟩ := reachable_replay Sample.settings
    (.spawn Sample.create :: Sample.work 0 1 200 2)
    (fun c => ∃ q, c.state.db.requests.get 200 = some q ∧ q.status = .dispatching) (by decide)
  have selected := (no_stranded_request reach stored (by simp [dispatching])).mpr (by simp [dispatching])
  exact ⟨c, reach, q, stored, dispatching, selected⟩

end IntegrationOrchestrator
