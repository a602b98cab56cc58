import IntegrationOrchestrator.Dispatch.Selection

namespace IntegrationOrchestrator

open IntegrationRequest RequestDispatcher Mutator

variable {settings : Settings} {input : Input} {s s' : State} {pushed : List Frame} {q q' current : IntegrationRequest}
  {result : ProviderOperationResult} {caller : Caller} {actor : Actor} {now : Instant} {records : List RequestRecord}

namespace RequestDispatcher

theorem recorded_transitionThen {requested : RequestStatus} {write : IntegrationRequest → IntegrationRequest}
    {action : AuditAction} {published : Bool}
    (run : recorded q (transitionThen requested now write) action actor published = .ok (q', records)) :
    q' = write (q.moved requested now) := by
  obtain ⟨_, called⟩ := recorded_ok run
  rw [call_transitionThen] at called
  split at called
  · cases called
    rfl
  · cases called

theorem escalate_reference {reason : String} (run : escalate q reason actor now = .ok (q', records)) :
    q'.providerReference = q.providerReference := by
  rw [recorded_transitionThen run]
  rfl

theorem withProviderRequest_reference (q : IntegrationRequest) (result : ProviderOperationResult) :
    (withProviderRequest q result).providerReference = q.providerReference := by
  unfold withProviderRequest
  split <;> rfl

/-- The statuses of an accepted answer whose branches store its reference. -/
def storesReference (status : NormalizedStatus) : Bool := status ∈ [.succeeded, .accepted, .pending]

theorem applyAcceptance_reference (given : truthy result.providerReference = true)
    (run : applyAcceptance q result actor now = .ok (q', records)) :
    q'.providerReference =
      if storesReference result.normalizedStatus then result.providerReference else q.providerReference := by
  have accepted (run : recorded q (markAccepted (result.providerReference.getD "") now) .providerAccepted actor true =
      .ok (q', records)) : q'.providerReference = result.providerReference := by
    unfold markAccepted at run
    split at run
    · obtain ⟨_, called⟩ := recorded_ok run
      cases called
    · rw [recorded_transitionThen run]
      cases reference : result.providerReference with
      | none => simp [truthy, reference] at given
      | some text => rfl
  unfold applyAcceptance at run
  split at run <;> rename_i status
  · rw [recorded_transitionThen run]
    simp [storesReference, status, given, clearedError]
  · rw [if_pos given] at run
    rw [accepted run]
    simp [storesReference, status]
  · rw [if_pos given] at run
    rw [accepted run]
    simp [storesReference, status]
  · rw [recorded_transitionThen run]
    simp [storesReference, status, moved, touched]
  · rw [escalate_reference run]
    simp [storesReference, status]
  · rw [escalate_reference run]
    simp [storesReference, status]

theorem applyFailure_reference {policy : RetryPolicy} {jitter : Rat}
    (run : applyFailure policy q result actor now jitter = .ok (q', records)) :
    q'.providerReference = q.providerReference := by
  unfold applyFailure at run
  dsimp only at run
  split at run
  · obtain ⟨_, _, run⟩ := Rows.bind_eq_ok.mp run
    rw [recorded_transitionThen run]
    rfl
  · split at run
    · exact escalate_reference run
    · rw [recorded_transitionThen run]
      rfl

theorem attachedIfNew_reference (given : truthy result.providerReference = true)
    (run : attachedIfNew q result now = .ok q') :
    q'.providerReference = if truthy q.providerReference then q.providerReference else result.providerReference := by
  unfold attachedIfNew at run
  by_cases linked : truthy q.providerReference = true
  · rw [if_neg (by simp [linked])] at run
    cases run
    rw [if_pos linked]
  · rw [if_pos (by simp [given, linked])] at run
    rw [if_neg linked]
    obtain ⟨_, rfl⟩ := attachProviderReference_ok run
    cases reference : result.providerReference with
    | none => simp [truthy, reference] at given
    | some text => rfl

/-- What the settle transaction does with a reference that the provider gave. -/
theorem settle_reference {policy : RetryPolicy} {jitter : Rat} (given : truthy result.providerReference = true)
    (run : settle policy q result actor now jitter = .ok (q', records)) :
    q'.providerReference =
      if q.status ≠ .dispatching then
        if truthy q.providerReference then q.providerReference else result.providerReference
      else if result.accepted && storesReference result.normalizedStatus then result.providerReference
      else q.providerReference := by
  unfold settle at run
  split at run
  · rename_i late
    obtain ⟨_, attached, done⟩ := Rows.bind_eq_ok.mp run
    cases done
    rw [if_pos late, attachedIfNew_reference given attached]
  · rename_i inTime
    rw [if_neg inTime]
    split at run
    · rename_i accepted
      rw [applyAcceptance_reference given run, withProviderRequest_reference]
      simp [accepted]
    · rename_i rejected
      rw [applyFailure_reference run, withProviderRequest_reference]
      simp [rejected]

end RequestDispatcher

/-- The branches that do not drop the reference: the outcome was superseded, the
request has a reference already, or the provider accepted the operation and
calls it succeeded, accepted or pending. -/
def KeepsReference (current : IntegrationRequest) (result : ProviderOperationResult) : Prop :=
  current.status ≠ .dispatching ∨ truthy current.providerReference = true ∨
    (result.accepted = true ∧ storesReference result.normalizedStatus = true)

/-- What is stored after an attempt was settled. -/
theorem settleAttempt_stored (given : truthy result.providerReference = true)
    (run : Frame.exec settings (.settleAttempt q result caller) input s = .ok (s', pushed))
    (stored : s.db.requests.get q.id = some current) : ∃ settled, s'.db.requests.get q.id = some settled ∧
      settled.providerReference =
        if current.status ≠ .dispatching then
          if truthy current.providerReference then current.providerReference else result.providerReference
        else if result.accepted && storesReference result.normalizedStatus then result.providerReference
        else current.providerReference := by
  obtain ⟨reloaded, found, run⟩ := Rows.bind_eq_ok.mp run
  obtain ⟨stored', id⟩ := State.request_ok found
  cases Option.some.inj (stored.symm.trans stored')
  obtain ⟨⟨settled, records⟩, outcome, run⟩ := Rows.bind_eq_ok.mp run
  obtain ⟨saved, wrote, done⟩ := Rows.bind_eq_ok.mp run
  cases done
  have sameId : settled.id = current.id := by
    rcases settle_cases outcome with ⟨_, kept⟩ | ⟨_, _, _, moved, _⟩
    · exact kept.id
    · exact moved.id
  unfold Frame.savedSettlement at wrote
  split at wrote
  · obtain ⟨wrote, _⟩ := State.savedRequest_ok wrote (id.symm ▸ stored) sameId
    exact ⟨settled, by rw [wrote.get, if_pos id.symm], settle_reference given outcome⟩
  · rename_i silent
    cases wrote
    -- A row that is not written has been superseded and has a reference.
    simp only [Frame.settleWrites, given, Bool.or_eq_true, decide_eq_true_eq, Bool.true_and, not_or] at silent
    refine ⟨current, stored, ?_⟩
    rw [if_pos silent.1, if_pos (by simpa using silent.2)]

/-- The provider's reference is not dropped exactly in those branches. -/
theorem reference_kept_iff (settings : Settings) {q current : IntegrationRequest} {result : ProviderOperationResult}
    {caller : Caller} {input : Input} {s s' : State} {pushed : List Frame}
    (given : truthy result.providerReference = true)
    (run : Frame.exec settings (.settleAttempt q result caller) input s = .ok (s', pushed))
    (stored : s.db.requests.get q.id = some current) :
    (∃ settled, s'.db.requests.get q.id = some settled ∧ truthy settled.providerReference = true ∧
      (truthy current.providerReference = false → settled.providerReference = result.providerReference)) ↔
    KeepsReference current result := by
  obtain ⟨settled, after, reference⟩ := settleAttempt_stored given run stored
  have same : (∃ settled, s'.db.requests.get q.id = some settled ∧ truthy settled.providerReference = true ∧
      (truthy current.providerReference = false → settled.providerReference = result.providerReference)) ↔
      truthy settled.providerReference = true ∧
        (truthy current.providerReference = false → settled.providerReference = result.providerReference) := by
    rw [after]
    simp
  rw [same, reference, KeepsReference]
  by_cases late : current.status ≠ .dispatching
  · rw [if_pos late]
    by_cases linked : truthy current.providerReference = true <;> simp [late, linked, given]
  · rw [if_neg late]
    by_cases linked : truthy current.providerReference = true
    · by_cases stores : (result.accepted && storesReference result.normalizedStatus) = true <;>
        simp [linked, given, stores]
    · by_cases stores : (result.accepted && storesReference result.normalizedStatus) = true
      · rw [Bool.and_eq_true] at stores
        simp [given, stores]
      · rw [if_neg stores]
        simp only [Bool.and_eq_true] at stores
        simp [late, linked, stores]

namespace Sample

/-- A request whose first attempt is in flight. -/
def inFlight : IntegrationRequest :=
  { IntegrationRequest.create 200 provider .resourceProvision order [] correlationId 0 with
    status := .dispatching, attemptCount := 1 }

/-- A client's request is dispatched and the provider answers with this status. -/
def answeredOnce (status : NormalizedStatus) : List Action :=
  .spawn create :: work 0 1 200 2 ++ [answer 0 2 (answered status "op-1")]

/-- The first task is about to settle an attempt that got the reference with this status. -/
def settlesReference (status : NormalizedStatus) (c : Config) : Bool := match c.tasks[0]? with
  | some (Frame.settleAttempt q result _ :: _) =>
    q.id = 200 && (result.normalizedStatus = status && result.providerReference = some "op-1")
  | _ => false

theorem settlesReference_iff {status : NormalizedStatus} {c : Config} (found : settlesReference status c = true) :
    ∃ q result caller rest, c.tasks[0]? = some (.settleAttempt q result caller :: rest) ∧ q.id = 200 ∧
      result.normalizedStatus = status ∧ result.providerReference = some "op-1" := by
  unfold settlesReference at found
  split at found
  · rename_i q result caller rest atTask
    simp only [Bool.and_eq_true, decide_eq_true_eq] at found
    exact ⟨q, result, caller, rest, atTask, found⟩
  · cases found

end Sample

/-- The provider accepts the operation and will carry it out later. -/
theorem reference_kept_iff_pending : ∃ s' pushed settled,
    Frame.exec Sample.settings
      (.settleAttempt Sample.inFlight (.success .pending (some "op-1") none []) (.api { type := .apiClient }))
      (Sample.input 3 0 .crashed) { db := { requests := Table.empty.put Sample.inFlight } } = .ok (s', pushed) ∧
    s'.db.requests.get 200 = some settled ∧ settled.providerReference = some "op-1" := by
  have commits : (match Frame.exec Sample.settings
      (.settleAttempt Sample.inFlight (.success .pending (some "op-1") none []) (.api { type := .apiClient }))
      (Sample.input 3 0 .crashed) { db := { requests := Table.empty.put Sample.inFlight } } with
    | .ok _ => true
    | .error _ => false) = true := by decide +kernel
  split at commits
  · rename_i out run
    obtain ⟨settled, after, _, same⟩ := (reference_kept_iff Sample.settings rfl run rfl).mpr (.inr (.inr ⟨rfl, rfl⟩))
    exact ⟨out.1, out.2, settled, run, after, same rfl⟩
  · cases commits

/-- The provider answers with this status, and the reference it gave is gone. -/
def Sample.DropsReference (status : NormalizedStatus) : Prop :=
  ∃ c c', Reachable Sample.settings c ∧
    (∃ q result caller rest, c.tasks[0]? = some (.settleAttempt q result caller :: rest) ∧ q.id = 200 ∧
      result.normalizedStatus = status ∧ result.providerReference = some "op-1") ∧
    (orchestrator Sample.settings).next c (.run 0 (Sample.input 3 0 .crashed)) = some c' ∧
    ∃ settled, c'.state.db.requests.get 200 = some settled ∧ settled.providerReference = none

theorem Sample.dropsReference_of_replay {status : NormalizedStatus}
    (replay : ∃ c, (orchestrator Sample.settings).replay (fun _ _ => true) Config.initial
      (Sample.answeredOnce status) = some c ∧ Sample.settlesReference status c = true ∧
      ∃ c', (orchestrator Sample.settings).next c (.run 0 (Sample.input 3 0 .crashed)) = some c' ∧
        ∃ settled, c'.state.db.requests.get 200 = some settled ∧ settled.providerReference = none) :
    Sample.DropsReference status := by
  obtain ⟨c, reach, settles, c', next, after⟩ := reachable_replay Sample.settings _ _ replay
  exact ⟨c, c', reach, Sample.settlesReference_iff settles, next, after⟩

/-- The provider answers that it cancelled the operation, or something that the
adapter cannot interpret, and the reference it gave is gone. -/
theorem reference_dropped : Sample.DropsReference .cancelled ∧ Sample.DropsReference .unknown :=
  ⟨Sample.dropsReference_of_replay (by decide +kernel), Sample.dropsReference_of_replay (by decide +kernel)⟩

end IntegrationOrchestrator
