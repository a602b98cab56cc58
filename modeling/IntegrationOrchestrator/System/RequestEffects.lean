import IntegrationOrchestrator.System.Program

namespace IntegrationOrchestrator

open IntegrationRequest RequestDispatcher

variable {settings : Settings} {input : Input} {s s' : State} {q q' : IntegrationRequest}
  {caller : Caller} {pushed : List Frame} {requestId : UUID}

/-- Nothing but audit rows changed. -/
structure State.Quiet (s s' : State) : Prop where
  executions : s'.db.executions = s.db.executions
  requests : s'.db.requests = s.db.requests
  history : s'.history = s.history

/-- The row `q` was replaced by `q'`; no execution was touched. -/
structure State.Wrote (s s' : State) (q q' : IntegrationRequest) : Prop where
  stored : s.db.requests.get q.id = some q
  id : q'.id = q.id
  executions : s'.db.executions = s.db.executions
  requests : s'.db.requests = s.db.requests.put q'

theorem State.Wrote.get (wrote : s.Wrote s' q q') (other : UUID) :
    s'.db.requests.get other = if other = q.id then some q' else s.db.requests.get other := by
  rw [wrote.requests, Table.get_put, wrote.id]

theorem State.request_ok (run : s.request requestId = .ok q) :
    s.db.requests.get requestId = some q ∧ q.id = requestId := by
  unfold State.request at run
  split at run
  · rename_i found
    cases run
    exact ⟨found, Table.get_key found⟩
  · cases run

theorem State.request_stored (run : s.request requestId = .ok q) : s.db.requests.get q.id = some q := by
  obtain ⟨stored, rfl⟩ := State.request_ok run
  exact stored

theorem State.execution_ok {executionId : UUID} {missing : Exn} {e : WorkflowExecution}
    (run : s.execution executionId missing = .ok e) :
    s.db.executions.get executionId = some e ∧ e.id = executionId := by
  unfold State.execution at run
  split at run
  · rename_i found
    cases run
    exact ⟨found, Table.get_key found⟩
  · cases run

theorem State.savedExecution_get {executionId : UUID} {e : WorkflowExecution} {records : List WorkflowRecord}
    (id : e.id = executionId) : (s.savedExecution e records).db.executions.get executionId = some e := by
  rw [← id]
  exact Table.get_put_self _ _

theorem State.savedRequest_ok {records : List RequestRecord} (run : s.savedRequest q' records = .ok s')
    (stored : s.db.requests.get q.id = some q) (id : q'.id = q.id) :
    s.Wrote s' q q' ∧ s'.history = s.history := by
  obtain ⟨db, updated, done⟩ := Rows.bind_eq_ok.mp run
  cases done
  rw [Database.updateRequest_ok updated]
  exact ⟨⟨stored, id, rfl, rfl⟩, rfl⟩

namespace Frame

theorem execDispatch_ok (run : execDispatch requestId caller input s = .ok (s', pushed)) :
    ∃ q q', s.Wrote s' q q' ∧ s'.history = s.history ∧ q.id = requestId ∧
      (q.status = .received ∨ canTransition q.status .dispatching = true) ∧ q'.status = .dispatching ∧
      q'.provider = q.provider ∧ q'.attemptCount = q.attemptCount + 1 ∧ pushed = [.callProvider q' caller] := by
  obtain ⟨q, found, run⟩ := Rows.bind_eq_ok.mp run
  obtain ⟨stored, id⟩ := State.request_ok found
  obtain ⟨⟨q', records⟩, claimed, run⟩ := Rows.bind_eq_ok.mp run
  obtain ⟨saved, wrote, done⟩ := Rows.bind_eq_ok.mp run
  cases done
  obtain ⟨allowed, status, sameId, provider, attempts⟩ := claim_ok claimed
  obtain ⟨wrote, history⟩ := State.savedRequest_ok wrote (id.symm ▸ stored) sameId
  exact ⟨q, q', wrote, history, id, allowed, status, provider, attempts, rfl⟩

theorem execClaimRetry_ok (run : execClaimRetry requestId input s = .ok (s', pushed)) :
    (s' = s ∧ pushed = []) ∨
    ∃ q q', s.Wrote s' q q' ∧ s'.history = s.history ∧ q.id = requestId ∧ q.status = .retryScheduled ∧
      q'.status = .dispatching ∧ q'.provider = q.provider ∧ q'.attemptCount = q.attemptCount + 1 ∧
      pushed = [.callProvider q' .retryWorker] := by
  unfold execClaimRetry at run
  split at run
  · cases run
    exact Or.inl ⟨rfl, rfl⟩
  · rename_i q stored
    have id := Table.get_key stored
    split at run
    · rename_i due
      obtain ⟨⟨q', records⟩, claimed, run⟩ := Rows.bind_eq_ok.mp run
      obtain ⟨saved, wrote, done⟩ := Rows.bind_eq_ok.mp run
      cases done
      obtain ⟨_, status, sameId, provider, attempts⟩ := claimForDispatch_ok claimed
      obtain ⟨wrote, history⟩ := State.savedRequest_ok wrote (id.symm ▸ stored) sameId
      simp only [isDueForRetry, Bool.and_eq_true, decide_eq_true_eq] at due
      exact Or.inr ⟨q, q', wrote, history, id, due.1, status, provider, attempts, rfl⟩
    · cases run
      exact Or.inl ⟨rfl, rfl⟩

/-- A provider call changes no row: it records what the provider did, and
goes on to settle the answer or raises. -/
theorem execCallProvider_ok (run : execCallProvider settings q caller input s = .ok (s', pushed)) :
    ∃ descriptor, settings.descriptor q.provider = some descriptor ∧ s' = { s with history := s.history ++
        [.performed q.id (createOperation descriptor input.weather).performed] } ∧
      ((∃ e, pushed = [.raise e]) ∨ ∃ result, pushed = [.settleAttempt q result caller] ∧
        providerAnswer (createOperation descriptor input.weather).result = .ok result) := by
  unfold execCallProvider at run
  split at run
  · cases run
  · rename_i descriptor known
    dsimp only at run
    split at run <;> cases run
    · rename_i result answered
      exact ⟨descriptor, known, rfl, Or.inr ⟨result, rfl, answered⟩⟩
    · exact ⟨descriptor, known, rfl, Or.inl ⟨_, rfl⟩⟩

theorem mem_afterAttempt {settled : IntegrationRequest} {frame : Frame}
    (member : frame ∈ afterAttempt requestId settled caller) :
    frame = .onRequestTerminal settled.id ∨ frame = .hookGuard ∨
    (∃ executionId stepId, caller = .forward executionId stepId ∧
      frame = .settleForward executionId stepId requestId settled) ∨
    (∃ executionId stepId, caller = .compensation executionId stepId ∧
      frame = .settleCompensation executionId stepId requestId settled) := by
  have hook : frame ∈ afterAttempt.hook settled → frame = .onRequestTerminal settled.id ∨ frame = .hookGuard := by
    unfold afterAttempt.hook
    split <;> simp
  cases caller <;> simp only [afterAttempt, List.mem_append, List.mem_singleton, List.not_mem_nil] at member <;> grind

/-- Everything the settle transaction of an attempt does to the tables. -/
theorem execSettleAttempt_ok {result : ProviderOperationResult}
    (run : execSettleAttempt settings q result caller input s = .ok (s', pushed)) :
    ∃ current settled, s.db.requests.get q.id = some current ∧ current.id = q.id ∧ settled.id = q.id ∧
      pushed = afterAttempt q.id settled caller ∧ s'.history = s.history ∧
      (s.Quiet s' ∨ s.Wrote s' current settled) ∧
      ((current.status ≠ .dispatching ∧ Kept current settled) ∨
        (current.status = .dispatching ∧ s.Wrote s' current settled ∧
          ∃ target ∈ settledStatuses, Moved current settled target ∧
            (target = .retryScheduled → result.accepted = false ∧
              (settings.retryPolicy current.provider).shouldRetry current.attemptCount
                (result.error.getD missingError).retryable = true))) := by
  obtain ⟨current, found, run⟩ := Rows.bind_eq_ok.mp run
  obtain ⟨stored, id⟩ := State.request_ok found
  obtain ⟨⟨settled, records⟩, outcome, run⟩ := Rows.bind_eq_ok.mp run
  obtain ⟨saved, wrote, done⟩ := Rows.bind_eq_ok.mp run
  cases done
  have cases := settle_cases outcome
  have sameId : settled.id = current.id := by
    rcases cases with ⟨_, kept⟩ | ⟨_, _, _, moved, _⟩
    · exact kept.id
    · exact moved.id
  unfold savedSettlement at wrote
  split at wrote
  · obtain ⟨wrote, history⟩ := State.savedRequest_ok wrote (id.symm ▸ stored) sameId
    exact ⟨current, settled, stored, id, sameId.trans id, rfl, history, Or.inr wrote,
      cases.imp_right fun ⟨status, moved⟩ => ⟨status, wrote, moved⟩⟩
  · rename_i silent
    cases wrote
    refine ⟨current, settled, stored, id, sameId.trans id, rfl, rfl, Or.inl ⟨rfl, rfl, rfl⟩, Or.inl ?_⟩
    rcases cases with kept | ⟨status, _⟩
    · exact kept
    · simp [settleWrites, status] at silent

theorem execRetryRequest_ok {actor : Actor} (run : execRetryRequest requestId actor input s = .ok (s', pushed)) :
    ∃ q q', s.Wrote s' q q' ∧ q.id = requestId ∧ Moved q q' .retryScheduled ∧ pushed = [] ∧
      s'.history = s.history ++ [.retryRequested requestId] := by
  obtain ⟨q, found, run⟩ := Rows.bind_eq_ok.mp run
  obtain ⟨stored, id⟩ := State.request_ok found
  split at run
  · cases run
  · obtain ⟨⟨q', records⟩, moved, run⟩ := Rows.bind_eq_ok.mp run
    obtain ⟨saved, wrote, done⟩ := Rows.bind_eq_ok.mp run
    cases done
    obtain ⟨_, called⟩ := recorded_ok moved
    have moved : Moved q q' .retryScheduled := moved_of_transitionThen called fun _ => ⟨rfl, rfl, rfl, rfl⟩
    obtain ⟨wrote, history⟩ := State.savedRequest_ok wrote (id.symm ▸ stored) moved.id
    exact ⟨q, q', ⟨wrote.stored, wrote.id, wrote.executions, wrote.requests⟩, id, moved, rfl,
      by simp only [history]⟩

theorem execCreateRequest_ok {command : CreateCommand}
    (run : execCreateRequest settings command input s = .ok (s', pushed)) :
    ∃ q, s.db.requests.get q.id = none ∧ q.status = .received ∧ q.attemptCount = 0 ∧
      s'.db.executions = s.db.executions ∧ s'.db.requests = s.db.requests.put q ∧
      s'.history = s.history ∧ pushed = [.dispatch q.id (.api command.actor)] := by
  unfold execCreateRequest at run
  split at run
  · cases run
  · split at run
    · cases run
    · obtain ⟨db, added, done⟩ := Rows.bind_eq_ok.mp run
      cases done
      obtain ⟨fresh, rfl⟩ := Database.addRequest_ok added
      exact ⟨_, fresh, rfl, rfl, rfl, rfl, rfl, rfl⟩

end Frame

end IntegrationOrchestrator
