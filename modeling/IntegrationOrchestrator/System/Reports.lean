import IntegrationOrchestrator.System.RequestEffects

namespace IntegrationOrchestrator

open IntegrationRequest RequestDispatcher

/-- The frame carries out an operator's retry or cancellation of the request. -/
def Frame.commands (requestId : UUID) : Frame → Bool
  | .retryRequest other _ | .cancelRequest other _ _ | .settleCancellation other _ _ _ _ => other = requestId
  | _ => false

/-- Everything a committed frame that carries a report does. -/
inductive ReportStep (input : Input) (s : State) : Frame → State → List Frame → Prop
  | rests {frame} : ReportStep input s frame s []
  | asks {requestId reference reason actor result} : ReportStep input s (.cancelRequest requestId reason actor) s
      [.settleCancellation requestId reference reason actor result]
  | finds {requestId q} : s.db.requests.get requestId = some q → q.status ∈ reconcilableStatuses →
      ReportStep input s (.findStale requestId) s [.reconcile q]
  | applies {q result} : ReportStep input s (.reconcile q) s [.applyProviderState q result]
  | escalates {q reason} : ReportStep input s (.reconcile q) s [.escalateRequest q reason]
  | hooks {e : WorkflowExecution} {q : IntegrationRequest} : s.db.executions.get e.id = some e →
      s.db.requests.get q.id = some q → q.status ∈ WorkflowOrchestrator.terminalRequests →
      (∃ step ∈ e.steps, Database.linksRequest q.id step = true) →
      ReportStep input s (.onRequestTerminal q.id) s [.settleTerminal e.id q]
  | noted {frame q action actor pushed} : (∀ next ∈ pushed, ∃ e, next = .raise e) →
      ReportStep input s frame (s.recorded [actionRecord q action actor input.readings.recordedAt]) pushed
  | cancelled {frame q q' reason actor rows s'} : frame.commands q.id = true → s.db.requests.get q.id = some q →
      recorded q (markCancelled input.readings.now reason) .requestCancelled actor true = .ok (q', rows) →
      s.savedRequest q' rows = .ok s' → ReportStep input s frame s' []
  | escalated {request q q' reason rows s'} : request.id = q.id → s.db.requests.get q.id = some q →
      q.status ≠ .manualReview → escalate q reason Frame.reconciliationActor input.readings.now = .ok (q', rows) →
      s.savedRequest q' rows = .ok s' → ReportStep input s (.escalateRequest request reason) s' []
  | polled {request result q q' made s'} : request.id = q.id → s.db.requests.get q.id = some q →
      Mutator.call (applyNormalizedStatus result.normalizedStatus input.readings.now result.providerReference
        (result.error.map ProviderErrorInfo.toFailureDetail)) q = .ok (some made, q') →
      s.savedRequest q' [transitionRecord q' made .stateReconciled Frame.reconciliationActor true] = .ok s' →
      ReportStep input s (.applyProviderState request result) s' []
  | delivered {event q q' made s'} : truthy event.providerReference = true →
      s.db.requestByProviderReference event.provider (event.providerReference.getD "") = some q →
      Mutator.call (applyNormalizedStatus event.normalizedStatus input.readings.now event.providerReference
        (event.error.map ProviderErrorInfo.toFailureDetail)) q = .ok (some made, q') →
      s.savedRequest q' [transitionRecord q' made .webhookApplied { type := .webhook } true] = .ok s' →
      ReportStep input s (.processWebhook event) s' [.onRequestTerminal q.id, .hookGuard]

namespace Frame

variable {settings : Settings} {input : Input} {s s' : State} {q q' : IntegrationRequest} {frame : Frame}
  {pushed : List Frame} {requestId : UUID}

/-- The statuses a report from outside can move a request to: neither starts
an attempt nor schedules one. -/
def reportedStatuses : List RequestStatus := [.pending, .succeeded, .failed, .cancelled, .manualReview]

/-- The frames that carry what providers, operators and the reconciliation
report about requests. -/
def isReport : Frame → Bool
  | .cancelRequest _ _ _ | .settleCancellation _ _ _ _ _ | .findStale _ | .reconcile _
  | .applyProviderState _ _ | .escalateRequest _ _ | .processWebhook _ | .onRequestTerminal _
  | .hookGuard | .raise _ => true
  | _ => false

/-- What a report does: at most one row makes one status change. -/
def Reported (s s' : State) : Prop :=
  s.Quiet s' ∨ ∃ q q' target, s.Wrote s' q q' ∧ s'.history = s.history ∧
    target ∈ reportedStatuses ∧ Moved q q' target

theorem Reported.saved {records : List RequestRecord} {target : RequestStatus}
    (run : s.savedRequest q' records = .ok s') (stored : s.db.requests.get q.id = some q)
    (moved : Moved q q' target) (reported : target ∈ reportedStatuses) : Reported s s' := by
  obtain ⟨wrote, history⟩ := State.savedRequest_ok run stored moved.id
  exact Or.inr ⟨q, q', target, wrote, history, reported, moved⟩

theorem projected_reported {status : NormalizedStatus} {target : RequestStatus}
    (projected : projectNormalizedStatus status = some target) : target ∈ reportedStatuses := by
  cases status <;> simp [projectNormalizedStatus] at projected <;> subst projected <;> simp [reportedStatuses]

theorem execOnRequestTerminal_ok (run : execOnRequestTerminal requestId s = .ok (s', pushed)) :
    s' = s ∧ (pushed = [] ∨ ∃ e q, pushed = [.settleTerminal e.id q] ∧ q.id = requestId ∧
      s.db.executions.get e.id = some e ∧ s.db.requests.get q.id = some q ∧
      q.status ∈ WorkflowOrchestrator.terminalRequests ∧
      ∃ step ∈ e.steps, Database.linksRequest requestId step = true) := by
  obtain ⟨found, looked, run⟩ := Rows.bind_eq_ok.mp run
  cases found with
  | none =>
    cases run
    exact ⟨rfl, Or.inl rfl⟩
  | some e =>
    obtain ⟨here, linked⟩ := Database.executionByRequestId_some looked
    dsimp only at run
    split at run
    · cases run
      exact ⟨rfl, Or.inl rfl⟩
    · rename_i q stored
      have id := Table.get_key stored
      split at run
      · rename_i terminal
        cases run
        exact ⟨rfl, Or.inr ⟨e, q, rfl, id, here, id.symm ▸ stored, terminal, linked⟩⟩
      · cases run
        exact ⟨rfl, Or.inl rfl⟩

theorem execCancelRequest_step {reason : Option String} {actor : Actor}
    (run : execCancelRequest settings requestId reason actor input s = .ok (s', pushed)) :
    ReportStep input s (.cancelRequest requestId reason actor) s' pushed := by
  obtain ⟨q, found, body⟩ := Rows.bind_eq_ok.mp run
  obtain ⟨stored, rfl⟩ := State.request_ok found
  split at body
  · cases body
  · split at body
    · cases body
    · split at body
      · cases body
      · split at body
        · obtain ⟨⟨q', records⟩, moved, body⟩ := Rows.bind_eq_ok.mp body
          obtain ⟨saved, wrote, done⟩ := Rows.bind_eq_ok.mp body
          cases done
          exact .cancelled (by simp [commands]) stored moved wrote
        · obtain ⟨result, _, done⟩ := Rows.bind_eq_ok.mp body
          cases done
          exact .asks

theorem execSettleCancellation_step {reference reason : Option String} {actor : Actor} {result : ProviderOperationResult}
    (run : execSettleCancellation requestId reason actor result input s = .ok (s', pushed)) :
    ReportStep input s (.settleCancellation requestId reference reason actor result) s' pushed := by
  obtain ⟨q, found, body⟩ := Rows.bind_eq_ok.mp run
  obtain ⟨stored, rfl⟩ := State.request_ok found
  split at body
  · cases body
    exact .noted (by simp)
  · split at body
    · obtain ⟨⟨q', records⟩, moved, body⟩ := Rows.bind_eq_ok.mp body
      obtain ⟨saved, wrote, done⟩ := Rows.bind_eq_ok.mp body
      cases done
      exact .cancelled (by simp [commands]) stored moved wrote
    · cases body
      exact .noted (by simp)

theorem execReconcile_state (run : execReconcile settings q input s = .ok (s', pushed)) : s' = s := by
  unfold execReconcile at run
  repeat' split at run
  all_goals cases run
  all_goals rfl

theorem escalateIfOld_step (now : Instant) (reason : String) :
    ReportStep input s (.reconcile q) s (escalateIfOld settings q now reason) := by
  unfold escalateIfOld
  split
  · exact .rests
  · exact .escalates

theorem execReconcile_step (run : execReconcile settings q input s = .ok (s', pushed)) :
    ReportStep input s (.reconcile q) s' pushed := by
  unfold execReconcile at run
  split at run
  · cases run
    exact escalateIfOld_step _ _
  · split at run
    · cases run
    · split at run
      · cases run
        exact escalateIfOld_step _ _
      · split at run
        · split at run <;> cases run
          · exact .escalates
          · exact .applies
        · cases run
          exact .escalates
        · cases run
          exact escalateIfOld_step _ _
        · cases run
          exact .rests
        · cases run

/-- What a report frame does is one of the steps above. -/
theorem reportStep (report : frame.isReport = true) (run : frame.exec settings input s = .ok (s', pushed)) :
    ReportStep input s frame s' pushed := by
  cases frame <;> try cases report
  case cancelRequest => exact execCancelRequest_step run
  case settleCancellation => exact execSettleCancellation_step run
  case findStale requestId =>
    simp only [exec, execFindStale] at run
    split at run
    · cases run
      exact .rests
    · rename_i stored
      split at run <;> cases run
      · rename_i stale
        rw [Bool.and_eq_true, decide_eq_true_eq] at stale
        exact .finds stored stale.1
      · exact .rests
  case reconcile => exact execReconcile_step run
  case applyProviderState request result =>
    obtain ⟨q, found, run⟩ := Rows.bind_eq_ok.mp run
    obtain ⟨stored, id⟩ := State.request_ok found
    obtain ⟨⟨made, q'⟩, applied, run⟩ := Rows.bind_eq_ok.mp run
    cases made with
    | none =>
      cases run
      exact .noted (by simp)
    | some made =>
      obtain ⟨saved, wrote, done⟩ := Rows.bind_eq_ok.mp run
      cases done
      exact .polled id.symm (id.symm ▸ stored) applied wrote
  case escalateRequest request reason =>
    obtain ⟨q, found, run⟩ := Rows.bind_eq_ok.mp run
    obtain ⟨stored, id⟩ := State.request_ok found
    split at run
    · cases run
      exact .rests
    · rename_i open'
      obtain ⟨⟨q', records⟩, moved, run⟩ := Rows.bind_eq_ok.mp run
      obtain ⟨saved, wrote, done⟩ := Rows.bind_eq_ok.mp run
      cases done
      exact .escalated id.symm (id.symm ▸ stored) (fun review => by simp [review] at open') moved wrote
  case processWebhook event =>
    simp only [exec, execProcessWebhook] at run
    split at run
    · cases run
      exact .rests
    · rename_i named
      split at run
      · cases run
        exact .rests
      · rename_i found
        obtain ⟨⟨made, q'⟩, applied, run⟩ := Rows.bind_eq_ok.mp run
        cases made with
        | none =>
          cases run
          exact .noted (by simp)
        | some made =>
          obtain ⟨saved, wrote, done⟩ := Rows.bind_eq_ok.mp run
          cases done
          exact .delivered (not_not.mp named) found applied wrote
  case onRequestTerminal =>
    obtain ⟨rfl, rfl | ⟨e, q, rfl, rfl, here, stored, terminal, linked⟩⟩ := execOnRequestTerminal_ok run
    · exact .rests
    · exact .hooks here stored terminal linked
  case hookGuard =>
    cases run
    exact .rests
  case raise => cases run

/-- Reports only write request rows, and lead to further reports or to the
locked transaction of the terminal hook. -/
theorem exec_report (report : frame.isReport = true) (run : frame.exec settings input s = .ok (s', pushed)) :
    Reported s s' ∧ ∀ next ∈ pushed, next.isReport = true ∨ ∃ executionId q,
      next = .settleTerminal executionId q ∧ s.db.requests.get q.id = some q := by
  cases reportStep report run with
  | rests | asks | finds | applies | escalates => exact ⟨Or.inl ⟨rfl, rfl, rfl⟩, by simp [isReport]⟩
  | hooks _ stored =>
    refine ⟨Or.inl ⟨rfl, rfl, rfl⟩, fun next member => Or.inr ?_⟩
    exact ⟨_, _, List.mem_singleton.mp member, stored⟩
  | noted raises =>
    refine ⟨Or.inl ⟨rfl, rfl, rfl⟩, fun next member => Or.inl ?_⟩
    obtain ⟨e, rfl⟩ := raises next member
    rfl
  | cancelled _ stored moved saved =>
    obtain ⟨_, called⟩ := recorded_ok moved
    have moved := moved_of_transitionThen called fun _ => ⟨rfl, rfl, rfl, rfl⟩
    exact ⟨.saved saved stored moved (by simp [reportedStatuses]), by simp⟩
  | escalated _ stored _ moved saved =>
    exact ⟨.saved saved stored (escalate_moved moved) (by simp [reportedStatuses]), by simp⟩
  | polled _ stored applied saved =>
    obtain ⟨target, projected, moved⟩ := moved_of_applyNormalizedStatus applied
    exact ⟨.saved saved stored moved (projected_reported projected), by simp⟩
  | delivered _ found applied saved =>
    obtain ⟨target, projected, moved⟩ := moved_of_applyNormalizedStatus applied
    have stored := Database.requestByProviderReference_some found
    exact ⟨.saved saved stored moved (projected_reported projected), by simp [isReport]⟩

end Frame

end IntegrationOrchestrator
