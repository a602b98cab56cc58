import IntegrationOrchestrator.Saga.Legality
import IntegrationOrchestrator.Saga.Links

namespace IntegrationOrchestrator

open WorkflowExecution WorkflowOrchestrator Exceptions

variable {settings : Settings} {input : Input} {s s' : State} {frame : Frame} {pushed rest : List Frame}
  {executionId stepId requestId : UUID} {e : WorkflowExecution} {step : WorkflowStepExecution} {c : Config}

/-! ### What the frames of a call rely on -/

namespace State

/-- The step runs and is linked to this forward request. -/
def Working (s : State) (executionId stepId requestId : UUID) : Prop :=
  ∃ e step, s.db.executions.get executionId = some e ∧ step ∈ e.steps ∧ step.id = stepId ∧
    step.status = .running ∧ step.integrationRequestId = some requestId

/-- The step is being compensated by an execution that unwinds. -/
def Undoing (s : State) (executionId stepId : UUID) : Prop :=
  ∃ e step, s.db.executions.get executionId = some e ∧ step ∈ e.steps ∧ step.id = stepId ∧
    step.status = .compensating ∧ e.status = .compensating

/-- The step has failed or was cancelled. -/
def Closed (s : State) (executionId stepId : UUID) : Prop :=
  ∃ e step, s.db.executions.get executionId = some e ∧ step ∈ e.steps ∧ step.id = stepId ∧
    step.status ∈ [WorkflowStepStatus.failed, .cancelled]

/-- A request row in this status. -/
def HasRequest (s : State) (requestId : UUID) (status : RequestStatus) : Prop :=
  ∃ q, s.db.requests.get requestId = some q ∧ q.status = status

end State

/-- The step for which a caller dispatches a request. -/
def Caller.Awaits (s : State) (requestId : UUID) : Caller → Prop
  | .forward executionId stepId => s.Working executionId stepId requestId
  | .compensation executionId stepId => s.Undoing executionId stepId
  | _ => False

namespace Frame

/-- What a frame that waits below others relies on, whatever they do. -/
def Lasting (s : State) : Frame → Prop
  | .advance _ | .advanceFinish _ | .runForwardStep _ _ | .continueCompensation _ | .hookGuard => True
  | .settleForward executionId stepId _ dispatched =>
    dispatched.status ≠ .succeeded ∧ s.Closed executionId stepId
  | _ => False

/-- What a frame that runs next relies on. -/
def Prepared (s : State) : Frame → Prop
  | .advance _ | .advanceFinish _ | .runForwardStep _ _ | .continueCompensation _ | .hookGuard => True
  | .enforceDeadline executionId => ∃ e, s.db.executions.get executionId = some e ∧ e.status ∈ forwardPhase
  | .compensateStep executionId stepId => s.Undoing executionId stepId
  | .dispatch requestId caller => s.HasRequest requestId .received ∧ caller.Awaits s requestId
  | .callProvider q caller => s.HasRequest q.id .dispatching ∧ caller.Awaits s q.id
  | .settleAttempt q _ caller => s.HasRequest q.id .dispatching ∧ caller.Awaits s q.id
  | .settleForward executionId stepId requestId dispatched => dispatched.status ≠ .succeeded ∧
    (s.Working executionId stepId requestId ∨ s.Closed executionId stepId)
  | .settleCompensation executionId stepId _ dispatched => dispatched.status = .pending ∨
    (dispatched.status = .retryScheduled ∧ s.Undoing executionId stepId)
  | .raise raised => raised.isInvalidStateTransition = false
  | _ => False

theorem Lasting.prepared (lasting : frame.Lasting s) : frame.Prepared s := by
  cases frame with
  | settleForward => exact ⟨lasting.1, Or.inr lasting.2⟩
  | advance | advanceFinish | runForwardStep | continueCompensation | hookGuard => trivial
  | _ => cases lasting

end Frame

theorem State.legal_execution {missing : Exn} (harmless : missing.isInvalidStateTransition = false) :
    Legal (s.execution executionId missing) := by
  unfold State.execution
  split
  · exact avoids_ok _
  · exact avoids_error harmless

theorem State.legal_request : Legal (s.request requestId) := by
  unfold State.request
  split
  · exact avoids_ok _
  · exact avoids_error rfl

theorem State.legal_savedRequest (s : State) (q : IntegrationRequest) (records : List RequestRecord) :
    Legal (s.savedRequest q records) := by
  refine Avoids.bind ?_ fun _ _ => avoids_ok _
  unfold Database.updateRequest
  split
  · exact avoids_error rfl
  · exact avoids_ok _

theorem State.legal_created (s : State) (role : Role) (stepId : UUID) (e : WorkflowExecution) (q : IntegrationRequest) :
    Legal (s.created role stepId e q) := by
  refine Avoids.bind ?_ fun _ _ => avoids_ok _
  unfold Database.addRequest
  split
  · exact avoids_error rfl
  · exact avoids_ok _

/-- A stored execution with a step in one of these statuses has left the queue. -/
theorem WorkflowExecution.Sound.dequeued {ev : Evidence} (sound : Sound ev e) (member : step ∈ e.steps)
    (status : step.status ∈ [WorkflowStepStatus.running, .failed]) :
    e.status ∉ [WorkflowStatus.created, .queued] := by
  have created := sound.statuses
  have queued := fun same => sound.queued same step member
  rcases List.mem_pair.mp status with here | here <;> simp_all

/-- What the adapters and the guards around them raise is no transition error. -/
theorem legal_guardedAttempts (provider : ProviderSlug) (weather : ProviderWeather) (attempts index : Nat) :
    Legal (guardedAttempts provider weather attempts index).result := by
  induction attempts generalizing index with
  | zero => exact avoids_error rfl
  | succ remaining ih =>
    unfold guardedAttempts
    split
    · exact avoids_error rfl
    · dsimp only
      split
      · split
        · exact avoids_error rfl
        · exact ih (index + 1)
      · unfold AdapterOutcome.toExcept
        split <;> first | exact avoids_ok _ | exact avoids_error rfl

theorem legal_createOperation (descriptor : ProviderDescriptor) (weather : ProviderWeather) :
    Legal (RequestDispatcher.providerAnswer (createOperation descriptor weather).result) := by
  have guarded : Legal (createOperation descriptor weather).result := by
    unfold createOperation guarded
    split
    · exact avoids_error rfl
    · split
      · exact avoids_error rfl
      · exact legal_guardedAttempts _ _ _ _
  unfold RequestDispatcher.providerAnswer
  split
  · exact avoids_ok _
  · exact avoids_ok _
  · exact avoids_ok _
  · exact guarded

namespace Frame

theorem legal (reach : Reachable settings c) (prepared : frame.Prepared c.state) (input : Input) :
    Legal (frame.exec settings input c.state) := by
  have sound := (reachable_good (Restriction.within_any _) reach).1.sound
  cases frame with
  | advance executionId =>
    refine (State.legal_execution rfl).bind fun e here => ?_
    have statuses := (sound _ e (State.execution_ok here).1).statuses
    refine (legal_advance _ _ (by simp_all)).bind fun decision _ => ?_
    cases decision with
    | stop => exact avoids_ok _
    | deadline => exact avoids_ok _
    | commit =>
      dsimp only
      split <;> exact avoids_ok _
  | runForwardStep executionId stepId =>
    refine (State.legal_execution rfl).bind fun e here => ?_
    refine (legal_runForwardStep _ _ _ _ _).bind fun decision _ => ?_
    cases decision with
    | skip => exact avoids_ok _
    | deadline => exact avoids_ok _
    | start => exact (State.legal_created _ _ _ _ _).bind fun _ _ => avoids_ok _
  | advanceFinish executionId =>
    refine (State.legal_execution rfl).bind fun e here => ?_
    have sound := sound _ e (State.execution_ok here).1
    refine (legal_refreshExecutionStatus _ fun step member failed => ?_).bind fun _ _ => avoids_ok _
    exact sound.dequeued member (by simp [failed])
  | enforceDeadline executionId =>
    obtain ⟨e, stored, forward⟩ := prepared
    refine (State.legal_execution rfl).bind fun other here => ?_
    cases stored.symm.trans (State.execution_ok here).1
    refine (legal_enforceDeadline forward _).bind fun outcome _ => ?_
    cases outcome <;> exact avoids_ok _
  | continueCompensation executionId =>
    refine (State.legal_execution rfl).bind fun e here => ?_
    have sound := sound _ e (State.execution_ok here).1
    refine (legal_continueCompensation sound.ids _).bind fun decision _ => ?_
    cases decision <;> exact avoids_ok _
  | compensateStep executionId stepId =>
    obtain ⟨e, step, stored, member, id, compensating, _⟩ := prepared
    refine (State.legal_execution rfl).bind fun other here => ?_
    cases stored.symm.trans (State.execution_ok here).1
    have found := find?_id_eq (sound _ e stored).ids member id
    refine (legal_compensateStep found compensating _ _ _).bind fun decision _ => ?_
    cases decision with
    | done => exact avoids_ok _
    | start => exact (State.legal_created _ _ _ _ _).bind fun _ _ => avoids_ok _
  | settleForward executionId stepId requestId dispatched =>
    obtain ⟨unsuccessful, waits⟩ := prepared
    refine (State.legal_execution rfl).bind fun other here => Avoids.bind ?_ fun _ _ => avoids_ok _
    rcases waits with ⟨e, step, stored, member, id, running, _⟩ | ⟨e, step, stored, member, id, closed⟩
    · cases stored.symm.trans (State.execution_ok here).1
      have sound := sound _ _ stored
      exact legal_settleForward (find?_id_eq sound.ids member id) running (sound.dequeued member (by simp [running])) _ _
    · cases stored.symm.trans (State.execution_ok here).1
      have found := find?_id_eq (sound _ _ stored).ids member id
      rw [settleForward_again found unsuccessful closed (reachable_refreshed reach _ _ stored)]
      exact avoids_ok _
  | settleCompensation executionId stepId requestId dispatched =>
    refine (State.legal_execution rfl).bind fun other here => Avoids.bind ?_ fun _ _ => avoids_ok _
    rcases prepared with pending | ⟨_, e, step, stored, member, id, compensating, unwinding⟩
    · rw [WorkflowOrchestrator.settleCompensation, pending]
      exact avoids_ok _
    · cases stored.symm.trans (State.execution_ok here).1
      exact legal_settleCompensation (find?_id_eq (sound _ _ stored).ids member id) compensating unwinding _ _
  | dispatch requestId caller =>
    obtain ⟨⟨q, stored, received⟩, _⟩ := prepared
    refine State.legal_request.bind fun other here => ?_
    cases stored.symm.trans (State.request_ok here).1
    refine (RequestDispatcher.legal_claim received _ _ _).bind fun _ _ => ?_
    exact (State.legal_savedRequest _ _ _).bind fun _ _ => avoids_ok _
  | callProvider q caller =>
    simp only [exec, execCallProvider]
    split
    · exact avoids_error rfl
    · split <;> exact avoids_ok _
  | settleAttempt q result caller =>
    refine State.legal_request.bind fun current _ => ?_
    refine (RequestDispatcher.legal_settle _ _ _ _ _ _).bind fun _ _ => Avoids.bind ?_ fun _ _ => avoids_ok _
    unfold savedSettlement
    split
    · exact State.legal_savedRequest _ _ _
    · exact avoids_ok _
  | hookGuard => exact avoids_ok _
  | raise raised => exact avoids_error prepared
  | _ => cases prepared

end Frame

theorem legal_onRequestTerminal (requestId : UUID) (s : State) : Legal (Frame.execOnRequestTerminal requestId s) := by
  refine Avoids.bind ?_ fun found _ => ?_
  · unfold Database.executionByRequestId
    split
    · exact avoids_ok _
    · exact avoids_ok _
    · exact avoids_error rfl
  · cases found with
    | none => exact avoids_ok _
    | some e =>
      dsimp only
      split
      · exact avoids_ok _
      · split <;> exact avoids_ok _

theorem legal_settleTerminal (reach : Reachable settings c) {q : IntegrationRequest}
    (working : c.state.Working executionId stepId q.id) (unsuccessful : q.status ≠ .succeeded) (input : Input) :
    Legal (Frame.execSettleTerminal executionId q input c.state) := by
  obtain ⟨e, step, stored, member, id, running, link⟩ := working
  have sound := (reachable_good (Restriction.within_any _) reach).1.sound _ e stored
  have linked : Database.linksRequest q.id step = true := by simp [Database.linksRequest, link]
  have found := find_linked reach stored member linked
  refine (State.legal_execution rfl).bind fun other here => ?_
  cases stored.symm.trans (State.execution_ok here).1
  refine (legal_applyTerminal found running (sound.dequeued member (by simp [running])) unsuccessful _).bind
    fun outcome _ => ?_
  cases outcome <;> exact avoids_ok _

/-! ### The stack of a call -/

/-- The frames of a call, as each unit of work finds them: at most the frames
of one dispatch above frames that wait. -/
inductive Calm (s : State) : List Frame → Prop
  | ended : Calm s []
  | prepared {frame : Frame} {rest : List Frame} : frame.Prepared s → (∀ next ∈ rest, next.Lasting s) →
      Calm s (frame :: rest)
  | guarded {settle : Frame} {rest : List Frame} : settle.Prepared s → (∀ next ∈ rest, next.Lasting s) →
      Calm s (.hookGuard :: settle :: rest)
  | noticed {executionId stepId requestId : UUID} {q dispatched : IntegrationRequest} {rest : List Frame} :
      s.Working executionId stepId requestId → s.db.requests.get requestId = some q → q.status ≠ .succeeded →
      dispatched.status ≠ .succeeded → (∀ next ∈ rest, next.Lasting s) →
      Calm s (.onRequestTerminal requestId :: .hookGuard ::
        .settleForward executionId stepId requestId dispatched :: rest)
  | settling {executionId stepId : UUID} {q dispatched : IntegrationRequest} {rest : List Frame} :
      s.Working executionId stepId q.id → q.status ∈ terminalRequests → q.status ≠ .succeeded →
      dispatched.status ≠ .succeeded → (∀ next ∈ rest, next.Lasting s) →
      Calm s (.settleTerminal executionId q :: .hookGuard ::
        .settleForward executionId stepId q.id dispatched :: rest)
  | pending {executionId stepId requestId : UUID} {dispatched : IntegrationRequest} {rest : List Frame} :
      s.HasRequest requestId .pending → dispatched.status = .pending → (∀ next ∈ rest, next.Lasting s) →
      Calm s (.onRequestTerminal requestId :: .hookGuard ::
        .settleCompensation executionId stepId requestId dispatched :: rest)

theorem calm_of_lasting {frames : List Frame} (lasting : ∀ frame ∈ frames, frame.Lasting s) : Calm s frames := by
  cases frames with
  | nil => exact .ended
  | cons frame rest =>
    exact .prepared (lasting frame (List.mem_cons_self ..)).prepared
      fun next member => lasting next (List.mem_cons_of_mem _ member)

/-- No unit of work of a calm call asks for an illegal transition. -/
theorem Calm.legal (calm : Calm c.state (frame :: rest)) (reach : Reachable settings c) (input : Input) :
    Legal (frame.exec settings input c.state) := by
  cases calm with
  | prepared ready => exact Frame.legal reach ready input
  | guarded => exact avoids_ok _
  | noticed => exact legal_onRequestTerminal _ _
  | settling working terminal unsuccessful => exact legal_settleTerminal reach working unsuccessful input
  | pending => exact legal_onRequestTerminal _ _

/-- An exception leaves a calm call calm. -/
theorem Calm.unwind (calm : Calm c.state (frame :: rest)) {raised : Exn}
    (run : frame.exec settings input c.state = .error raised) :
    Calm c.state ((orchestrator settings).unwind rest) := by
  have guard : (orchestrator settings).catches .hookGuard = true := rfl
  cases calm with
  | prepared ready lasting =>
    exact calm_of_lasting fun next member => lasting next ((TaskPool.unwind_sublist _ rest).subset member)
  | guarded => cases run
  | noticed working stored unsuccessful outcome lasting =>
    rw [TaskPool.Program.unwind, if_pos guard]
    exact .prepared ⟨outcome, Or.inl working⟩ lasting
  | settling working terminal unsuccessful outcome lasting =>
    rw [TaskPool.Program.unwind, if_pos guard]
    exact .prepared ⟨outcome, Or.inl working⟩ lasting
  | pending stored outcome lasting =>
    rw [TaskPool.Program.unwind, if_pos guard]
    exact .prepared (Or.inl outcome) lasting

/-! ### One unit of work -/

theorem WorkflowExecution.StepChange.closed_status {ev : Evidence} {licence : Licence} {now : Instant}
    {step' : WorkflowStepExecution} (change : StepChange ev licence now e step step')
    (closed : step.status ∈ [WorkflowStepStatus.failed, .cancelled]) : step'.status = step.status := by
  rcases List.mem_pair.mp closed with status | status <;> cases change <;> simp_all

theorem Effect.closed {licence : Licence} {now : Instant} (effect : Effect licence now frame s s' pushed)
    (closed : s.Closed executionId stepId) : s'.Closed executionId stepId := by
  obtain ⟨e, step, stored, member, id, status⟩ := closed
  obtain ⟨e', after, moves⟩ := effect.stored stored
  obtain ⟨step', inside, sameId, kept⟩ := Rows.forall₂_mem_left (moves.steps
    (R := fun old new => new.id = old.id ∧
      (old.status ∈ [WorkflowStepStatus.failed, .cancelled] → new.status = old.status))
    (fun _ => ⟨rfl, fun _ => rfl⟩)
    (fun _ _ _ first second => ⟨second.1.trans first.1, fun closed =>
      (second.2 (first.2 closed ▸ closed)).trans (first.2 closed)⟩)
    fun _ _ _ change => ⟨change.same.id, change.closed_status⟩) member
  exact ⟨e', step', after, inside, sameId.trans id, kept status ▸ status⟩

theorem Frame.Lasting.keep {licence : Licence} {now : Instant} {other : Frame}
    (effect : Effect licence now frame s s' pushed) (lasting : other.Lasting s) : other.Lasting s' := by
  cases other with
  | settleForward => exact ⟨lasting.1, effect.closed lasting.2⟩
  | advance | advanceFinish | runForwardStep | continueCompensation | hookGuard => trivial
  | _ => cases lasting

theorem Caller.Awaits.keep {caller : Caller} (awaits : caller.Awaits s requestId)
    (executions : s'.db.executions = s.db.executions) : caller.Awaits s' requestId := by
  cases caller with
  | forward => simpa only [Caller.Awaits, State.Working, executions] using awaits
  | compensation => simpa only [Caller.Awaits, State.Undoing, executions] using awaits
  | _ => cases awaits

/-- What a frame of a call leaves to do: frames that can wait, or one that
runs next. -/
def Orderly (s : State) (pushed : List Frame) : Prop :=
  (∀ next ∈ pushed, next.Lasting s) ∨ ∃ next, pushed = [next] ∧ next.Prepared s

theorem Orderly.none : Orderly s [] := Or.inl (by simp)

theorem Orderly.unwinding {p : Prop} [Decidable p] : Orderly s (unwindIf p executionId) := by
  refine Or.inl ?_
  unfold unwindIf
  split <;> simp [Frame.Lasting]

theorem Orderly.calm (orderly : Orderly s pushed) (lasting : ∀ next ∈ rest, next.Lasting s) :
    Calm s (pushed ++ rest) := by
  rcases orderly with each | ⟨next, rfl, prepared⟩
  · refine calm_of_lasting fun next member => ?_
    rcases List.mem_append.mp member with here | below
    · exact each next here
    · exact lasting next below
  · exact .prepared prepared lasting

/-- An execution that is past its deadline, live and not unwinding is in its
forward phase. -/
theorem forward_of_late (reach : Reachable settings c) (stored : c.state.db.executions.get executionId = some e)
    (live : e.status.isTerminal = false) (status : e.status ∉ [WorkflowStatus.compensating, .manualReview]) :
    e.status ∈ forwardPhase := by
  have statuses := ((reachable_good (Restriction.within_any _) reach).1.sound _ e stored).statuses
  have untimed := reachable_timedOut reach stored
  cases here : e.status <;> simp_all [forwardPhase, WorkflowStatus.isTerminal]

/-- A pass that finds the deadline over found the execution in its forward
phase. -/
theorem advance_late (reach : Reachable settings c) (stored : c.state.db.executions.get executionId = some e)
    {requests : UUID → Option IntegrationRequest} {readings : Readings}
    (decided : advance e requests readings = .ok .deadline) : e.status ∈ forwardPhase := by
  unfold advance at decided
  split at decided
  · cases decided
  · rename_i live
    split at decided
    · cases decided
    · split at decided
      · rename_i late
        simp only [Bool.and_eq_true, decide_eq_true_eq] at late
        exact forward_of_late reach stored (by simpa using live) late.2
      · obtain ⟨_, _, decided⟩ := Rows.bind_eq_ok.mp decided
        obtain ⟨_, _, decided⟩ := Rows.bind_eq_ok.mp decided
        obtain ⟨_, _, decided⟩ := Rows.bind_eq_ok.mp decided
        obtain ⟨_, _, decided⟩ := Rows.bind_eq_ok.mp decided
        cases decided

theorem runForwardStep_late (reach : Reachable settings c) (stored : c.state.db.executions.get executionId = some e)
    {minted : UUID} {now : Instant} (decided : runForwardStep e stepId requestId minted now = .ok .deadline) :
    e.status ∈ forwardPhase := by
  obtain ⟨step, _, decided⟩ := Rows.bind_eq_ok.mp decided
  split at decided
  · cases decided
  · split at decided
    · cases decided
    · rename_i live
      simp only [Bool.or_eq_true, decide_eq_true_eq, not_or, Bool.not_eq_true] at live
      have elsewhere : e.status ∉ [WorkflowStatus.compensating, .manualReview] := by simp_all
      exact forward_of_late reach stored live.2 elsewhere

theorem WorkflowStep.orderly (reach : Reachable settings c) (ready : frame.Prepared c.state)
    (step : WorkflowStep input c.state frame s' pushed) : Orderly s' pushed := by
  cases step with
  | known | unknown | inserted | unclaimed | claimed | uncancelled | cancelled | unrelated | applied => cases ready
  | overdue stored decided => exact Or.inr ⟨_, rfl, _, stored, advance_late reach stored decided⟩
  | expired stored decided => exact Or.inr ⟨_, rfl, _, stored, runForwardStep_late reach stored decided⟩
  | advanced =>
    refine Or.inl fun next member => ?_
    simp only [List.mem_append, List.mem_map, List.mem_singleton] at member
    rcases member with ⟨_, _, rfl⟩ | rfl <;> trivial
  | @sent e started stepId q s' stored decided _ created =>
    obtain ⟨step, found, _, _, _, requestId, received, _, swap⟩ := runForwardStep_start decided
    obtain ⟨_, executions, requests, _⟩ := State.created_writes created
    have id : step.id = stepId := by simpa using List.find?_some found
    refine Or.inr ⟨_, rfl, ⟨q, ?_, received⟩, started, step.started (input.newId 0) input.readings.now, ?_, swap.made,
      id, rfl, by rw [requestId]; rfl⟩
    · rw [requests]
      exact Table.get_put_self _ _
    · rw [executions, Table.get_put, if_pos (by rw [swap.rest])]
  | settled | timedOut | compensated => exact .unwinding
  | begun stored decided =>
    obtain ⟨unwinding, step, member, id, _, _, swap⟩ :=
      continueCompensation_begin ((reachable_good (Restriction.within_any _) reach).1.sound _ _ stored).ids decided
    refine Or.inr ⟨_, rfl, _, step.moved .compensating input.readings.now, ?_, swap.made, id, rfl, ?_⟩
    · exact State.savedExecution_get (by rw [swap.rest])
    · rw [swap.rest]
      exact unwinding
  | released => exact Or.inl (by simp [Frame.Lasting])
  | @undone e linked stepId q s' stored decided _ created =>
    obtain ⟨other, step, also, member, id, compensating, unwinding⟩ := ready
    cases stored.symm.trans also
    have sound := (reachable_good (Restriction.within_any _) reach).1.sound _ e stored
    obtain ⟨other, found, _, _, received, _, swap⟩ := compensateStep_start decided
    cases (find?_id_eq sound.ids member id).symm.trans found
    obtain ⟨_, executions, requests, _⟩ := State.created_writes created
    refine Or.inr ⟨_, rfl, ⟨q, ?_, received⟩, linked, _, ?_, swap.made, id, compensating, ?_⟩
    · rw [requests]
      exact Table.get_put_self _ _
    · rw [executions, Table.get_put, if_pos (by rw [swap.rest])]
    · rw [swap.rest]
      exact unwinding
  | _ => exact .none

namespace Frame

theorem execDispatch_orderly {caller : Caller} (awaits : caller.Awaits s requestId)
    (run : execDispatch requestId caller input s = .ok (s', pushed)) : Orderly s' pushed := by
  obtain ⟨q, q', wrote, _, rfl, _, dispatching, _, _, rfl⟩ := execDispatch_ok run
  have awaits' := awaits.keep wrote.executions
  refine Or.inr ⟨_, rfl, ⟨q', ?_, dispatching⟩, ?_⟩
  · rw [wrote.requests]
    exact Table.get_put_self _ _
  · rw [wrote.id]
    exact awaits'

theorem execCallProvider_orderly {q : IntegrationRequest} {caller : Caller} (dispatching : s.HasRequest q.id .dispatching)
    (awaits : caller.Awaits s q.id) (run : execCallProvider settings q caller input s = .ok (s', pushed)) :
    Orderly s' pushed := by
  unfold execCallProvider at run
  split at run
  · cases run
  · rename_i descriptor _
    dsimp only at run
    split at run
    · cases run
      exact Or.inr ⟨_, rfl, dispatching, awaits.keep rfl⟩
    · rename_i raised answered
      cases run
      exact Or.inr ⟨_, rfl, legal_createOperation descriptor input.weather raised answered⟩

end Frame

/-- The outcomes of a dispatch that its caller settles without harm after the
hook: any but a success going forward, none that ends the request while
compensating. -/
def Caller.bears : Caller → RequestStatus → Bool
  | .forward _ _, status => status ≠ .succeeded
  | .compensation _ _, status => status ∈ [.pending, .retryScheduled]
  | _, _ => true

/-- The request as `complete_attempt` is about to leave it. -/
def settledAttempt (settings : Settings) (q : IntegrationRequest) (result : ProviderOperationResult)
    (caller : Caller) (input : Input) (s : State) : RequestDispatcher.Outcome := do
  let current ← s.request q.id
  RequestDispatcher.settle (settings.retryPolicy current.provider) current result caller.actor input.readings.now
    input.jitter

/-- A frame that is not about to settle an attempt with a harmful outcome. -/
def Frame.harmless (settings : Settings) (input : Input) (s : State) : Frame → Bool
  | .settleAttempt q result caller =>
    (settledAttempt settings q result caller input s).toOption.all fun settled => caller.bears settled.1.status
  | _ => true

namespace Frame

theorem execSettleAttempt_settled {q : IntegrationRequest} {result : ProviderOperationResult} {caller : Caller}
    (dispatching : s.HasRequest q.id .dispatching)
    (harmless : (Frame.settleAttempt q result caller).harmless settings input s = true)
    (run : execSettleAttempt settings q result caller input s = .ok (s', pushed)) :
    ∃ settled, pushed = afterAttempt q.id settled caller ∧ settled.id = q.id ∧
      s'.db.executions = s.db.executions ∧ s'.db.requests.get q.id = some settled ∧
      caller.bears settled.status = true := by
  obtain ⟨current, found, run⟩ := Rows.bind_eq_ok.mp run
  obtain ⟨stored, id⟩ := State.request_ok found
  obtain ⟨⟨settled, records⟩, outcome, run⟩ := Rows.bind_eq_ok.mp run
  obtain ⟨saved, wrote, done⟩ := Rows.bind_eq_ok.mp run
  cases done
  obtain ⟨other, here, status⟩ := dispatching
  cases stored.symm.trans here
  have sameId : settled.id = current.id := by
    rcases RequestDispatcher.settle_cases outcome with ⟨_, kept⟩ | ⟨_, _, _, moved, _⟩
    · exact kept.id
    · exact moved.id
  have bears : caller.bears settled.status = true := by
    have ended : settledAttempt settings q result caller input s = .ok (settled, records) :=
      Rows.bind_eq_ok.mpr ⟨current, found, outcome⟩
    simpa [Frame.harmless, ended, Except.toOption] using harmless
  rw [savedSettlement, if_pos (by simp [settleWrites, status])] at wrote
  obtain ⟨wrote, _⟩ := State.savedRequest_ok wrote (id.symm ▸ stored) sameId
  refine ⟨settled, rfl, sameId.trans id, wrote.executions, ?_, bears⟩
  simp [wrote.get, id]

/-- Where the settle transaction of an attempt leaves the call. -/
theorem execSettleAttempt_calm {q : IntegrationRequest} {result : ProviderOperationResult} {caller : Caller}
    (dispatching : s.HasRequest q.id .dispatching) (awaits : caller.Awaits s q.id)
    (harmless : (Frame.settleAttempt q result caller).harmless settings input s = true)
    (run : execSettleAttempt settings q result caller input s = .ok (s', pushed))
    (lasting : ∀ next ∈ rest, next.Lasting s') : Calm s' (pushed ++ rest) := by
  obtain ⟨settled, rfl, id, executions, stored, bears⟩ := execSettleAttempt_settled dispatching harmless run
  have awaits' := awaits.keep executions
  cases caller with
  | forward executionId stepId =>
    have unsuccessful : settled.status ≠ .succeeded := by simpa [Caller.bears] using bears
    simp only [afterAttempt, afterAttempt.hook, id]
    split
    · exact .noticed awaits' stored unsuccessful unsuccessful lasting
    · exact .prepared ⟨unsuccessful, Or.inl awaits'⟩ lasting
  | compensation executionId stepId =>
    have open_ : settled.status = .pending ∨ settled.status = .retryScheduled := by simpa [Caller.bears] using bears
    simp only [afterAttempt, afterAttempt.hook, id]
    rcases open_ with waits | retries
    · rw [if_pos (by simp [RequestDispatcher.notifiesTerminal, waits])]
      exact .pending ⟨settled, stored, waits⟩ waits lasting
    · rw [if_neg (by simp [RequestDispatcher.notifiesTerminal, retries])]
      exact .prepared (Or.inr ⟨retries, awaits'⟩) lasting
  | _ => cases awaits

/-- The hook's transaction ends the step that waits for its request. -/
theorem execSettleTerminal_closes (reach : Reachable settings c) {q : IntegrationRequest}
    (working : c.state.Working executionId stepId q.id) (terminal : q.status ∈ terminalRequests)
    (unsuccessful : q.status ≠ .succeeded)
    (run : execSettleTerminal executionId q input c.state = .ok (s', pushed)) :
    s'.Closed executionId stepId ∧ ∀ next ∈ pushed, next.Lasting s' := by
  obtain ⟨e, step, stored, member, id, running, link⟩ := working
  have linked : Database.linksRequest q.id step = true := by simp [Database.linksRequest, link]
  have found := find_linked reach stored member linked
  obtain ⟨other, here, run⟩ := Rows.bind_eq_ok.mp run
  cases stored.symm.trans (State.execution_ok here).1
  obtain ⟨outcome, applied, run⟩ := Rows.bind_eq_ok.mp run
  unfold applyTerminal at applied
  rw [found] at applied
  obtain ⟨steps, changed, applied⟩ := Rows.bind_eq_ok.mp applied
  obtain ⟨⟨rejected, first⟩, second, applied⟩ := Rows.bind_eq_ok.mp applied
  obtain ⟨⟨refreshed, rows⟩, third, done⟩ := Rows.bind_eq_ok.mp applied
  cases done
  cases run
  have kept : compensationRejected { e with steps := steps } step q input.readings =
      .ok ({ e with steps := steps }, []) := by simp [compensationRejected, running]
  cases second.symm.trans kept
  obtain ⟨ended, inside, ending⟩ := Rows.modifyFirst_mem found changed
  have closed : ended.id = stepId ∧ ended.status ∈ [WorkflowStepStatus.failed, .cancelled] := by
    unfold terminalStep at ending
    rw [if_pos (by simp [running])] at ending
    split at ending
    · rename_i succeeded
      exact absurd succeeded unsuccessful
    · rw [if_neg (by simp [running])] at ending
      rw [(WorkflowStepExecution.perform_markFailed_ok ending).2]
      exact ⟨id, by simp⟩
    · rw [if_neg (by simp [running])] at ending
      rw [(WorkflowStepExecution.perform_markFailed_ok ending).2]
      exact ⟨id, by simp⟩
    · rw [(WorkflowStepExecution.perform_transitionTo_ok ending).2]
      exact ⟨id, by simp⟩
    · simp_all [terminalRequests]
  have sameId : refreshed.id = executionId := by
    have moves : Moves .any .any input.readings.now
        { e with steps := steps } refreshed := refreshExecutionStatus_moves third
    rw [moves.id]
    exact (State.execution_ok here).2
  obtain ⟨after, inside', same | ⟨waits, _⟩⟩ := Rows.forall₂_mem_left (refreshExecutionStatus_steps third) inside
  · refine ⟨⟨refreshed, after, State.savedExecution_get sameId, inside', same ▸ closed.1, same ▸ closed.2⟩, ?_⟩
    intro next pushes
    split at pushes
    · cases List.mem_singleton.mp pushes
      trivial
    · split at pushes
      · cases List.mem_singleton.mp pushes
        trivial
      · cases pushes
  · have status := closed.2
    simp [waits] at status

end Frame

/-- A committed unit of work leaves a calm call calm. -/
theorem Calm.commit {task : Nat} (calm : Calm c.state (frame :: rest)) (reach : Reachable settings c)
    (atTask : c.tasks[task]? = some (frame :: rest)) (harmless : frame.harmless settings input c.state = true)
    (run : frame.exec settings input c.state = .ok (s', pushed)) : Calm s' (pushed ++ rest) := by
  obtain ⟨good, asserts⟩ := reachable_good (Restriction.within_any _) reach
  have top := asserts frame (TaskPool.mem_frames_top atTask)
  have within := Restriction.within_any (fun _ _ => True) c task input frame rest trivial atTask
  have effect := (Frame.effect good top within run).1
  cases calm with
  | prepared ready lasting =>
    have lasting' : ∀ next ∈ rest, next.Lasting s' := fun next member => (lasting next member).keep effect
    by_cases workflow : frame.isWorkflow = true
    · exact ((Frame.workflowStep workflow run).orderly reach ready).calm lasting'
    cases frame with
    | dispatch => exact (Frame.execDispatch_orderly ready.2 run).calm lasting'
    | callProvider => exact (Frame.execCallProvider_orderly ready.1 ready.2 run).calm lasting'
    | settleAttempt => exact Frame.execSettleAttempt_calm ready.1 ready.2 harmless run lasting'
    | hookGuard =>
      cases run
      exact Orderly.none.calm lasting'
    | raise => cases run
    | _ => first | exact absurd rfl workflow | cases ready
  | guarded ready lasting =>
    cases run
    exact .prepared ready lasting
  | @noticed executionId stepId requestId q dispatched _ working stored unsuccessful outcome lasting =>
    -- the hook looks its request up before it locks the execution of the step
    obtain ⟨e, step, here, member, id, running, link⟩ := working
    have linked : Database.linksRequest requestId step = true := by simp [Database.linksRequest, link]
    have looked := executionByRequestId_linked reach here member linked
    simp only [Frame.exec, Frame.execOnRequestTerminal, looked, stored, bind, Except.bind] at run
    have working : c.state.Working executionId stepId requestId := ⟨e, step, here, member, id, running, link⟩
    split at run
    · rename_i terminal
      cases run
      cases Table.get_key stored
      cases Table.get_key here
      exact .settling working terminal unsuccessful outcome lasting
    · cases run
      exact .guarded ⟨outcome, Or.inl working⟩ lasting
  | settling working terminal unsuccessful outcome lasting =>
    obtain ⟨closed, pushes⟩ := Frame.execSettleTerminal_closes reach working terminal unsuccessful run
    refine calm_of_lasting fun next member => ?_
    rcases List.mem_append.mp member with here | below
    · exact pushes next here
    · rcases List.mem_cons.mp below with rfl | below
      · trivial
      · rcases List.mem_cons.mp below with rfl | below
        · exact ⟨outcome, closed⟩
        · exact (lasting next below).keep effect
  | pending stored outcome lasting =>
    obtain ⟨q, stored, waits⟩ := stored
    obtain ⟨found, _, run⟩ := Rows.bind_eq_ok.mp run
    have idle : s' = c.state ∧ pushed = [] := by
      cases found with
      | none =>
        cases run
        exact ⟨rfl, rfl⟩
      | some e =>
        simp only [stored, waits, terminalRequests] at run
        cases run
        exact ⟨rfl, rfl⟩
    obtain ⟨rfl, rfl⟩ := idle
    exact .guarded (Or.inl outcome) lasting

/-! ### Whole calls -/

/-- The hook's transaction has brought the outcome of its dispatch to the step
that this frame settles. -/
def Frame.AlreadyApplied (s : State) : Frame → Prop
  | .settleForward executionId stepId _ _ => ∃ e step, s.db.executions.get executionId = some e ∧
      step ∈ e.steps ∧ step.id = stepId ∧ step.status ≠ .running
  | _ => False

/-- Settling an outcome a second time changes no execution. -/
theorem Calm.settles_again (calm : Calm c.state (frame :: rest)) (reach : Reachable settings c)
    (applied : frame.AlreadyApplied c.state) (run : frame.exec settings input c.state = .ok (s', pushed))
    (other : UUID) : s'.db.executions.get other = c.state.db.executions.get other := by
  have sound := (reachable_good (Restriction.within_any _) reach).1.sound
  cases frame with
  | settleForward executionId stepId requestId dispatched =>
    obtain ⟨e, step, stored, member, id, moved⟩ := applied
    cases calm with
    | prepared ready =>
      obtain ⟨unsuccessful, waits⟩ := ready
      have found := find?_id_eq (sound _ e stored).ids member id
      have closed : step.status ∈ [WorkflowStepStatus.failed, .cancelled] := by
        rcases waits with ⟨e', step', stored', member', id', running, _⟩ | ⟨e', step', stored', member', id', closed⟩
        · cases stored.symm.trans stored'
          cases found.symm.trans (find?_id_eq (sound _ e stored).ids member' id')
          exact absurd running moved
        · cases stored.symm.trans stored'
          cases found.symm.trans (find?_id_eq (sound _ e stored).ids member' id')
          exact closed
      have again := settleForward_again found unsuccessful closed (reachable_refreshed reach _ _ stored) requestId
        input.readings
      obtain ⟨e', here, run⟩ := Rows.bind_eq_ok.mp run
      cases stored.symm.trans (State.execution_ok here).1
      obtain ⟨⟨settled, records⟩, ran, done⟩ := Rows.bind_eq_ok.mp run
      cases again.symm.trans ran
      cases done
      show (c.state.db.executions.put e).get other = _
      rw [Table.get_put]
      split
      · rename_i same
        rw [same, (State.execution_ok here).2, stored]
      · rfl
  | _ => cases applied

/-- Each moment of a harmless call, alone in the system, is a moment of some
run of the system, and the call is calm there. -/
theorem calm_course (reach : Reachable settings c) {call : Frame}
    (isCall : call = .advance executionId ∨ call = .continueCompensation executionId) (inputs : Nat → Input)
    (harmless : ∀ k frame rest, ((orchestrator settings).course inputs (c.state, [call]) k).2 = frame :: rest →
      frame.harmless settings (inputs k) ((orchestrator settings).course inputs (c.state, [call]) k).1 = true)
    (k : Nat) : ∃ (c' : Config) (task : Nat), Reachable settings c' ∧
      c'.state = ((orchestrator settings).course inputs (c.state, [call]) k).1 ∧
      c'.tasks[task]? = some ((orchestrator settings).course inputs (c.state, [call]) k).2 ∧
      Calm c'.state ((orchestrator settings).course inputs (c.state, [call]) k).2 := by
  induction k with
  | zero =>
    have entry : (orchestrator settings).entry call = true := by
      rcases isCall with rfl | rfl <;> rfl
    have spawned : (orchestrator settings).next c (.spawn call) = some { c with tasks := c.tasks ++ [[call]] } :=
      if_pos entry
    refine ⟨_, c.tasks.length, reach.next trivial spawned, rfl, by simp [TaskPool.Program.course], ?_⟩
    refine calm_of_lasting fun frame member => ?_
    cases List.mem_singleton.mp member
    rcases isCall with rfl | rfl <;> trivial
  | succ k ih =>
    obtain ⟨c', task, reach', state, atTask, calm⟩ := ih
    have mild := harmless k
    rw [TaskPool.Program.course]
    generalize (orchestrator settings).course inputs (c.state, [call]) k = here at state atTask calm mild
    obtain ⟨s, stack⟩ := here
    cases state
    cases stack with
    | nil => exact ⟨c', task, reach', rfl, atTask, calm⟩
    | cons frame rest =>
      cases ran : (orchestrator settings).exec frame (inputs k) c'.state with
      | ok outcome =>
        obtain ⟨s', pushed⟩ := outcome
        refine ⟨_, task, reach'.next trivial (TaskPool.next_run_ok atTask ran), ?_, ?_, ?_⟩
        · simp [TaskPool.Program.unit, ran]
        · obtain ⟨bound, _⟩ := List.getElem?_eq_some_iff.mp atTask
          simp [TaskPool.Program.unit, ran, bound]
        · simpa [TaskPool.Program.unit, ran] using calm.commit reach' atTask (mild frame rest rfl) ran
      | error raised =>
        refine ⟨_, task, reach'.next trivial (TaskPool.next_run_error atTask ran), ?_, ?_, ?_⟩
        · simp [TaskPool.Program.unit, ran]
        · obtain ⟨bound, _⟩ := List.getElem?_eq_some_iff.mp atTask
          simp [TaskPool.Program.unit, ran, bound]
        · simpa [TaskPool.Program.unit, ran] using calm.unwind ran

/-- In a call of `advance` or of the compensation walk whose dispatches end
harmlessly, no unit of work raises `InvalidStateTransitionError`, the hooks'
included, and where the hook has settled an outcome first the caller's own
transaction leaves every execution as it is. -/
theorem double_settlement_harmless (reach : Reachable settings c) {call : Frame}
    (isCall : call = .advance executionId ∨ call = .continueCompensation executionId) (inputs : Nat → Input)
    (harmless : ∀ k frame rest, ((orchestrator settings).course inputs (c.state, [call]) k).2 = frame :: rest →
      frame.harmless settings (inputs k) ((orchestrator settings).course inputs (c.state, [call]) k).1 = true)
    (k : Nat) (frame : Frame) (rest : List Frame)
    (next : ((orchestrator settings).course inputs (c.state, [call]) k).2 = frame :: rest) :
    let s := ((orchestrator settings).course inputs (c.state, [call]) k).1
    (∀ raised, frame.exec settings (inputs k) s = .error raised → raised.isInvalidStateTransition = false) ∧
      ∀ s' pushed, frame.exec settings (inputs k) s = .ok (s', pushed) → frame.AlreadyApplied s →
        ∀ other, s'.db.executions.get other = s.db.executions.get other := by
  obtain ⟨c', task, reach', state, atTask, calm⟩ := calm_course reach isCall inputs harmless k
  rw [next] at calm
  dsimp only
  rw [← state]
  exact ⟨calm.legal reach' (inputs k), fun s' pushed run applied other => calm.settles_again reach' applied run other⟩

theorem course_idle (settings : Settings) (inputs : Nat → Input) (start : State × List Frame) {k : Nat}
    (idle : ((orchestrator settings).course inputs start k).2 = []) (j : Nat) :
    ((orchestrator settings).course inputs start (k + j)).2 = [] := by
  induction j with
  | zero => exact idle
  | succ j ih =>
    rw [← Nat.add_assoc, TaskPool.Program.course]
    generalize (orchestrator settings).course inputs start (k + j) = here at ih
    obtain ⟨s, stack⟩ := here
    cases ih
    rfl

namespace Sample

/-- A workflow of one step, about to be advanced for the first time. -/
def firstAdvance : List Action := .spawn (start [stage "only" []] none) :: work 0 1 100 2

/-- The provider rejects the operation for good. -/
def turnedDown : AdapterOutcome :=
  .refused { code := "rejected", message := "rejected", category := .providerValidation, retryable := false }

/-- Every unit of work meets a provider that ends its calls like this. -/
def steadily (outcome : AdapterOutcome) : Nat → Input := fun _ => Sample.input 2 200 outcome

/-- The call of `advance`, after so many units of work. -/
def advancing (outcome : AdapterOutcome) (s : State) (k : Nat) : State × List Frame :=
  (orchestrator Sample.settings).course (steadily outcome) (s, [.advance 100]) k

/-- The next unit of work raises an invalid transition. -/
def raisesInvalid (outcome : AdapterOutcome) (here : State × List Frame) : Bool :=
  match here.2 with
  | frame :: _ =>
    match frame.exec Sample.settings (Sample.input 2 200 outcome) here.1 with
    | .error raised => raised.isInvalidStateTransition
    | .ok _ => false
  | [] => false

theorem raisesInvalid_iff {outcome : AdapterOutcome} {here : State × List Frame}
    (found : raisesInvalid outcome here = true) : ∃ frame rest raised, here.2 = frame :: rest ∧
      frame.exec Sample.settings (Sample.input 2 200 outcome) here.1 = .error raised ∧
      raised.isInvalidStateTransition = true := by
  obtain ⟨s, stack⟩ := here
  cases stack with
  | nil => cases found
  | cons frame rest =>
    simp only [raisesInvalid] at found
    split at found
    · rename_i raised ran
      exact ⟨frame, rest, raised, rfl, ran, found⟩
    · cases found

/-- The next unit of work settles a step that does not run any more. -/
def settlesAgain (here : State × List Frame) : Bool :=
  match here.2 with
  | .settleForward executionId stepId _ _ :: _ =>
    (here.1.db.executions.get executionId).any fun e => e.steps.any fun step =>
      step.id = stepId && step.status ≠ .running
  | _ => false

theorem settlesAgain_iff {here : State × List Frame} (found : settlesAgain here = true) :
    ∃ frame rest, here.2 = frame :: rest ∧ frame.AlreadyApplied here.1 := by
  obtain ⟨s, stack⟩ := here
  cases stack with
  | nil => cases found
  | cons frame rest =>
    refine ⟨frame, rest, rfl, ?_⟩
    cases frame with
    | settleForward executionId stepId requestId dispatched =>
      simp only [settlesAgain, Option.any_eq_true, List.any_eq_true, Bool.and_eq_true, decide_eq_true_eq] at found
      obtain ⟨e, stored, step, member, id, moved⟩ := found
      exact ⟨e, step, stored, member, id, moved⟩
    | _ => cases found

/-- The call is over after `length` units of work and settles no attempt with a
harmful outcome before. -/
def harmlessFor (outcome : AdapterOutcome) (length : Nat) (s : State) : Bool :=
  (advancing outcome s length).2.isEmpty && (List.range length).all fun k =>
    (advancing outcome s k).2.head?.all fun frame =>
      frame.harmless Sample.settings (Sample.input 2 200 outcome) (advancing outcome s k).1

theorem harmlessFor_iff {outcome : AdapterOutcome} {length : Nat} (found : harmlessFor outcome length s = true)
    (k : Nat) (frame : Frame) (rest : List Frame) (next : (advancing outcome s k).2 = frame :: rest) :
    frame.harmless Sample.settings (steadily outcome k) (advancing outcome s k).1 = true := by
  simp only [harmlessFor, Bool.and_eq_true, List.isEmpty_iff, List.all_eq_true, List.mem_range] at found
  by_cases early : k < length
  · have here := found.2 k early
    rw [next] at here
    exact here
  · have ended := course_idle Sample.settings (steadily outcome) (s, [.advance 100]) found.1 (k - length)
    rw [Nat.add_sub_cancel' (Nat.le_of_not_lt early)] at ended
    cases next.symm.trans ended

end Sample

/-- A provider that answers a forward request with success at once: the hook
marks the step succeeded, and the caller's own transaction raises. -/
theorem settled_success_raises : ∃ c, Reachable Sample.settings c ∧
    ∃ frame rest raised, (Sample.advancing (Sample.answered .succeeded "op-1") c.state 8).2 = frame :: rest ∧
      frame.exec Sample.settings (Sample.input 2 200 (Sample.answered .succeeded "op-1"))
        (Sample.advancing (Sample.answered .succeeded "op-1") c.state 8).1 = .error raised ∧
      raised.isInvalidStateTransition = true := by
  obtain ⟨c, reach, found⟩ := reachable_replay Sample.settings Sample.firstAdvance
    (fun (c : Config) => Sample.raisesInvalid (Sample.answered .succeeded "op-1")
      (Sample.advancing (Sample.answered .succeeded "op-1") c.state 8)) (by decide +kernel)
  exact ⟨c, reach, Sample.raisesInvalid_iff found⟩

/-- The provider rejects the operation: the hook fails the step and unwinds the
execution, and the caller's own transaction finds nothing left to do. -/
theorem double_settlement_rejected : ∃ c, Reachable Sample.settings c ∧ ∃ frame rest,
    (Sample.advancing Sample.turnedDown c.state 9).2 = frame :: rest ∧
      frame.AlreadyApplied (Sample.advancing Sample.turnedDown c.state 9).1 ∧
      (∀ raised, frame.exec Sample.settings (Sample.input 2 200 Sample.turnedDown)
        (Sample.advancing Sample.turnedDown c.state 9).1 = .error raised → raised.isInvalidStateTransition = false) ∧
      ∀ s' pushed, frame.exec Sample.settings (Sample.input 2 200 Sample.turnedDown)
        (Sample.advancing Sample.turnedDown c.state 9).1 = .ok (s', pushed) →
        ∀ other, s'.db.executions.get other =
          (Sample.advancing Sample.turnedDown c.state 9).1.db.executions.get other := by
  obtain ⟨c, reach, found⟩ := reachable_replay Sample.settings Sample.firstAdvance
    (fun (c : Config) => Sample.harmlessFor Sample.turnedDown 11 c.state &&
      Sample.settlesAgain (Sample.advancing Sample.turnedDown c.state 9)) (by decide +kernel)
  simp only [Bool.and_eq_true] at found
  obtain ⟨frame, rest, next, applied⟩ := Sample.settlesAgain_iff found.2
  obtain ⟨legal, again⟩ := double_settlement_harmless reach (Or.inl rfl) (Sample.steadily Sample.turnedDown)
    (Sample.harmlessFor_iff found.1) 9 frame rest next
  exact ⟨c, reach, frame, rest, next, applied, legal, fun s' pushed run => again s' pushed run applied⟩

end IntegrationOrchestrator
