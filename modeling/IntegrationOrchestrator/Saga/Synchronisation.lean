import IntegrationOrchestrator.Saga.Deadline

namespace IntegrationOrchestrator

open WorkflowExecution WorkflowOrchestrator

variable {settings : Settings} {licence : Licence} {now : Instant} {s : State} {ev : Evidence}
  {e e' : WorkflowExecution} {step step' : WorkflowStepExecution} {c c' : Config} {executionId requestId : UUID}
  {q : IntegrationRequest}

theorem WorkflowExecution.StepChange.settled (change : StepChange ev licence now e step step')
    (before : step.status ∉ activeStatuses) : step'.status ∉ activeStatuses := by
  cases change <;>
    simp only [activeStatuses, List.mem_cons, List.not_mem_nil, or_false, WorkflowStepExecution.moved_status,
      WorkflowStepExecution.started_status, compensationPhase] at * <;>
    grind

/-- A step whose forward work has ended never becomes active again. -/
theorem settled_stays (reach : Reachable settings c)
    (before : ∃ e, c.state.db.executions.get executionId = some e ∧
      ∃ step' ∈ e.steps, step'.id = step.id ∧ step'.status ∉ activeStatuses)
    (onward : (orchestrator settings).Reach (fun _ _ => True) c c') :
    ∃ e', c'.state.db.executions.get executionId = some e' ∧
      ∃ step' ∈ e'.steps, step'.id = step.id ∧ step'.status ∉ activeStatuses := by
  refine stays (fun s => ∃ e, s.db.executions.get executionId = some e ∧
    ∃ step' ∈ e.steps, step'.id = step.id ∧ step'.status ∉ activeStatuses)
    (Restriction.within_any _) ?_ reach before onward
  rintro c c' _ _ _ _ _ _ _ _ _ ⟨e, stored, old, member, id, settled⟩ effect
  obtain ⟨e', after, moves⟩ := effect.stored stored
  have each := moves.steps
    (R := fun old new => new.id = old.id ∧ (old.status ∉ activeStatuses → new.status ∉ activeStatuses))
    (fun _ => ⟨rfl, fun same => same⟩)
    (fun _ _ _ first second => ⟨second.1.trans first.1, fun before => second.2 (first.2 before)⟩)
    fun _ _ _ change => ⟨change.same.id, change.settled⟩
  obtain ⟨new, inside, sameId, kept⟩ := Rows.forall₂_mem_left each member
  exact ⟨e', after, new, inside, sameId.trans id, kept settled⟩

/-- A worker's pass over an execution: it claims the execution and works on
it, here without interruption. -/
def workerPass (settings : Settings) (executionId : UUID) (inputs : List Input) (c : Config) : Option Config :=
  (orchestrator settings).replay (fun _ _ => true) c
    (.spawn (.claimRunnable executionId) :: inputs.map (.run c.tasks.length))

theorem execClaimRunnable_claims (settings : Settings) (stored : s.db.executions.get executionId = some e)
    (forward : e.status ∈ [WorkflowStatus.running, .waiting]) {input : Input}
    (free : e.claimLeaseUntil.all (· ≤ input.readings.now) = true) :
    ∃ till, Frame.exec settings (.claimRunnable executionId) input s = .ok (s.savedExecution { e with
      claimLeaseUntil := till, updatedAt := input.readings.now } [], [.advance executionId]) := by
  have runnable : e.status ∈ Frame.runnableStatuses ∧ e.status ≠ .compensating := by
    rcases List.mem_pair.mp forward with status | status <;> simp [status, Frame.runnableStatuses]
  refine ⟨some (input.readings.now + settings.workflowClaimLeaseSeconds * 1000000), ?_⟩
  simp [Frame.exec, Frame.execClaimRunnable, stored, runnable, free]

/-- What the claim of a pass leaves to the rest of it. -/
theorem workerPass_claims (settings : Settings) (stored : c.state.db.executions.get executionId = some e)
    (forward : e.status ∈ [WorkflowStatus.running, .waiting]) {claim : Input}
    (free : e.claimLeaseUntil.all (· ≤ claim.readings.now) = true) :
    ∃ c₁ till, c₁.tasks[c.tasks.length]? = some [.advance executionId] ∧
      c₁.state.db.requests = c.state.db.requests ∧ c₁.state.db.executions.get executionId =
        some { e with claimLeaseUntil := till, updatedAt := claim.readings.now } ∧
      ∀ more, workerPass settings executionId (claim :: more) c =
        (orchestrator settings).replay (fun _ _ => true) c₁ (more.map (.run c.tasks.length)) := by
  have key : e.id = executionId := Table.get_key stored
  obtain ⟨till, ran⟩ := execClaimRunnable_claims settings stored forward free
  let spawned : Config := { c with tasks := c.tasks ++ [[.claimRunnable executionId]] }
  have atTask : spawned.tasks[c.tasks.length]? = some [Frame.claimRunnable executionId] := by simp [spawned]
  have claimed := TaskPool.next_run_ok (P := orchestrator settings) atTask ran
  refine ⟨{ state := c.state.savedExecution { e with claimLeaseUntil := till, updatedAt := claim.readings.now } []
            tasks := spawned.tasks.set c.tasks.length [.advance executionId] }, till, ?_, rfl,
    State.savedExecution_get key, fun more => ?_⟩
  · simp [spawned]
  · have start : (orchestrator settings).next c (.spawn (.claimRunnable executionId)) = some spawned := rfl
    simp only [workerPass, List.map_cons, TaskPool.Program.replay, if_true, start, Option.bind_some, claimed]
    rfl

section units

variable {input : Input} {records : List WorkflowRecord}

/-- The unit of `advance` that commits. -/
theorem execAdvance_commits (settings : Settings) (stored : s.db.executions.get executionId = some e)
    (committed : advance e s.db.requests.get input.readings = .ok (.commit e' records)) :
    ∃ pushed, Frame.exec settings (.advance executionId) input s = .ok (s.savedExecution e' records, pushed) ∧
      (e'.status ∈ [WorkflowStatus.running, .waiting] →
        pushed = (readySteps e').map (.runForwardStep executionId) ++ [.advanceFinish executionId]) := by
  simp only [Frame.exec, Frame.execAdvance, State.execution, stored, committed, bind, Except.bind]
  split
  · rename_i ended
    refine ⟨_, rfl, fun working => ?_⟩
    rcases List.mem_pair.mp working with status | status <;> simp [status, WorkflowStatus.isTerminal] at ended
  · exact ⟨_, rfl, fun _ => rfl⟩

/-- The unit of `advance` that finds the deadline passed. -/
theorem execAdvance_defers (settings : Settings) (stored : s.db.executions.get executionId = some e)
    (forward : e.status ∈ forwardPhase) (late : e.isPastDeadline input.readings.now = true)
    (unprocessed : e.deadlineProcessedAt = none) :
    Frame.exec settings (.advance executionId) input s = .ok (s, [.enforceDeadline executionId]) := by
  have live : e.status.isTerminal = false ∧ e.status ∉ [.compensating, .manualReview] ∧
      e.status ≠ .manualReview := by
    simp only [forwardPhase, List.mem_cons, List.not_mem_nil, or_false] at forward
    rcases forward with status | status | status <;> simp [status, WorkflowStatus.isTerminal]
  have decides : advance e s.db.requests.get input.readings = .ok .deadline := by
    have expires : (e.isPastDeadline input.readings.now && e.deadlineProcessedAt.isNone &&
        e.status ∉ [.compensating, .manualReview]) = true := by
      simp only [Bool.and_eq_true, Option.isNone_iff_eq_none, decide_eq_true_eq]
      exact ⟨⟨late, unprocessed⟩, live.2.1⟩
    unfold advance
    rw [if_neg (by simp [live.1]), if_neg live.2.2, if_pos expires]
  simp only [Frame.exec, Frame.execAdvance, State.execution, stored, decides, bind, Except.bind, pure, Except.pure]

/-- The unit of `enforce_deadline` that expires an execution. -/
theorem execEnforceDeadline_expires (settings : Settings) (stored : s.db.executions.get executionId = some e)
    (forward : e.status ∈ forwardPhase) (late : e.isPastDeadline input.readings.now = true)
    (unprocessed : e.deadlineProcessedAt = none) :
    ∃ e' records pushed, Frame.exec settings (.enforceDeadline executionId) input s =
        .ok (s.savedExecution e' records, pushed) ∧ e'.id = e.id ∧
      e'.status ∈ [WorkflowStatus.compensating, .cancelled] ∧
      ∀ step ∈ e.steps, ∃ step' ∈ e'.steps, step'.id = step.id ∧ step'.status ∉ activeStatuses := by
  obtain ⟨e', records, expired, id, status, each⟩ := enforceDeadline_total (t := input.readings) forward late unprocessed
  refine ⟨e', records, if e'.status = .compensating then [.continueCompensation executionId] else [], ?_, id, status,
    each⟩
  simp only [Frame.exec, Frame.execEnforceDeadline, State.execution, stored, expired, bind, Except.bind, pure,
    Except.pure]

end units

/-- The resynchronisation of a pass before the deadline. -/
theorem workerPass_resumes (stored : c.state.db.executions.get executionId = some e)
    (forward : e.status ∈ [WorkflowStatus.running, .waiting]) (resolves : e.Resolves) {claim pass : Input}
    (free : e.claimLeaseUntil.all (· ≤ claim.readings.now) = true)
    (early : ¬ (e.isPastDeadline pass.readings.now = true ∧ e.deadlineProcessedAt = none)) :
    ∃ c' e', workerPass settings executionId [claim, pass] c = some c' ∧
      c'.state.db.executions.get executionId = some e' ∧
      ∀ step ∈ e.steps, step.status ≠ .pending → ∃ step' ∈ e'.steps, step'.id = step.id ∧
        (Resumes c.state.db.requests.get step → step'.status = .succeeded) ∧
        (¬ Resumes c.state.db.requests.get step → step'.status = step.status) := by
  have key : e.id = executionId := Table.get_key stored
  obtain ⟨c₁, till, atTask, requests, claimed, rest⟩ := workerPass_claims settings stored forward free
  obtain ⟨e', records, committed, id, each⟩ := advance_total (e := { e with
    claimLeaseUntil := till, updatedAt := claim.readings.now }) c.state.db.requests.get
    (resolves.of_steps rfl) (List.mem_cons_of_mem _ forward) early
  obtain ⟨pushed, ran, _⟩ := execAdvance_commits settings claimed (requests ▸ committed)
  refine ⟨{ state := c₁.state.savedExecution e' records, tasks := c₁.tasks.set c.tasks.length (pushed ++ []) }, e', ?_,
    State.savedExecution_get (id.trans key), each⟩
  have advanced := TaskPool.next_run_ok (P := orchestrator settings) atTask ran
  simp only [rest, List.map_cons, List.map_nil, TaskPool.Program.replay, if_true, advanced, Option.bind_some]

/-- The resynchronisation of a pass after the deadline. -/
theorem workerPass_expires (stored : c.state.db.executions.get executionId = some e)
    (forward : e.status ∈ [WorkflowStatus.running, .waiting]) {claim pass expiry : Input}
    (free : e.claimLeaseUntil.all (· ≤ claim.readings.now) = true)
    (late : e.isPastDeadline pass.readings.now = true) (unprocessed : e.deadlineProcessedAt = none)
    (clock : pass.readings.now ≤ expiry.readings.now) :
    ∃ c' e', workerPass settings executionId [claim, pass, expiry] c = some c' ∧
      c'.state.db.executions.get executionId = some e' ∧
      ∀ step ∈ e.steps, ∃ step' ∈ e'.steps, step'.id = step.id ∧ step'.status ∉ activeStatuses := by
  have key : e.id = executionId := Table.get_key stored
  obtain ⟨c₁, till, atTask, _, claimed, rest⟩ := workerPass_claims settings stored forward free
  let held : WorkflowExecution := { e with claimLeaseUntil := till, updatedAt := claim.readings.now }
  have stillLate : held.isPastDeadline expiry.readings.now = true := by
    simp only [isPastDeadline, held] at late ⊢
    split at late
    · simp only [decide_eq_true_eq] at late ⊢
      exact late.trans clock
    · cases late
  have forward' : held.status ∈ forwardPhase := List.mem_cons_of_mem _ forward
  have defers := execAdvance_defers settings claimed forward' late unprocessed
  obtain ⟨e', records, pushed, ran, id, _, each⟩ := execEnforceDeadline_expires settings claimed forward' stillLate
    unprocessed
  let waiting : Config := { c₁ with tasks := c₁.tasks.set c.tasks.length [.enforceDeadline executionId] }
  have bound : c.tasks.length < c₁.tasks.length := (List.getElem?_eq_some_iff.mp atTask).1
  have atTask' : waiting.tasks[c.tasks.length]? = some [.enforceDeadline executionId] := by simp [waiting, bound]
  have deferred : (orchestrator settings).next c₁ (.run c.tasks.length pass) = some waiting :=
    TaskPool.next_run_ok (P := orchestrator settings) atTask defers
  have enforced := TaskPool.next_run_ok (P := orchestrator settings) atTask' ran
  refine ⟨{ state := c₁.state.savedExecution e' records
            tasks := waiting.tasks.set c.tasks.length (pushed ++ []) }, e', ?_,
    State.savedExecution_get (id.trans key), each⟩
  simp only [rest, List.map_cons, List.map_nil, TaskPool.Program.replay, if_true, deferred, enforced,
    Option.bind_some]

/-- Step and request synchronisation by one worker pass. The pass ends the
forward work of a step for good if the step waits for a request that has
succeeded, or if the deadline has passed; a step that is linked to a settled
request in any other way is left as it is by the transactions that resynchronise. -/
theorem step_synchronised (reach : Reachable settings c)
    (stored : c.state.db.executions.get executionId = some e)
    (forward : e.status ∈ [WorkflowStatus.running, .waiting]) (resolves : e.Resolves) (member : step ∈ e.steps)
    (active : step.status ∈ [WorkflowStepStatus.running, .waiting, .retryScheduled])
    (link : step.integrationRequestId = some requestId) (found : c.state.db.requests.get requestId = some q)
    (claim pass expiry : Input) (free : e.claimLeaseUntil.all (· ≤ claim.readings.now) = true)
    (clock : pass.readings.now ≤ expiry.readings.now) :
    ((step.status = .waiting ∧ q.status = .succeeded) ∨
        (e.isPastDeadline pass.readings.now = true ∧ e.deadlineProcessedAt = none) →
      ∃ units c', units <+: [claim, pass, expiry] ∧ workerPass settings executionId units c = some c' ∧
        ∀ c'', (orchestrator settings).Reach (fun _ _ => True) c' c'' →
          ∃ e', c''.state.db.executions.get executionId = some e' ∧ ∃ step' ∈ e'.steps, step'.id = step.id ∧
            step'.status ∉ [WorkflowStepStatus.running, .waiting, .retryScheduled]) ∧
    (¬ ((step.status = .waiting ∧ q.status = .succeeded) ∨
        (e.isPastDeadline pass.readings.now = true ∧ e.deadlineProcessedAt = none)) →
      ∃ c', workerPass settings executionId [claim, pass] c = some c' ∧
        ∃ e', c'.state.db.executions.get executionId = some e' ∧ ∃ step' ∈ e'.steps, step'.id = step.id ∧
          step'.status = step.status) := by
  have started : step.status ≠ .pending := by
    rintro pending
    simp [pending] at active
  have linked : step.integrationRequestId.bind c.state.db.requests.get = some q := by simp [link, found]
  -- once a unit of the pass has ended the step's forward work, it stays ended
  have forGood : ∀ units c', workerPass settings executionId units c = some c' →
      (∃ e', c'.state.db.executions.get executionId = some e' ∧
        ∃ step' ∈ e'.steps, step'.id = step.id ∧ step'.status ∉ activeStatuses) →
      ∀ c'', (orchestrator settings).Reach (fun _ _ => True) c' c'' →
        ∃ e', c''.state.db.executions.get executionId = some e' ∧ ∃ step' ∈ e'.steps, step'.id = step.id ∧
          step'.status ∉ [WorkflowStepStatus.running, .waiting, .retryScheduled] := by
    intro units c' ran ended c'' onward
    have passed : Reachable settings c' := reach.trans (.of_replay (fun _ _ _ => trivial) ran)
    obtain ⟨e', after, step', inside, id, settled⟩ := settled_stays passed ended onward
    refine ⟨e', after, step', inside, id, fun again => settled ?_⟩
    simp only [activeStatuses, List.mem_cons] at again ⊢
    grind
  constructor
  · intro holds
    by_cases late : e.isPastDeadline pass.readings.now = true ∧ e.deadlineProcessedAt = none
    · obtain ⟨c', e', ran, after, each⟩ := workerPass_expires stored forward free late.1 late.2 clock
      exact ⟨_, c', ⟨[], List.append_nil _⟩, ran, forGood _ c' ran ⟨e', after, each step member⟩⟩
    · obtain ⟨waiting, succeeded⟩ := holds.resolve_right late
      obtain ⟨c', e', ran, after, each⟩ := workerPass_resumes stored forward resolves free late
      obtain ⟨step', inside, id, resumed, _⟩ := each step member started
      have status := resumed ⟨waiting, q, linked, succeeded⟩
      refine ⟨_, c', ⟨[expiry], rfl⟩, ran, forGood _ c' ran ⟨e', after, step', inside, id, ?_⟩⟩
      simp [status, activeStatuses]
  · intro fails
    push Not at fails
    obtain ⟨c', e', ran, after, each⟩ := workerPass_resumes stored forward resolves free
      fun late => fails.2 late.1 late.2
    obtain ⟨step', inside, id, _, kept⟩ := each step member started
    refine ⟨c', ran, e', after, step', inside, id, kept ?_⟩
    rintro ⟨waiting, request, here, succeeded⟩
    cases linked.symm.trans here
    exact fails.1 waiting succeeded

namespace Sample

/-- A webhook reports the success of the only step; its hook has yet to run. -/
def reported : List Action :=
  .spawn (start [stage "only" []] none) :: work 0 1 100 2 ++ work 0 2 200 3 ++
    answer 0 3 (answered .pending "op-1") :: work 0 4 300 5 ++
    .spawn (.processWebhook
      { provider := provider, normalizedStatus := .succeeded, providerReference := some "op-1" }) :: work 1 5 0 1

end Sample

open scoped TaskPool in
/-- The retry worker settles the request without telling the workflow, and a
whole worker pass leaves the step scheduled for a retry. -/
theorem retry_leaves_step_behind :
    ∃ c, Reachable Sample.settings c ∧ ∃ e, c.state.db.executions.get 100 = some e ∧ e.status = .running ∧
      ∃ step ∈ e.steps, step.status = .retryScheduled ∧ step.integrationRequestId = some 200 ∧
        c.state.Succeeded 200 ∧
        ∃ c', workerPass Sample.settings 100 (List.replicate 3 (Sample.input 200000000 0 .crashed)) c = some c' ∧
          c'.tasks[c.tasks.length]? = some [] ∧ ∃ e', c'.state.db.executions.get 100 = some e' ∧
            ∃ step' ∈ e'.steps, step'.id = step.id ∧ step'.status = .retryScheduled :=
  reachable_replay Sample.settings Sample.retried _ (by decide +kernel)

theorem step_synchronised_reported :
    ∃ c, Reachable Sample.settings c ∧ ∃ e, c.state.db.executions.get 100 = some e ∧
      ∃ step ∈ e.steps, step.status = .waiting ∧
        ∃ units c', workerPass Sample.settings 100 units c = some c' ∧
          ∀ c'', (orchestrator Sample.settings).Reach (fun _ _ => True) c' c'' →
            ∃ e', c''.state.db.executions.get 100 = some e' ∧ ∃ step' ∈ e'.steps, step'.id = step.id ∧
              step'.status ∉ [WorkflowStepStatus.running, .waiting, .retryScheduled] := by
  obtain ⟨c, reach, e, stored, status, lease, free, q, request, succeeded, step, member, waiting, link⟩ :=
    reachable_replay Sample.settings Sample.reported (fun c => ∃ e, c.state.db.executions.get 100 = some e ∧
      e.status = .waiting ∧ e.claimLeaseUntil = none ∧ (∀ step ∈ e.steps, step.dependsOn = []) ∧
      ∃ q, c.state.db.requests.get 200 = some q ∧ q.status = .succeeded ∧
        ∃ step ∈ e.steps, step.status = .waiting ∧ step.integrationRequestId = some 200) (by decide)
  have resolves : e.Resolves := fun other inside key dependency => by simp [free other inside] at dependency
  obtain ⟨units, c', _, passed, ended⟩ := (step_synchronised reach stored (by simp [status]) resolves member
    (by simp [waiting]) link request (Sample.input 6 0 .crashed) (Sample.input 7 0 .crashed)
    (Sample.input 8 0 .crashed) (by simp [lease]) (by decide)).1 (Or.inl ⟨waiting, succeeded⟩)
  exact ⟨c, reach, e, stored, step, member, waiting, units, c', passed, ended⟩

end IntegrationOrchestrator
