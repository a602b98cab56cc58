import IntegrationOrchestrator.Foundation.Trail
import IntegrationOrchestrator.Saga.CompensationRefinement
import IntegrationOrchestrator.Saga.CreationRefinement
import IntegrationOrchestrator.Saga.Refresh

namespace IntegrationOrchestrator

open WorkflowExecution WorkflowOrchestrator Mutator

/-- The row records a status change. -/
def WorkflowRecord.changes (row : WorkflowRecord) : Bool := row.previous ≠ some row.new

abbrev WorkflowPath : WorkflowStatus → List WorkflowRecord → WorkflowStatus → Prop :=
  Trail.Path WorkflowRecord.previous WorkflowRecord.new fun a b => decide (b ∈ workflowTransitions a)

/-- The rows of a transaction that turns `e` into `e'` are about it, and they
are a path from its old to its new status unless the transaction is silent
about a change. -/
structure Tells (e e' : WorkflowExecution) (rows : List WorkflowRecord) (silent : Bool) : Prop where
  id : e'.id = e.id
  about : ∀ row ∈ rows, row.executionId = e.id
  path : WorkflowPath e.status (rows.filter (·.changes)) e'.status ↔ silent = false

variable {e e' e'' : WorkflowExecution} {rows more : List WorkflowRecord} {silent : Bool} {t : Readings}
  {now : Instant}

theorem workflowTransitions_irrefl {a b : WorkflowStatus} (allowed : b ∈ workflowTransitions a) : a ≠ b := by
  rintro rfl
  cases a <;> simp [workflowTransitions] at allowed

theorem record_changes {action : AuditAction} {actor : Actor} {previous new : WorkflowStatus}
    (differ : previous ≠ new) (at' : Instant) : (record e action actor previous new at').changes = true := by
  simpa [WorkflowRecord.changes, record] using differ

namespace Tells

theorem same (id : e'.id = e.id) (status : e'.status = e.status) : Tells e e' [] false :=
  ⟨id, by simp, ⟨fun _ => rfl, fun _ => status.symm⟩⟩

/-- An allowed change with its row. -/
theorem link {action : AuditAction} {actor : Actor} {status : WorkflowStatus} {at' : Instant}
    (id : e'.id = e.id) (moved : e'.status = status) (allowed : status ∈ workflowTransitions e.status) :
    Tells e e' [record e action actor e.status status at'] false where
  id := id
  about := by
    intro row member
    cases List.mem_singleton.mp member
    rfl
  path := by
    rw [List.filter_singleton, record_changes (workflowTransitions_irrefl allowed)]
    exact ⟨fun _ => rfl, fun _ => ⟨rfl, decide_eq_true allowed, moved.symm⟩⟩

theorem append (first : Tells e e' rows false) (second : Tells e' e'' more false) :
    Tells e e'' (rows ++ more) false where
  id := second.id.trans first.id
  about := by
    intro row member
    rcases List.mem_append.mp member with before | after
    · exact first.about row before
    · exact (second.about row after).trans first.id
  path := by
    rw [List.filter_append]
    exact ⟨fun _ => rfl, fun _ => (first.path.mpr rfl).append (second.path.mpr rfl)⟩

/-- What happens to an execution before it is looked at does not matter if
its id and status stay. -/
theorem of_same (tells : Tells e e' rows silent) (id : e.id = e''.id) (status : e.status = e''.status) :
    Tells e'' e' rows silent where
  id := tells.id.trans id
  about := fun row member => (tells.about row member).trans id
  path := status ▸ tells.path

/-- A change without a row. -/
theorem unrecorded (id : e'.id = e.id) (differ : e'.status ≠ e.status) : Tells e e' [] true :=
  ⟨id, by simp, ⟨fun path => absurd path.symm differ, by simp⟩⟩

/-- Whatever follows, rows that start elsewhere are no path. -/
theorem misplaced {row : WorkflowRecord} (id : e'.id = e.id)
    (about : ∀ other ∈ row :: rows, other.executionId = e.id) (changes : row.changes = true) (elsewhere : row.previous ≠ some e.status) : Tells e e' (row :: rows) true := by
  refine ⟨id, about, ⟨fun path => ?_, by simp⟩⟩
  rw [List.filter_cons_of_pos changes] at path
  exact absurd path.1 elsewhere

end Tells

namespace WorkflowOrchestrator

theorem movedTo_tells {status : WorkflowStatus} {action : AuditAction} {actor : Actor} {at' recordedAt : Instant}
    (run : movedTo e status action actor at' recordedAt = .ok (e', rows)) : Tells e e' rows false := by
  obtain ⟨moved, performed, done⟩ := Rows.bind_eq_ok.mp run
  cases done
  obtain ⟨allowed, rfl⟩ := perform_transitionTo_ok performed
  exact .link rfl rfl allowed

/-- The last waiting step of a waiting workflow is over, and none failed. -/
def resumes (e : WorkflowExecution) : Bool :=
  e.status = .waiting && ¬ e.anyWaiting && ¬ e.steps.any (·.status = .failed)

theorem completeIfSucceeded_tells (run : completeIfSucceeded e t = .ok (e', rows)) :
    Tells e e' rows false ∧ (e'.status = e.status ∧ rows = [] ∨ e.status = .running ∧ ∃ row more,
      rows = row :: more ∧ row.changes = true ∧ row.previous = some .running) := by
  unfold completeIfSucceeded at run
  split at run
  · rename_i complete
    simp only [Bool.and_eq_true, decide_eq_true_eq] at complete
    refine ⟨movedTo_tells run, Or.inr ⟨complete.2, ?_⟩⟩
    obtain ⟨moved, performed, done⟩ := Rows.bind_eq_ok.mp run
    cases done
    refine ⟨_, [], rfl, record_changes (by simp [complete.2]) _, ?_⟩
    exact congrArg some complete.2
  · cases run
    exact ⟨.same rfl rfl, Or.inl ⟨rfl, rfl⟩⟩

theorem promoteReadySteps_same {at' : Instant} (run : e.promoteReadySteps at' = .ok e') :
    e'.id = e.id ∧ e'.status = e.status := by
  obtain ⟨steps, _, done⟩ := Rows.bind_eq_ok.mp run
  cases done
  exact ⟨rfl, rfl⟩

/-- A refresh records what it changes, except that a workflow runs again. -/
theorem refreshExecutionStatus_tells (run : refreshExecutionStatus e t = .ok (e', rows)) :
    Tells e e' rows (resumes e) := by
  unfold refreshExecutionStatus at run
  split at run
  · rename_i ended
    have stays : resumes e = false := by
      by_contra resumed
      simp only [resumes, Bool.not_eq_false, Bool.and_eq_true, decide_eq_true_eq] at resumed
      simp [resumed.1.1] at ended
    cases run
    rw [stays]
    exact .same rfl rfl
  · split at run
    · rename_i failed
      simp only [Bool.and_eq_true] at failed
      have stays : resumes e = false := by simp [resumes, failed.1]
      rw [stays]
      exact movedTo_tells run
    · split at run
      · rename_i waits
        simp only [Bool.and_eq_true, decide_eq_true_eq] at waits
        have stays : resumes e = false := by simp [resumes, waits.2]
        rw [stays]
        exact movedTo_tells run
      · obtain ⟨resumed, first, second⟩ := Rows.bind_eq_ok.mp run
        obtain ⟨tells, told⟩ := completeIfSucceeded_tells second
        unfold resumeRunning at first
        split at first
        · rename_i again
          have restarts : resumes e = true := again
          simp only [Bool.and_eq_true, decide_eq_true_eq] at again
          obtain ⟨running, moved, promoted⟩ := Rows.bind_eq_ok.mp first
          obtain ⟨_, rfl⟩ := perform_transitionTo_ok moved
          obtain ⟨id, status⟩ := promoteReadySteps_same promoted
          rw [restarts]
          rcases told with ⟨same, rfl⟩ | ⟨_, row, more, rfl, changes, previous⟩
          · refine .unrecorded (tells.id.trans id) ?_
            rw [same, status, again.1.1]
            simp
          · refine .misplaced (tells.id.trans id) (fun other member => (tells.about other member).trans id) changes ?_
            simp [previous, again.1.1]
        · rename_i stays
          have stays : resumes e = false := by simpa [resumes] using stays
          cases first
          rw [stays]
          exact tells

theorem dequeued_same {at' : Instant} (run : dequeued e at' = .ok e') :
    e'.id = e.id ∧ e'.steps = e.steps ∧ (e.status = .queued ∧ e'.status = .running ∨ e.status ≠ .queued ∧ e' = e) := by
  unfold dequeued at run
  split at run
  · rename_i queued
    obtain ⟨_, rfl⟩ := perform_transitionTo_ok run
    exact ⟨rfl, rfl, Or.inl ⟨queued, rfl⟩⟩
  · rename_i started
    cases run
    exact ⟨rfl, rfl, Or.inr ⟨started, rfl⟩⟩

/-- Whether a changed list of steps lets the workflow run again. -/
def resumesWith (e : WorkflowExecution) : Except Exn (List WorkflowStepExecution) → Bool
  | .ok steps => resumes { e with steps := steps }
  | .error _ => false

theorem resumes_promoted {at' : Instant} (run : e.promoteReadySteps at' = .ok e') : resumes e' = resumes e := by
  obtain ⟨rest, each⟩ := promoteReadySteps_each run
  have status : e'.status = e.status := by rw [rest]
  have unaffected : ∀ (target : WorkflowStepStatus), target ≠ .pending → target ≠ .ready →
      e'.steps.any (·.status = target) = e.steps.any (·.status = target) := by
    intro target notPending notReady
    refine Rows.forall₂_any_eq (fun old new change => ?_) each
    rcases change with rfl | ⟨pending, rfl⟩
    · rfl
    · simp [pending, notPending.symm, notReady.symm]
  have waiting : e'.anyWaiting = e.anyWaiting := unaffected .waiting (by simp) (by simp)
  have failed := unaffected .failed (by simp) (by simp)
  rw [resumes, resumes, status, waiting, failed]

/-- A pass over a queued workflow starts it without a word. -/
theorem advance_tells {requests : UUID → Option IntegrationRequest}
    (run : advance e requests t = .ok (.commit e' rows)) : Tells e e' rows
      (e.status = .queued || resumesWith e (e.steps.mapM (resumeWaitingStep requests t.now))) := by
  obtain ⟨_, running, steps, promoted, first, resumed, second, third⟩ := advance_commit run
  obtain ⟨id, sameSteps, start⟩ := dequeued_same first
  obtain ⟨promotedId, promotedStatus⟩ := promoteReadySteps_same second
  have tells := refreshExecutionStatus_tells third
  rw [resumes_promoted second] at tells
  rcases start with ⟨queued, started⟩ | ⟨notQueued, rfl⟩
  · have status : promoted.status = .running := promotedStatus.trans started
    have awake : resumes ({ running with steps := steps } : WorkflowExecution) = false := by simp [resumes, started]
    rw [awake] at tells
    have path := tells.path.mpr rfl
    rw [status] at path
    have silent : (decide (e.status = .queued) ||
        resumesWith e (e.steps.mapM (resumeWaitingStep requests t.now))) = true := by simp [queued]
    rw [silent]
    refine ⟨tells.id.trans (promotedId.trans id), fun row member => (tells.about row member).trans (promotedId.trans id),
      ⟨fun other => ?_, by simp⟩⟩
    -- the rows start at `running`, so they cannot start at `queued`
    rw [queued] at other
    revert path other
    cases rows.filter (·.changes) with
    | nil =>
      intro path other
      exact absurd (path.trans other.symm) (by simp)
    | cons row rest =>
      intro path other
      exact absurd (path.1.symm.trans other.1) (by simp)
  · have condition : (decide (running.status = .queued) ||
        resumesWith running (running.steps.mapM (resumeWaitingStep requests t.now))) =
        resumes { running with steps := steps } := by simp [notQueued, resumed, resumesWith]
    rw [condition]
    exact tells.of_same promotedId promotedStatus

theorem settleForward_tells {stepId requestId : UUID} {dispatched : IntegrationRequest}
    (run : settleForward e stepId requestId dispatched t = .ok (e', rows)) : Tells e e' rows
      (resumesWith e (Rows.modifyFirst .stopIteration (·.id = stepId) (forwardStep requestId dispatched t.now)
        e.steps)) := by
  obtain ⟨steps, changed, run⟩ := Rows.bind_eq_ok.mp run
  rw [changed]
  exact (refreshExecutionStatus_tells run).of_same rfl rfl

/-- Whether the transaction for a terminal request records a change that it
does not make, or makes one that it does not record. -/
def terminalUntold (e : WorkflowExecution) (request : IntegrationRequest) (now : Instant) : Bool :=
  match e.steps.find? (Database.linksRequest request.id) with
  | none => false
  | some step =>
    if step.status = .compensating && request.status ∈ [.failed, .manualReview] then
      e.status ∉ [.manualReview, .compensating]
    else resumesWith e (Rows.modifyFirst .stopIteration (Database.linksRequest request.id)
      (terminalStep request now) e.steps)

/-- A refresh leaves an execution in review as it is. -/
theorem refreshExecutionStatus_reviewed (run : refreshExecutionStatus e t = .ok (e', rows))
    (reviewed : e.status = .manualReview) : e' = e ∧ rows = [] := by
  have fixed := (Refreshed.of_status (e := e) (by simp [reviewed])).refresh t
  cases fixed.symm.trans run
  exact ⟨rfl, rfl⟩

theorem applyTerminal_tells {request : IntegrationRequest}
    (run : applyTerminal e request t = .ok (some (e', rows))) : Tells e e' rows (terminalUntold e request t.now) := by
  obtain ⟨step, steps, rejected, first, later, found, changed, second, third, rfl⟩ := applyTerminal_ok run
  unfold terminalUntold
  rw [found]
  dsimp only
  unfold compensationRejected at second
  split at second
  · rename_i failing
    rw [if_pos failing]
    dsimp only at second
    split at second
    · rename_i reviewed
      cases second
      obtain ⟨rfl, rfl⟩ := refreshExecutionStatus_reviewed third reviewed
      have told : (decide (e.status ∉ [WorkflowStatus.manualReview, .compensating])) = false := by
        simp [show e.status = .manualReview from reviewed]
      rw [told]
      exact .same rfl rfl
    · split at second
      · rename_i unwinding
        obtain ⟨moved, performed, done⟩ := Rows.bind_eq_ok.mp second
        cases done
        obtain ⟨allowed, rfl⟩ := perform_transitionTo_ok performed
        obtain ⟨rfl, rfl⟩ := refreshExecutionStatus_reviewed third rfl
        have told : (decide (e.status ∉ [WorkflowStatus.manualReview, .compensating])) = false := by
          simp [show e.status = .compensating from unwinding]
        have status : WorkflowStatus.compensating = e.status := Eq.symm unwinding
        rw [told, List.append_nil, status]
        exact .link rfl rfl allowed
      · rename_i notReviewed notUnwinding
        cases second
        have untold : (decide (e.status ∉ [WorkflowStatus.manualReview, .compensating])) = true := by
          simpa using ⟨notReviewed, notUnwinding⟩
        have tells := refreshExecutionStatus_tells third
        rw [untold]
        refine .misplaced tells.id ?_ (record_changes (by simp) _) ?_
        · exact List.forall_mem_cons.mpr ⟨rfl, tells.about⟩
        · simpa [record] using fun same => notUnwinding (Eq.symm same)
  · rename_i calm
    rw [if_neg calm, changed]
    cases second
    exact (refreshExecutionStatus_tells third).of_same rfl rfl

theorem unwindOrCancel_tells {actor : Actor} {at' recordedAt : Instant}
    (run : unwindOrCancel e e.status actor at' recordedAt = .ok (e', rows)) : Tells e e' rows false := by
  unfold unwindOrCancel at run
  split at run
  · obtain ⟨moved, performed, done⟩ := Rows.bind_eq_ok.mp run
    cases done
    obtain ⟨allowed, rfl⟩ := perform_transitionTo_ok performed
    exact .link rfl rfl allowed
  · obtain ⟨moved, performed, done⟩ := Rows.bind_eq_ok.mp run
    cases done
    obtain ⟨allowed, rfl⟩ := perform_transitionTo_ok performed
    exact .link rfl rfl allowed

theorem cancel_tells {actor : Actor} {reason : Option String}
    (run : cancel e actor reason t = .ok (some (e', rows))) : Tells e e' rows false := by
  rcases cancel_ok run with ⟨_, rfl, rfl⟩ | ⟨_, steps, _, ending⟩
  · refine ⟨rfl, ?_, ⟨fun _ => rfl, fun _ => rfl⟩⟩
    intro row member
    cases List.mem_singleton.mp member
    rfl
  · have tells := unwindOrCancel_tells (e := { withCancelReason e reason with steps := steps }) ending
    exact tells.of_same rfl rfl

theorem enforceDeadline_tells (run : enforceDeadline e t = .ok (some (e', rows))) : Tells e e' rows false := by
  obtain ⟨steps, changed, run⟩ := Rows.bind_eq_ok.mp (enforceDeadline_ok run).2
  obtain ⟨⟨timedOut, first⟩, late, run⟩ := Rows.bind_eq_ok.mp run
  obtain ⟨⟨ended, second⟩, ending, done⟩ := Rows.bind_eq_ok.mp run
  cases done
  have start := movedTo_tells late
  obtain ⟨_, rfl⟩ := movedTo_ok late
  have first : Tells e _ _ false := start.of_same rfl rfl
  have told := first.append (unwindOrCancel_tells ending)
  refine ⟨?_, told.about, ?_⟩
  · split
    · exact told.id
    · exact told.id
  · split
    · exact told.path
    · exact told.path

theorem onStep_same {stepId : UUID} {method : Mutator Exn WorkflowStepExecution Unit}
    (run : e.onStep stepId method = .ok e') : e'.id = e.id ∧ e'.status = e.status := by
  obtain ⟨steps, _, done⟩ := Rows.bind_eq_ok.mp run
  cases done
  exact ⟨rfl, rfl⟩

theorem continueCompensation_begin_tells {stepId : UUID}
    (run : continueCompensation e t = .ok (.begin e' stepId)) : Tells e e' [] false := by
  obtain ⟨_, _, _, _, _, changed⟩ := continueCompensation_begun run
  obtain ⟨id, status⟩ := onStep_same changed
  exact .same id status

theorem continueCompensation_finish_tells (run : continueCompensation e t = .ok (.finish e' rows)) :
    Tells e e' rows false := by
  obtain ⟨_, finished⟩ := continueCompensation_finish run
  unfold finishUnwind at finished
  split at finished
  · split at finished
    · exact movedTo_tells finished
    · exact movedTo_tells finished
  · cases finished
    exact .same rfl rfl

theorem compensateStep_tells {stepId requestId minted : UUID}
    (run : compensateStep e stepId requestId minted now = .ok (.done e')) : Tells e e' [] false := by
  obtain ⟨_, _, _, changed⟩ := compensateStep_released run
  obtain ⟨id, status⟩ := onStep_same changed
  exact .same id status

/-- A failed compensation ends in review without a word. -/
theorem settleCompensation_tells {stepId requestId : UUID} {dispatched : IntegrationRequest}
    (run : settleCompensation e stepId requestId dispatched now = .ok e') :
    Tells e e' [] (dispatched.status ∉ [.succeeded, .pending]) := by
  unfold settleCompensation at run
  split at run
  · rename_i succeeded
    obtain ⟨id, status⟩ := onStep_same run
    have told : decide (dispatched.status ∉ [RequestStatus.succeeded, .pending]) = false := by simp [succeeded]
    rw [told]
    exact .same id status
  · rename_i pending
    cases run
    have told : decide (dispatched.status ∉ [RequestStatus.succeeded, .pending]) = false := by simp [pending]
    rw [told]
    exact .same rfl rfl
  · rename_i notSucceeded notPending
    obtain ⟨step, _, run⟩ := Rows.bind_eq_ok.mp run
    obtain ⟨failed, changed, run⟩ := Rows.bind_eq_ok.mp run
    obtain ⟨id, status⟩ := onStep_same changed
    obtain ⟨allowed, rfl⟩ := perform_transitionTo_ok run
    have untold : decide (dispatched.status ∉ [RequestStatus.succeeded, .pending]) = true := by
      simpa using ⟨notSucceeded, notPending⟩
    rw [untold]
    refine .unrecorded id ?_
    rw [← status]
    exact (workflowTransitions_irrefl allowed).symm

end WorkflowOrchestrator

end IntegrationOrchestrator
