import IntegrationOrchestrator.Saga.Runs
import IntegrationOrchestrator.Saga.Totality

namespace IntegrationOrchestrator

open WorkflowExecution WorkflowOrchestrator

variable {settings : Settings} {input : Input} {s : State} {ev : Evidence} {licence : Licence} {now : Instant}
  {e e' : WorkflowExecution} {t : Readings} {records : List WorkflowRecord} {executionId : UUID} {c c' c'' : Config}

/-- The statuses in which an execution can time out. -/
def expirableStatuses : List WorkflowStatus := [.queued, .running, .waiting, .retryScheduled]

/-- The statuses that the deadline does not concern. -/
def exemptStatuses : List WorkflowStatus := [.succeeded, .compensated, .cancelled, .compensating, .manualReview]

theorem timedOut_mem_iff {status : WorkflowStatus} :
    .timedOut ∈ workflowTransitions status ↔ status ∈ expirableStatuses := by
  cases status <;> simp [workflowTransitions, expirableStatuses]

/-- What the expiry of an execution is: its deadline is marked as processed and
was not before, no step stays active, and one time-out is recorded. -/
structure WorkflowExecution.Expired (now : Instant) (e e' : WorkflowExecution) (records : List WorkflowRecord) :
    Prop where
  id : e'.id = e.id
  unprocessed : e.deadlineProcessedAt = none
  processed : e'.deadlineProcessedAt = some now
  status : e'.status ∈ [WorkflowStatus.compensating, .cancelled]
  stopped : ∀ step ∈ e'.steps, step.status ∉ activeStatuses
  once : records.countP (·.action = .workflowTimedOut) = 1

namespace WorkflowOrchestrator

theorem unwindOrCancel_records {previous : WorkflowStatus} {actor : Actor} {recordedAt : Instant}
    (run : unwindOrCancel e previous actor now recordedAt = .ok (e', records)) :
    records.countP (·.action = .workflowTimedOut) = 0 := by
  unfold unwindOrCancel at run
  split at run <;>
  · obtain ⟨moved, _, done⟩ := Rows.bind_eq_ok.mp run
    cases done
    rfl

theorem expire_expired (run : expire e t = .ok (e', records)) (unprocessed : e.deadlineProcessedAt = none) :
    e.Expired t.now e' records := by
  obtain ⟨steps, changed, run⟩ := Rows.bind_eq_ok.mp run
  obtain ⟨⟨timedOut, first⟩, expired, run⟩ := Rows.bind_eq_ok.mp run
  obtain ⟨⟨ended, second⟩, ending, done⟩ := Rows.bind_eq_ok.mp run
  cases done
  obtain ⟨moved, performed, same⟩ := Rows.bind_eq_ok.mp expired
  cases same
  obtain ⟨_, rfl⟩ := perform_transitionTo_ok performed
  have stopped : ∀ step ∈ steps, step.status ∉ activeStatuses := by
    intro step' member
    obtain ⟨step, _, change⟩ := Rows.forall₂_mem_right (Rows.mapM_ok_iff.mp changed) member
    have change : StepChange .any .any t.now e step step' ∧ _ :=
      expireStep_change change
    exact change.2
  have kept : ended.id = e.id ∧ ended.deadlineProcessedAt = some t.now ∧ ended.steps = steps ∧
      ended.status ∈ [WorkflowStatus.compensating, .cancelled] := by
    rcases unwindOrCancel_ok ending with ⟨_, rfl⟩ | ⟨_, _, rfl⟩ <;> exact ⟨rfl, rfl, rfl, by simp⟩
  obtain ⟨id, processed, same, status⟩ := kept
  refine ⟨?_, unprocessed, ?_, ?_, ?_, ?_⟩
  · split <;> exact id
  · split <;> exact processed
  · split <;> exact status
  · rw [← same] at stopped
    split <;> exact stopped
  · rw [List.countP_append, unwindOrCancel_records ending]
    rfl

/-- An execution expires exactly if it can time out. -/
theorem expire_isOk_iff (e : WorkflowExecution) (t : Readings) :
    (∃ e' records, expire e t = .ok (e', records)) ↔ e.status ∈ expirableStatuses := by
  rw [← timedOut_mem_iff]
  constructor
  · rintro ⟨e', records, run⟩
    obtain ⟨steps, _, run⟩ := Rows.bind_eq_ok.mp run
    obtain ⟨⟨timedOut, first⟩, expired, _⟩ := Rows.bind_eq_ok.mp run
    exact (movedTo_ok expired).1
  · intro allowed
    obtain ⟨steps, stopped⟩ := Rows.mapM_total fun step (_ : step ∈ e.steps) => expireStep_total t.now step
    let marked : WorkflowExecution := { e with deadlineProcessedAt := some t.now, steps := steps }
    have expired := movedTo_allowed (e := marked) allowed .workflowTimedOut deadlineActor t.now t.recordedAt
    obtain ⟨ended, records, ending⟩ := unwindOrCancel_total (e := marked.moved .timedOut t.now) rfl .timedOut
      deadlineActor t.now t.recordedAt
    simp only [expire, stopped, bind, Except.bind, pure, Except.pure]
    rw [expired]
    simp only [ending]
    exact ⟨_, _, rfl⟩

theorem enforceDeadline_processed (t : Readings) (processed : e.deadlineProcessedAt.isSome = true) :
    enforceDeadline e t = .ok none := by
  unfold enforceDeadline
  rw [if_pos processed]
  split
  · rfl
  · split <;> rfl

theorem enforceDeadline_early (early : e.isPastDeadline t.now = false) : enforceDeadline e t = .ok none := by
  unfold enforceDeadline
  split
  · rfl
  · rw [if_pos (by simp [early])]

theorem enforceDeadline_late (late : e.isPastDeadline t.now = true) (unprocessed : e.deadlineProcessedAt = none) :
    enforceDeadline e t = some <$> expire e t := by
  unfold enforceDeadline
  rw [if_neg (by simp [unprocessed]), if_neg (by simp [late]), if_neg (by simp [unprocessed])]

/-- Past its deadline, `enforce_deadline` commits on an execution at work: it
unwinds or cancels the execution, and none of its steps stays active. -/
theorem enforceDeadline_total (forward : e.status ∈ forwardPhase)
    (late : e.isPastDeadline t.now = true) (unprocessed : e.deadlineProcessedAt = none) :
    ∃ e' records, enforceDeadline e t = .ok (some (e', records)) ∧ e'.id = e.id ∧
      e'.status ∈ [WorkflowStatus.compensating, .cancelled] ∧
      ∀ step ∈ e.steps, ∃ step' ∈ e'.steps, step'.id = step.id ∧ step'.status ∉ activeStatuses := by
  have expirable : e.status ∈ expirableStatuses := by
    simp only [forwardPhase, expirableStatuses, List.mem_cons, List.not_mem_nil, or_false] at forward ⊢
    tauto
  obtain ⟨e', records, run⟩ := (expire_isOk_iff e t).mpr expirable
  have expired := expire_expired run unprocessed
  refine ⟨e', records, ?_, expired.id, expired.status, fun step member => ?_⟩
  · rw [enforceDeadline_late late unprocessed, run]
    rfl
  · have moves : Moves .any .any t.now e e' := expire_moves run
    obtain ⟨step', inside, same⟩ := Rows.forall₂_mem_left moves.same member
    exact ⟨step', inside, same.id, expired.stopped step' inside⟩

end WorkflowOrchestrator

/-! ### The call -/

theorem WorkflowExecution.Moves.processed (moves : Moves ev licence now e e')
    (before : e.deadlineProcessedAt.isSome = true) : e'.deadlineProcessedAt.isSome = true := by
  induction moves with
  | refl => exact before
  | tail _ move ih =>
    cases move with
    | deadline => rfl
    | _ => exact ih

/-- Once a deadline is marked as processed it stays so. -/
theorem processed_stays (reach : Reachable settings c) (stored : c.state.db.executions.get executionId = some e)
    (processed : e.deadlineProcessedAt.isSome = true)
    (onward : (orchestrator settings).Reach (fun _ _ => True) c c') :
    ∃ e', c'.state.db.executions.get executionId = some e' ∧ e'.deadlineProcessedAt.isSome = true := by
  refine stays (fun s => ∃ e', s.db.executions.get executionId = some e' ∧ e'.deadlineProcessedAt.isSome = true)
    (Restriction.within_any _) ?_ reach ⟨e, stored, processed⟩ onward
  rintro c c' _ _ _ _ _ _ _ _ _ ⟨before, here, processed⟩ effect
  obtain ⟨after, there, moves⟩ := effect.stored here
  exact ⟨after, there, moves.processed processed⟩

theorem execEnforceDeadline_idle (settings : Settings) (stored : s.db.executions.get executionId = some e)
    (idle : enforceDeadline e input.readings = .ok none) :
    Frame.exec settings (.enforceDeadline executionId) input s = .ok (s, []) := by
  simp only [Frame.exec, Frame.execEnforceDeadline, State.execution, stored, idle, bind, Except.bind, pure, Except.pure]

/-- The call of `enforce_deadline` on the stored execution does what it
promises: it commits, it leaves the execution alone or expires it, it leaves
alone what the deadline does not concern, and no second call changes anything,
after an expiry at no time and in no later state of the system. -/
def DeadlineEnforced (settings : Settings) (executionId : UUID) (input : Input) (s : State) (e : WorkflowExecution) :
    Prop :=
  ∃ s' pushed, Frame.exec settings (.enforceDeadline executionId) input s = .ok (s', pushed) ∧
    (e.status ∈ exemptStatuses → s' = s ∧ pushed = []) ∧
    ((s' = s ∧ pushed = [] ∧ ∀ again : Input, again.readings.now ≤ input.readings.now →
        Frame.exec settings (.enforceDeadline executionId) again s' = .ok (s', [])) ∨
      ∃ e' records, s' = s.savedExecution e' records ∧ e.Expired input.readings.now e' records ∧
        ∀ c' c'', Reachable settings c' → c'.state = s' → (orchestrator settings).Reach (fun _ _ => True) c' c'' →
          ∀ again : Input, Frame.exec settings (.enforceDeadline executionId) again c''.state = .ok (c''.state, []))

theorem isPastDeadline_mono {earlier later : Instant} (order : earlier ≤ later)
    (early : e.isPastDeadline later = false) : e.isPastDeadline earlier = false := by
  unfold isPastDeadline at early ⊢
  split at early
  · simp only [decide_eq_false_iff_not] at early ⊢
    exact fun late => early (late.trans order)
  · rfl

/-- A call before the deadline, or after the deadline was processed. -/
theorem deadlineEnforced_idle (stored : s.db.executions.get executionId = some e)
    (idle : e.isPastDeadline input.readings.now = false ∨ e.deadlineProcessedAt.isSome = true) :
    DeadlineEnforced settings executionId input s e := by
  have quiet : ∀ again : Input, again.readings.now ≤ input.readings.now →
      Frame.exec settings (.enforceDeadline executionId) again s = .ok (s, []) := by
    intro again order
    refine execEnforceDeadline_idle settings stored ?_
    rcases idle with early | processed
    · exact enforceDeadline_early (isPastDeadline_mono order early)
    · exact enforceDeadline_processed _ processed
  exact ⟨s, [], quiet input le_rfl, fun _ => ⟨rfl, rfl⟩, Or.inl ⟨rfl, rfl, quiet⟩⟩

/-- A call that expires the execution. -/
theorem deadlineEnforced_expires (stored : s.db.executions.get executionId = some e)
    (late : e.isPastDeadline input.readings.now = true) (unprocessed : e.deadlineProcessedAt = none)
    (expirable : e.status ∈ expirableStatuses) : DeadlineEnforced settings executionId input s e := by
  obtain ⟨e', records, run⟩ := (expire_isOk_iff e input.readings).mpr expirable
  have expired := expire_expired run unprocessed
  have decided : enforceDeadline e input.readings = .ok (some (e', records)) := by
    rw [enforceDeadline_late late unprocessed, run]
    rfl
  refine ⟨s.savedExecution e' records, if e'.status = .compensating then [.continueCompensation executionId] else [],
    ?_, ?_, Or.inr ⟨e', records, rfl, expired, ?_⟩⟩
  · simp only [Frame.exec, Frame.execEnforceDeadline, State.execution, stored, decided, bind, Except.bind, pure,
      Except.pure]
  · intro exempt
    simp only [exemptStatuses, expirableStatuses, List.mem_cons, List.not_mem_nil, or_false] at exempt expirable
    rcases expirable with status | status | status | status <;> simp [status] at exempt
  · intro c' c'' reach same onward again
    have here : c'.state.db.executions.get executionId = some e' := by
      rw [same]
      exact State.savedExecution_get (expired.id.trans (Table.get_key stored))
    obtain ⟨later, there, processed⟩ := processed_stays reach here (by simp [expired.processed]) onward
    exact execEnforceDeadline_idle settings there (enforceDeadline_processed _ processed)

namespace Sample

/-- The provider accepts the only step of a workflow with a deadline, and a
webhook reports its success; the hook has yet to settle the step. -/
def nearlyDone : List Action :=
  .spawn (start [stage "only" []] (some 50)) :: work 0 1 100 2 ++ work 0 2 200 3 ++
    answer 0 3 (answered .pending "op-1") :: work 0 4 300 5 ++
    .spawn (.processWebhook
      { provider := provider, normalizedStatus := .succeeded, providerReference := some "op-1" }) :: work 1 5 0 2

/-- A worker finds the deadline passed, and before it can act the hook settles
the step. -/
def settledFirst : List Action := nearlyDone ++ .spawn (.advance 100) :: work 2 60 0 1 ++ work 1 61 0 1

/-- The third task is about to enforce the deadline of the workflow. -/
def enforcesNext (c : Config) : Bool := match c.tasks[2]? with
  | some [Frame.enforceDeadline executionId] => executionId = 100
  | _ => false

theorem enforcesNext_iff (found : enforcesNext c = true) : c.tasks[2]? = some [.enforceDeadline 100] := by
  unfold enforcesNext at found
  split at found
  · rename_i executionId atTask
    rw [decide_eq_true_eq] at found
    rw [atTask, found]
  · cases found

/-- The call that raises because the execution cannot time out any more. -/
def refusesTimeout : Except Exn (State × List Frame) → Bool
  | .error (.invalidWorkflowTransition .succeeded .timedOut) => true
  | _ => false

theorem refusesTimeout_iff {outcome : Except Exn (State × List Frame)} (found : refusesTimeout outcome = true) :
    outcome = .error (.invalidWorkflowTransition .succeeded .timedOut) := by
  unfold refusesTimeout at found
  split at found
  · rfl
  · cases found

end Sample

end IntegrationOrchestrator
