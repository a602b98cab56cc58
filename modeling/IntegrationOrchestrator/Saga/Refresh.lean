import IntegrationOrchestrator.Saga.Refinement

namespace IntegrationOrchestrator

namespace WorkflowOrchestrator

open WorkflowExecution

variable {t t' : Readings} {e e' : WorkflowExecution} {records : List WorkflowRecord}
  {step step' : WorkflowStepExecution}

/-- The status of an execution agrees with its steps: refreshing it would
change nothing. -/
structure Refreshed (e : WorkflowExecution) : Prop where
  failed : ∀ step ∈ e.steps, step.status = .failed →
    e.status ∉ [WorkflowStatus.created, .queued, .running, .waiting, .retryScheduled]
  running : e.status = .running → (∀ step ∈ e.steps, step.status ≠ .waiting) ∧
    ∃ step ∈ e.steps, step.status ≠ .succeeded
  waiting : e.status = .waiting → ∃ step ∈ e.steps, step.status = .waiting

/-- Away from its forward phase every execution is refreshed. -/
theorem Refreshed.of_status (status : e.status ∉ [WorkflowStatus.created, .queued, .running, .waiting, .retryScheduled]) :
    Refreshed e := by
  refine ⟨fun _ _ _ => status, ?_, ?_⟩
  · intro running
    simp [running] at status
  · intro waiting
    simp [waiting] at status

theorem promoteReadySteps_each {at' : Instant} (run : e.promoteReadySteps at' = .ok e') :
    e' = { e with steps := e'.steps } ∧ List.Forall₂ (fun old new => new = old ∨
      (old.status = .pending ∧ new = old.moved .ready at')) e.steps e'.steps := by
  obtain ⟨steps, each, done⟩ := Rows.bind_eq_ok.mp run
  cases done
  refine ⟨rfl, (Rows.mapM_ok_iff.mp each).imp fun step step' change => ?_⟩
  split at change
  · rename_i pending
    obtain ⟨satisfied, _, change⟩ := Rows.bind_eq_ok.mp change
    split at change
    · obtain ⟨_, rfl⟩ := WorkflowStepExecution.perform_transitionTo_ok change
      exact Or.inr ⟨pending, rfl⟩
    · cases change
      exact Or.inl rfl
  · cases change
    exact Or.inl rfl

theorem promoteReadySteps_keeps {at' : Instant} (run : e.promoteReadySteps at' = .ok e')
    (status : WorkflowStepStatus) (other : status ≠ .ready) (none : ∀ step ∈ e.steps, step.status ≠ status) :
    ∀ step ∈ e'.steps, step.status ≠ status := by
  intro step' member
  obtain ⟨step, inside, same | ⟨_, moved⟩⟩ := Rows.forall₂_mem_right (promoteReadySteps_each run).2 member
  · rw [same]
    exact none step inside
  · rw [moved]
    exact other.symm

/-- A refreshed execution is left as it is. -/
theorem Refreshed.refresh (fixed : Refreshed e) (t : Readings) : refreshExecutionStatus e t = .ok (e, []) := by
  unfold refreshExecutionStatus
  split
  · rfl
  · rename_i live
    have noUnwind : ¬ ((e.steps.any (·.status = .failed) && e.status ∉ [.compensating, .compensated,
        .manualReview, .failed, .timedOut, .cancelled]) = true) := by
      intro unwinds
      simp only [Bool.and_eq_true, List.any_eq_true, decide_eq_true_eq] at unwinds
      obtain ⟨⟨step, member, failed⟩, status⟩ := unwinds
      have elsewhere := fixed.failed step member failed
      cases here : e.status <;> simp_all
    have noWait : ¬ ((e.anyWaiting && e.status = .running) = true) := by
      intro waits
      simp only [Bool.and_eq_true, anyWaiting, List.any_eq_true, decide_eq_true_eq] at waits
      obtain ⟨⟨step, member, waiting⟩, running⟩ := waits
      exact (fixed.running running).1 step member waiting
    have resumed : resumeRunning e t.refreshedAt = .ok e := by
      unfold resumeRunning
      rw [if_neg]
      intro resumes
      simp only [Bool.and_eq_true, decide_eq_true_eq, anyWaiting, Bool.not_eq_true, List.any_eq_false] at resumes
      obtain ⟨step, member, waiting⟩ := fixed.waiting resumes.1.1
      exact absurd waiting (resumes.1.2 step member)
    have complete : completeIfSucceeded e t = .ok (e, []) := by
      unfold completeIfSucceeded
      rw [if_neg]
      intro completes
      simp only [Bool.and_eq_true, decide_eq_true_eq, allForwardSucceeded, List.all_eq_true] at completes
      obtain ⟨step, member, unfinished⟩ := (fixed.running completes.2).2
      exact unfinished (completes.1 step member)
    rw [if_neg noUnwind, if_neg noWait, resumed]
    exact complete

theorem completeIfSucceeded_refreshed (run : completeIfSucceeded e t = .ok (e', records))
    (otherwise : (e.status = .running → ∃ step ∈ e.steps, step.status ≠ .succeeded) → Refreshed e) :
    Refreshed e' := by
  unfold completeIfSucceeded at run
  split at run
  · obtain ⟨_, rfl⟩ := movedTo_ok run
    exact .of_status (by simp)
  · rename_i incomplete
    cases run
    refine otherwise fun running => ?_
    simp only [Bool.and_eq_true, decide_eq_true_eq, allForwardSucceeded, List.all_eq_true] at incomplete
    by_contra all
    push Not at all
    exact incomplete ⟨all, running⟩

/-- `_refresh_execution_status` brings the status in line with the steps. -/
theorem refreshExecutionStatus_refreshed (run : refreshExecutionStatus e t = .ok (e', records)) :
    Refreshed e' := by
  unfold refreshExecutionStatus at run
  split at run
  · rename_i ended
    cases run
    refine .of_status ?_
    simp only [List.mem_cons, List.not_mem_nil, or_false] at ended ⊢
    grind
  · split at run
    · obtain ⟨_, rfl⟩ := movedTo_ok run
      exact .of_status (by simp)
    · rename_i calm
      have failed : ∀ step ∈ e.steps, step.status = .failed →
          e.status ∉ [WorkflowStatus.created, .queued, .running, .waiting, .retryScheduled] := by
        intro step member failed
        have some : e.steps.any (·.status = .failed) = true := List.any_eq_true.mpr ⟨step, member, by simp [failed]⟩
        rw [some, Bool.true_and, decide_eq_true_eq, not_not] at calm
        simp only [List.mem_cons, List.not_mem_nil, or_false] at calm ⊢
        grind
      split at run
      · rename_i waits
        simp only [Bool.and_eq_true, anyWaiting, List.any_eq_true, decide_eq_true_eq] at waits
        obtain ⟨_, rfl⟩ := movedTo_ok run
        refine ⟨fun step member status => ?_, by simp, fun _ => waits.1⟩
        simpa [waits.2] using failed step member status
      · rename_i noWait
        obtain ⟨resumed, first, second⟩ := Rows.bind_eq_ok.mp run
        refine completeIfSucceeded_refreshed second fun unfinished => ?_
        unfold resumeRunning at first
        split at first
        · rename_i resumes
          simp only [Bool.and_eq_true, decide_eq_true_eq, anyWaiting, Bool.not_eq_true, List.any_eq_false]
            at resumes
          obtain ⟨⟨_, noneWaiting⟩, noneFailed⟩ := resumes
          obtain ⟨running, moved, promoted⟩ := Rows.bind_eq_ok.mp first
          obtain ⟨_, rfl⟩ := perform_transitionTo_ok moved
          have status : resumed.status = .running := by rw [(promoteReadySteps_each promoted).1]; rfl
          have noFailed := promoteReadySteps_keeps promoted .failed (by simp) noneFailed
          have noWaiting := promoteReadySteps_keeps promoted .waiting (by simp) noneWaiting
          refine ⟨fun step member failed => absurd failed (noFailed step member),
            fun running => ⟨noWaiting, unfinished running⟩, fun waiting => ?_⟩
          exact absurd (status.symm.trans waiting) (by simp)
        · rename_i stays
          cases first
          simp only [Bool.and_eq_true, anyWaiting, List.any_eq_true, decide_eq_true_eq, not_and]
            at noWait
          refine ⟨failed, fun running => ⟨fun step member waiting => ?_, unfinished running⟩, fun waiting => ?_⟩
          · exact noWait ⟨step, member, waiting⟩ running
          · by_contra none
            push Not at none
            refine stays ?_
            simp only [Bool.and_eq_true, decide_eq_true_eq, anyWaiting, Bool.not_eq_true, List.any_eq_false]
            refine ⟨⟨waiting, none⟩, fun step member status => ?_⟩
            simpa [waiting] using failed step member status

/-- A refresh touches no step but to promote it. -/
theorem refreshExecutionStatus_steps (run : refreshExecutionStatus e t = .ok (e', records)) :
    List.Forall₂ (fun old new => new = old ∨ (old.status = .pending ∧ new = old.moved .ready t.refreshedAt))
      e.steps e'.steps := by
  have same : ∀ steps : List WorkflowStepExecution, List.Forall₂ (fun old new => new = old ∨
      (old.status = .pending ∧ new = old.moved .ready t.refreshedAt)) steps steps :=
    fun steps => List.forall₂_same.mpr fun step _ => Or.inl rfl
  unfold refreshExecutionStatus at run
  split at run
  · cases run
    exact same _
  · split at run
    · obtain ⟨_, rfl⟩ := movedTo_ok run
      exact same _
    · split at run
      · obtain ⟨_, rfl⟩ := movedTo_ok run
        exact same _
      · obtain ⟨resumed, first, second⟩ := Rows.bind_eq_ok.mp run
        have kept : e'.steps = resumed.steps := by
          unfold completeIfSucceeded at second
          split at second
          · obtain ⟨_, rfl⟩ := movedTo_ok second
            rfl
          · cases second
            rfl
        rw [kept]
        unfold resumeRunning at first
        split at first
        · obtain ⟨running, moved, promoted⟩ := Rows.bind_eq_ok.mp first
          obtain ⟨_, rfl⟩ := perform_transitionTo_ok moved
          exact (promoteReadySteps_each promoted).2
        · cases first
          exact same _

end WorkflowOrchestrator

end IntegrationOrchestrator
