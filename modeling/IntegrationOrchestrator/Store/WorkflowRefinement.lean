import IntegrationOrchestrator.Store
import IntegrationOrchestrator.Store.StaleWrites

namespace IntegrationOrchestrator

def WorkflowStepExecution.unversioned (step : WorkflowStepExecution) : WorkflowStepExecution :=
  { step with version := 0 }

def WorkflowExecution.unversioned (e : WorkflowExecution) : WorkflowExecution :=
  { e with version := 0, steps := e.steps.map (·.unversioned) }

namespace WorkflowTables

variable {t t' : WorkflowTables} {e e' : WorkflowExecution} {executionId : UUID}

theorem writtenStep_unversioned {step step' : WorkflowStepExecution} (later : step.Later step') :
    (writtenStep step step').unversioned = step'.unversioned := by
  have fixed := later.fixed
  simp only [WorkflowStepExecution.fixedColumns, Prod.mk.injEq] at fixed
  simp [writtenStep, WorkflowStepExecution.unversioned, fixed]

/-- What an update of a loaded execution does to each step row of the table,
which keep their order. -/
theorem update_stepRows (load : t.load executionId = some e) (later : e.Later e') (run : t.update e' = .ok t') :
    List.Forall₂ (fun row row' =>
      (row.workflowExecutionId = executionId ∧ ∃ step ∈ e'.steps, step.id = row.id ∧ row' = writtenStep row step) ∨
      (row.workflowExecutionId ≠ executionId ∧ row' = row)) t.steps.rows t'.steps.rows := by
  obtain ⟨id, ⟨row, stored, _⟩, steps⟩ := load_rows load .refl
  have distinct : (e'.steps.map (·.id)).Nodup := later.stepIds ▸ steps_distinct steps
  have known : ∀ step' ∈ e'.steps, ∃ step ∈ e.steps, t.steps.get step'.id = some step := by
    intro step' member
    obtain ⟨step, inside, after⟩ := Rows.forall₂_mem_right later.steps member
    exact ⟨step, inside, after.id ▸ steps_stored steps inside⟩
  have order := update_stepOrder distinct (fun step' member => (known step' member).imp fun _ found => found.2) run
  obtain ⟨_, written, others⟩ := update_rows ((later.id.trans id) ▸ stored) distinct run
  refine Rows.forall₂_imp_mem (Table.forall₂_get order) fun row inside row' found => ?_
  have here : t.steps.get row.id = some row := Table.mem_rows_iff.mp inside
  by_cases own : row.workflowExecutionId = executionId
  · have member : row ∈ e.steps := steps ▸ List.mem_filter.mpr ⟨inside, by simp [own]⟩
    obtain ⟨step, alike, after⟩ := Rows.forall₂_mem_left later.steps member
    rw [← after.id] at found here
    rw [written step alike row here] at found
    exact Or.inl ⟨own, step, alike, after.id, (Option.some.inj found).symm⟩
  · have outside : row.id ∉ e'.steps.map (·.id) := by
      intro listed
      obtain ⟨step', member, same⟩ := List.mem_map.mp listed
      obtain ⟨step, stepMember, found'⟩ := known step' member
      rw [same, here] at found'
      cases found'
      rw [steps] at stepMember
      exact own (by simpa using (List.mem_filter.mp stepMember).2)
    rw [others row.id outside, here] at found
    exact Or.inr ⟨own, (Option.some.inj found).symm⟩

/-- After an update the execution loads as the writer left it. -/
theorem load_update (load : t.load executionId = some e) (later : e.Later e') (run : t.update e' = .ok t') :
    (t'.load executionId).map (·.unversioned) = some e'.unversioned := by
  obtain ⟨row, stored, loaded⟩ := Option.map_eq_some_iff.mp load
  obtain ⟨id, _, steps⟩ := load_rows load .refl
  have sameId : e'.id = executionId := later.id.trans id
  have distinct : (e'.steps.map (·.id)).Nodup := later.stepIds ▸ steps_distinct steps
  obtain ⟨executions, _, _⟩ := update_rows (sameId ▸ stored) distinct run
  have key : row.id = executionId := Table.get_key stored
  have found : t'.executions.get executionId = some (writtenExecution row e') := by
    rw [executions, Table.get_put]
    exact if_pos key.symm
  -- the rows of the execution pair with what was loaded, and so with the writer's steps
  have paired : List.Forall₂ (fun step row' => ∃ step' ∈ e'.steps, step'.id = step.id ∧
      row' = writtenStep step step') e.steps (t'.steps.rows.filter (·.workflowExecutionId = executionId)) := by
    rw [steps]
    refine Rows.forall₂_imp_mem (List.rel_filter (fun row row' change => ?_) (update_stepRows load later run))
      fun row member row' change => ?_
    · rcases change with ⟨_, step, _, _, rfl⟩ | ⟨_, rfl⟩ <;> exact Iff.rfl
    · have own : row.workflowExecutionId = executionId := by simpa using (List.mem_filter.mp member).2
      rcases change with ⟨_, written⟩ | ⟨other, _⟩
      · exact written
      · exact absurd own other
  have same : (t'.steps.rows.filter (·.workflowExecutionId = executionId)).map (·.unversioned) =
      e'.steps.map (·.unversioned) := by
    refine Rows.forall₂_map_eq_map paired later.steps fun step row' step' member change after => ?_
    obtain ⟨twin, twinMember, twinId, rfl⟩ := change
    have sameStep : twin = step' := List.inj_on_of_nodup_map distinct twinMember member (twinId.trans after.id.symm)
    exact sameStep ▸ writtenStep_unversioned (sameStep ▸ after)
  have fixed := later.fixed
  rw [← loaded] at fixed
  simp only [WorkflowExecution.fixedColumns, workflowExecutionToDomain, Prod.mk.injEq] at fixed
  simp [WorkflowTables.load, found, WorkflowExecution.unversioned, workflowExecutionToDomain, writtenExecution, same, fixed]

end WorkflowTables

end IntegrationOrchestrator
