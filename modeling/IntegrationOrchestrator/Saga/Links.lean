import IntegrationOrchestrator.Dispatch.Tracking
import IntegrationOrchestrator.Saga.Runs

namespace IntegrationOrchestrator

open WorkflowExecution

variable {settings : Settings} {licence : Licence} {input : Input} {now : Instant} {frame : Frame} {s s' : State}
  {pushed : List Frame} {ev ev' : Evidence} {e e' : WorkflowExecution} {step step' : WorkflowStepExecution} {c : Config}
  {executionId requestId : UUID}

/-- Whatever request stands as the step's compensation request was created
for the step. -/
def WorkflowStepExecution.Owns (ev : Evidence) (step : WorkflowStepExecution) : Prop :=
  ∀ requestId, step.compensationRequestId = some requestId → ∃ role, ev.created role step.id requestId

theorem WorkflowExecution.StepChange.owns (change : StepChange ev licence now e step step') (sound : Sound ev e)
    (member : step ∈ e.steps) (held : step.Owns ev) : step'.Owns ev := by
  have forward := sound.forwardLinks step member
  intro requestId link
  cases change with
  | link phase origin =>
    cases link
    exact ⟨.compensation, origin⟩
  | compensate status origin settled =>
    cases link
    exact ⟨.compensation, origin⟩
  | release => cases link
  | lateSuccess late status integration =>
    cases link
    exact ⟨.forward, forward _ integration⟩
  | _ => exact held requestId link

theorem WorkflowExecution.Moves.owns (moves : Moves ev licence now e e') (sound : Sound ev e)
    (held : ∀ step ∈ e.steps, step.Owns ev) : ∀ step ∈ e'.steps, step.Owns ev := by
  induction moves with
  | refl => exact held
  | tail before move ih =>
    have sound := sound.moves before
    cases move with
    | steps each =>
      intro step' member
      obtain ⟨step, inside, change⟩ := Rows.forall₂_mem_right each member
      exact change.owns sound inside (ih step inside)
    | _ => exact ih

/-- No two creations share a request, and every request that was created is
stored. -/
structure State.CreatedOnce (s : State) : Prop where
  stored : ∀ role executionId stepId requestId, Event.created role executionId stepId requestId ∈ s.history →
    ∃ q, s.db.requests.get requestId = some q
  once : ∀ role executionId stepId role' executionId' stepId' requestId,
    Event.created role executionId stepId requestId ∈ s.history →
    Event.created role' executionId' stepId' requestId ∈ s.history → executionId = executionId' ∧ stepId = stepId'

theorem State.CreatedOnce.keep (held : s.CreatedOnce) (effect : Effect licence now frame s s' pushed)
    (requests : RequestStep settings input frame s s' pushed) : s'.CreatedOnce where
  stored := by
    intro role executionId stepId requestId made
    rcases effect.created_origin made with old | ⟨_, _, _, _, _, fresh, history, _⟩
    · obtain ⟨q, found⟩ := held.stored _ _ _ _ old
      obtain ⟨q', after, _⟩ := requests.stored found
      exact ⟨q', after⟩
    · -- only the frame that stores a request records its creation
      cases requests with
      | creates _ _ _ _ stored extended only =>
        have same := List.append_cancel_left (extended.symm.trans history)
        obtain ⟨_, _, _, event⟩ := only _ (same ▸ List.mem_singleton.mpr rfl)
        cases event
        exact ⟨_, by rw [stored]; exact Table.get_put_self _ _⟩
      | calls _ _ _ extended => simp [extended] at history
      | retries _ _ _ extended => simp [extended] at history
      | _ => simp_all
  once := by
    intro role executionId stepId role' executionId' stepId' requestId made made'
    rcases effect.created_origin made with old | ⟨_, _, _, _, _, fresh, history, _⟩
    · rcases effect.created_origin made' with old' | ⟨_, _, _, _, _, fresh, _⟩
      · exact held.once _ _ _ _ _ _ _ old old'
      · obtain ⟨q, found⟩ := held.stored _ _ _ _ old
        exact absurd (fresh.symm.trans found) (by simp)
    · rcases effect.created_origin made' with old' | ⟨_, _, _, _, _, _, history', _⟩
      · obtain ⟨q, found⟩ := held.stored _ _ _ _ old'
        exact absurd (fresh.symm.trans found) (by simp)
      · have same := List.append_cancel_left (history.symm.trans history')
        simp only [List.cons.injEq, Event.created.injEq] at same
        exact ⟨same.1.2.1, same.1.2.2.1⟩
/-- Over every run, creations are unique and every step owns its links. -/
theorem reachable_owns (reach : Reachable settings c) : c.state.CreatedOnce ∧
    ∀ executionId e, c.state.db.executions.get executionId = some e →
      ∀ step ∈ e.steps, step.Owns (c.state.evidence executionId) := by
  refine reach.state_invariant (fun s => s.CreatedOnce ∧ ∀ executionId e, s.db.executions.get executionId = some e →
    ∀ step ∈ e.steps, step.Owns (s.evidence executionId)) ?_ ?_
  · exact ⟨⟨by simp [Config.initial], by simp [Config.initial]⟩, by simp [Config.initial]⟩
  · rintro c task input frame rest state pushed reached ⟨once, owns⟩ ok atTask ran
    obtain ⟨good, asserts⟩ := reachable_good (Restriction.within_any _) reached
    have top := asserts frame (TaskPool.mem_frames_top atTask)
    have effect := (Frame.effect good top (Restriction.within_any (fun _ _ => True) _ task input frame rest ok atTask) ran).1
    refine ⟨once.keep effect (Frame.requestStep ran), fun executionId e' after => ?_⟩
    obtain ⟨e, origin, sound, moves⟩ := effect.before good after
    refine moves.owns sound fun step member requestId link => ?_
    rcases origin with before | fresh
    · obtain ⟨role, made⟩ := owns executionId e before step member requestId link
      exact ⟨role, effect.recalls made⟩
    · simp [(fresh.steps step member).2.2.1] at link

section linked

variable (reach : Reachable settings c) (stored : c.state.db.executions.get executionId = some e)
  (member : step ∈ e.steps) (link : Database.linksRequest requestId step = true)

include reach stored member link

/-- A request a step is linked to was created for it. -/
theorem linked_created : ∃ role, Event.created role executionId step.id requestId ∈ c.state.history := by
  have sound := (reachable_good (Restriction.within_any _) reach).1.sound executionId e stored
  simp only [Database.linksRequest, Bool.or_eq_true, decide_eq_true_eq] at link
  rcases link with forward | compensation
  · exact ⟨.forward, sound.forwardLinks step member requestId forward⟩
  · exact (reachable_owns reach).2 executionId e stored step member requestId compensation

theorem linked_unique {executionId' : UUID} (stored' : c.state.db.executions.get executionId' = some e')
    (member' : step' ∈ e'.steps) (link' : Database.linksRequest requestId step' = true) : e' = e ∧ step' = step := by
  obtain ⟨role, made⟩ := linked_created reach stored member link
  obtain ⟨role', made'⟩ := linked_created reach stored' member' link'
  obtain ⟨rfl, sameStep⟩ := (reachable_owns reach).1.once _ _ _ _ _ _ _ made' made
  cases stored.symm.trans stored'
  have sound := (reachable_good (Restriction.within_any _) reach).1.sound _ e stored
  exact ⟨rfl, List.inj_on_of_nodup_map sound.ids member' member sameStep⟩

/-- `find_by_request_id` finds the execution of a linked step. -/
theorem executionByRequestId_linked : c.state.db.executionByRequestId requestId = .ok (some e) := by
  have row : ∀ {other}, other ∈ c.state.db.executions.rows → c.state.db.executions.get other.id = some other :=
    fun inside => Table.mem_rows_iff.mp inside
  have here : e ∈ c.state.db.executions.rows := Table.mem_of_get stored
  have sound := (reachable_good (Restriction.within_any _) reach).1.sound _ e stored
  have single := Rows.filter_flatMap_single WorkflowExecution.steps c.state.db.executions.unique.of_map
    here sound.ids.of_map member link fun other inside piece there links =>
      linked_unique reach stored member link (row inside) there links
  have found : c.state.db.executions.rows.find? (·.steps.any (Database.linksRequest requestId)) = some e := by
    refine Rows.find?_only here (List.any_eq_true.mpr ⟨step, member, link⟩) fun other inside links => ?_
    obtain ⟨piece, there, links⟩ := List.any_eq_true.mp links
    exact (linked_unique reach stored member link (row inside) there links).1
  simp only [Database.executionByRequestId, single, found]

/-- The step a settled request acts on. -/
theorem find_linked : e.steps.find? (Database.linksRequest requestId) = some step :=
  Rows.find?_only member link fun _ inside links => (linked_unique reach stored member link stored inside links).2

end linked

end IntegrationOrchestrator
