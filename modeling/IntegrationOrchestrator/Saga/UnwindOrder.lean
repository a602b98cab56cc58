import IntegrationOrchestrator.Saga.Walk

namespace IntegrationOrchestrator

open WorkflowExecution

variable {settings : Settings} {licence : Licence} {now : Instant} {frame : Frame} {s s' : State}
  {pushed : List Frame} {ev : Evidence} {e e' : WorkflowExecution} {step step' : WorkflowStepExecution}
  {c c' : Config} {executionId : UUID}

/-- The clock never reads earlier than a completion time already stored; every
clock that does not go backwards meets this. -/
abbrev ClockNotBehind : Restriction := .frames fun c input _ =>
  c.state.db.executions.rows.all fun e => e.steps.all fun step =>
    step.completedAt.all (· ≤ input.readings.now)

namespace WorkflowExecution

/-- The step with the key `later` names `earlier` as a dependency. -/
def DependsOn (e : WorkflowExecution) (later earlier : String) : Prop :=
  ∃ step ∈ e.steps, step.stepKey = later ∧ earlier ∈ step.dependsOn

/-- The succeeded steps carry a completion time that `now` has reached. -/
def Stamped (now : Instant) (e : WorkflowExecution) : Prop :=
  ∀ step ∈ e.steps, step.status = .succeeded → ∃ t, step.completedAt = some t ∧ t ≤ now

/-- No succeeded step completed before a succeeded step it depends on. -/
def Ordered (e : WorkflowExecution) : Prop :=
  ∀ later ∈ e.steps, ∀ earlier ∈ e.steps, Relation.TransGen e.DependsOn later.stepKey earlier.stepKey →
    later.status = .succeeded → earlier.status = .succeeded → completionTime earlier ≤ completionTime later

theorem DependsOn.of_same {steps : List WorkflowStepExecution} (each : List.Forall₂ SameStep e.steps steps)
    {later earlier : String} (depends : ({ e with steps := steps } : WorkflowExecution).DependsOn later earlier) :
    e.DependsOn later earlier := by
  obtain ⟨step', member, key, dependency⟩ := depends
  obtain ⟨step, inside, same⟩ := Rows.forall₂_mem_right each member
  exact ⟨step, inside, same.stepKey.symm.trans key, same.dependsOn ▸ dependency⟩

/-- A step that has started has all its transitive dependencies behind it. -/
theorem Sound.transitive_dependency (sound : Sound ev e) (member : step ∈ e.steps)
    (started : step.status ∉ [WorkflowStepStatus.pending, .cancelled]) {key : String}
    (depends : Relation.TransGen e.DependsOn step.stepKey key) :
    ∃ dep ∈ e.steps, dep.stepKey = key ∧ dep.status ∈ pastSuccess := by
  have single : ∀ {later : WorkflowStepExecution} {earlier : String}, later ∈ e.steps →
      later.status ∉ [WorkflowStepStatus.pending, .cancelled] → e.DependsOn later.stepKey earlier →
      ∃ dep ∈ e.steps, dep.stepKey = earlier ∧ dep.status ∈ pastSuccess := by
    rintro later earlier inside begun ⟨named, here, key, dependency⟩
    cases List.inj_on_of_nodup_map sound.keys here inside key
    obtain ⟨dep, found, past⟩ := sound.dependencies _ inside begun earlier dependency
    obtain ⟨atDep, sameKey, _⟩ := stepByKey_ok found
    exact ⟨dep, atDep, sameKey, past⟩
  induction depends with
  | single depends => exact single member started depends
  | tail _ depends ih =>
    obtain ⟨dep, inside, rfl, past⟩ := ih
    refine single inside ?_ depends
    simp only [pastSuccess, List.mem_cons, List.not_mem_nil, or_false] at past ⊢
    grind

theorem StepChange.into_succeeded (change : StepChange ev licence now e step step')
    (after : step'.status = .succeeded) : step' = step ∨
      (step.status ∈ [WorkflowStepStatus.running, .waiting] ∧ step'.completedAt = some now) := by
  cases change with
  | keep => exact Or.inl rfl
  | succeed active => exact Or.inr ⟨active, rfl⟩
  | link phase =>
    have unsettled : step.status = .succeeded := after
    simp [compensationPhase, unsettled] at phase
  | _ => simp [WorkflowStepExecution.started_status] at after

theorem Stamped.steps {steps : List WorkflowStepExecution} (stamped : Stamped now e)
    (each : List.Forall₂ (StepChange ev licence now e) e.steps steps) : Stamped now { e with steps := steps } := by
  intro step' member succeeded
  obtain ⟨step, inside, change⟩ := Rows.forall₂_mem_right each member
  rcases change.into_succeeded succeeded with rfl | ⟨_, stamp⟩
  · exact stamped step' inside succeeded
  · exact ⟨now, stamp, le_refl now⟩

/-- A step that succeeds now completes after everything that has succeeded, and
a step it depends on cannot succeed after it. -/
theorem Ordered.steps {steps : List WorkflowStepExecution} (ordered : e.Ordered) (sound : Sound ev e)
    (stamped : Stamped now e) (each : List.Forall₂ (StepChange ev licence now e) e.steps steps) :
    ({ e with steps := steps } : WorkflowExecution).Ordered := by
  have stamps := stamped.steps each
  have same : List.Forall₂ SameStep e.steps steps := each.imp fun _ _ change => change.same
  intro later' laterMember earlier' earlierMember depends laterSucceeded earlierSucceeded
  obtain ⟨later, laterInside, laterChange⟩ := Rows.forall₂_mem_right each laterMember
  obtain ⟨earlier, earlierInside, earlierChange⟩ := Rows.forall₂_mem_right each earlierMember
  have before : Relation.TransGen e.DependsOn later.stepKey earlier.stepKey := by
    rw [← laterChange.same.stepKey, ← earlierChange.same.stepKey]
    exact Relation.TransGen.mono (fun _ _ => DependsOn.of_same same) _ _ depends
  rcases laterChange.into_succeeded laterSucceeded with rfl | ⟨_, stamp⟩
  · obtain ⟨dep, inside, key, past⟩ :=
      sound.transitive_dependency laterInside (by simp [laterSucceeded]) before
    cases List.inj_on_of_nodup_map sound.keys inside earlierInside key
    rcases earlierChange.into_succeeded earlierSucceeded with rfl | ⟨active, _⟩
    · exact ordered later' laterInside earlier' earlierInside before laterSucceeded earlierSucceeded
    · simp only [pastSuccess, List.mem_cons, List.not_mem_nil, or_false] at past active
      grind
  · obtain ⟨t, completed, reached⟩ := stamps earlier' earlierMember earlierSucceeded
    have laterTime : completionTime later' = now := by rw [completionTime, stamp]; rfl
    have earlierTime : completionTime earlier' = t := by rw [completionTime, completed]; rfl
    rw [laterTime, earlierTime]
    exact reached

theorem Moves.ordered (moves : Moves ev licence now e e') (sound : Sound ev e) (stamped : Stamped now e)
    (ordered : e.Ordered) : Stamped now e' ∧ e'.Ordered := by
  refine (Moves.invariant (fun e => Sound ev e ∧ Stamped now e ∧ e.Ordered) ?_ moves ⟨sound, stamped, ordered⟩).2
  rintro e e' ⟨sound, stamped, ordered⟩ move
  refine ⟨sound.move move, ?_⟩
  cases move with
  | steps each => exact ⟨stamped.steps each, ordered.steps sound stamped each⟩
  | _ => exact ⟨stamped, ordered⟩

end WorkflowExecution

/-- Every succeeded step carries its completion time, and no succeeded step
completed before a succeeded step it depends on. -/
def State.InOrder (s : State) : Prop :=
  ∀ executionId e, s.db.executions.get executionId = some e → e.Ordered ∧
    ∀ step ∈ e.steps, step.status = .succeeded → ∃ t, step.completedAt = some t

theorem reachable_inOrder (reach : ReachableUnder settings ClockNotBehind c) : c.state.InOrder := by
  have within := Restriction.within_any ClockNotBehind
  refine stays State.InOrder within ?_ .start (by intro executionId e stored; simp [Config.initial] at stored) reach
  intro c c' task input frame rest pushed reach _ ok atTask held effect executionId e' stored
  have good := (reachable_good within reach).1
  have clock := Restriction.frames_run ok atTask
  simp only [List.all_eq_true, Option.all_eq_true, decide_eq_true_eq] at clock
  obtain ⟨e, origin, sound, moves⟩ := effect.before good stored
  have timely : Stamped input.readings.now e ∧ e.Ordered := by
    rcases origin with before | fresh
    · obtain ⟨ordered, stamped⟩ := held executionId e before
      refine ⟨fun step member succeeded => ?_, ordered⟩
      obtain ⟨t, completed⟩ := stamped step member succeeded
      exact ⟨t, completed, clock e (List.mem_of_find?_eq_some before) step member t completed⟩
    · have unfinished : ∀ step ∈ e.steps, step.status ≠ .succeeded := fun step member => by
        simp [(fresh.steps step member).1]
      exact ⟨fun step member succeeded => absurd succeeded (unfinished step member),
        fun later member _ _ _ succeeded => absurd succeeded (unfinished later member)⟩
  have after := moves.ordered sound timely.1 timely.2
  refine ⟨after.2, fun step member succeeded => ?_⟩
  obtain ⟨t, completed, _⟩ := after.1 step member succeeded
  exact ⟨t, completed⟩

theorem WorkflowExecution.StepChange.steady_succeeded (change : StepChange ev licence.steady now e step step')
    (succeeded : step.status = .succeeded) : step' = step := by
  cases change with
  | beginCompensation never => exact absurd never (fun never => never)
  | _ => simp_all [compensationPhase]

/-- Only the compensation walk begins the compensation of a step, and it takes
a step that completed last. -/
theorem Effect.begun_latest (effect : Effect licence now frame s s' pushed) (good : s.Good)
    (before : s.db.executions.get executionId = some e) (after : s'.db.executions.get executionId = some e')
    (member : step ∈ e.steps) (succeeded : step.status = .succeeded) (member' : step' ∈ e'.steps)
    (same : step'.id = step.id) (begun : step'.status = .compensating) :
    ∀ other ∈ e.steps, other.status = .succeeded → completionTime other ≤ completionTime step := by
  have ids := (good.sound executionId e before).ids
  have changed : step' ≠ step := by
    rintro rfl
    simp [succeeded] at begun
  -- the step was swapped, so it is the one that the transaction replaced
  have swapped : ∀ {old new : WorkflowExecution} {target made : WorkflowStepExecution},
      s.Replaced s' old new → StepReplaced old new target made → made.id = target.id →
      old = e ∧ target = step := by
    intro old new target made replaced swap sameId
    have here := after
    rw [replaced.get] at here
    split at here
    · rename_i sameExecution
      cases here
      cases (sameExecution ▸ before).symm.trans replaced.stored
      obtain ⟨origin, inside, kept | ⟨rfl, rfl⟩⟩ := Rows.forall₂_mem_right swap.steps member'
      · subst kept
        exact absurd (List.inj_on_of_nodup_map ids inside member same) changed
      · exact ⟨rfl, List.inj_on_of_nodup_map ids inside member (sameId.symm.trans same)⟩
    · cases before.symm.trans here
      exact absurd (List.inj_on_of_nodup_map ids member' member same) changed
  cases effect with
  | requests executions =>
    cases before.symm.trans (executions ▸ after)
    exact absurd (List.inj_on_of_nodup_map ids member' member same) changed
  | moves write _ _ moves =>
    rw [write.get] at after
    split at after
    · rename_i sameExecution
      cases after
      cases (sameExecution ▸ before).symm.trans write.stored
      have kept := moves.steps (R := fun old new => new.id = old.id ∧ (old.status = .succeeded → new = old))
        (fun _ => ⟨rfl, fun _ => rfl⟩)
        (fun a b c first second => ⟨second.1.trans first.1, fun status => by
          have middle := first.2 status
          rw [second.2 (middle ▸ status), middle]⟩)
        fun _ _ _ change => ⟨change.same.id, change.steady_succeeded⟩
      obtain ⟨origin, inside, sameId, unmoved⟩ := Rows.forall₂_mem_right kept member'
      cases List.inj_on_of_nodup_map ids inside member (sameId.symm.trans same)
      exact absurd (unmoved succeeded) changed
    · cases before.symm.trans after
      exact absurd (List.inj_on_of_nodup_map ids member' member same) changed
  | begins _ _ write _ _ _ _ _ latest swap =>
    obtain ⟨rfl, rfl⟩ := swapped write swap rfl
    exact latest
  | creates _ created _ ready _ swap =>
    obtain ⟨rfl, rfl⟩ := swapped created.toReplaced swap rfl
    simp [succeeded] at ready
  | compensates _ created _ phase _ swap =>
    obtain ⟨rfl, rfl⟩ := swapped created.toReplaced swap rfl
    simp [compensationPhase, succeeded] at phase
  | starts absent executions =>
    rw [executions, Table.get_put] at after
    split at after
    · rename_i sameExecution
      exact absurd ((sameExecution ▸ before).symm.trans absent) (by simp)
    · cases before.symm.trans after
      exact absurd (List.inj_on_of_nodup_map ids member' member same) changed

/-- The order of the unwind, on a clock that is never behind a stored completion
time: when the compensation of a step begins, no step that is still succeeded
completed later, and one that transitively depends on it completed at exactly
the same time. -/
theorem unwind_order {a : Action} (reach : ReachableUnder settings ClockNotBehind c) (ok : ClockNotBehind c a)
    (next : (orchestrator settings).next c a = some c')
    (before : c.state.db.executions.get executionId = some e)
    (after : c'.state.db.executions.get executionId = some e')
    (member : step ∈ e.steps) (succeeded : step.status = .succeeded)
    (member' : step' ∈ e'.steps) (same : step'.id = step.id) (begun : step'.status = .compensating) :
    ∀ other ∈ e.steps, other.status = .succeeded → completionTime other ≤ completionTime step ∧
      (Relation.TransGen e.DependsOn other.stepKey step.stepKey → completionTime other = completionTime step) := by
  have within := Restriction.within_any ClockNotBehind
  have good := (reachable_good within reach).1
  rcases next_effect within reach ok next with kept | ⟨task, input, frame, rest, pushed, _, _, effect⟩
  · rw [kept] at after
    cases before.symm.trans after
    cases List.inj_on_of_nodup_map (good.sound executionId e before).ids member' member same
    simp [succeeded] at begun
  · intro other inside still
    have latest := effect.begun_latest good before after member succeeded member' same begun other inside still
    refine ⟨latest, fun depends => le_antisymm latest ?_⟩
    exact (reachable_inOrder reach executionId e before).1 other inside step member depends still succeeded

namespace Sample

/-- Three steps in sequence: the first one succeeds at time 1, the second one at
the given time, and then the workflow is cancelled. -/
def sequence (completed : Instant) : List Action :=
  .spawn (start [stage "first" [], stage "second" ["first"], stage "third" ["second"]] none) :: work 0 1 100 2 ++
    work 0 1 200 3 ++ answer 0 1 (answered .succeeded "op-1") :: work 0 1 300 6 ++
    answer 0 1 (answered .succeeded "op-2") :: work 0 completed 400 3 ++
    .spawn (.cancelWorkflow 100 { type := .apiClient } none) :: work 1 5 0 1

/-- The compensation of the second step is accepted and still to be carried out. -/
def acceptedCompensation : List Action :=
  sequence 2 ++ work 1 5 500 3 ++ answer 1 6 (answered .pending "op-3") :: work 1 7 600 4

/-- The first step has succeeded, and the second one, which depends on it, and
the third one, which does not, are at the provider. -/
def atProvider : List Action :=
  .spawn (start [stage "first" [], stage "second" ["first"], stage "third" []] none) :: work 0 1 100 2 ++
    work 0 2 200 3 ++ answer 0 3 (answered .succeeded "op-1") :: work 0 4 300 6 ++
    .spawn (.advance 100) :: work 1 5 400 3

/-- The provider refuses the third step. -/
def thirdRefused : List Action := answer 1 6 (.refused refusal) :: work 1 7 0 3

/-- The second task does its next unit of work. -/
def walk : Action := .run 1 (input 8 0 .crashed)

/-- The walk begins the compensation of a step on which one with this status depends. -/
def walksPast (status : WorkflowStepStatus) (c : Config) : Bool :=
  decide (ClockNotBehind c walk) && ((orchestrator Sample.settings).next c walk).any fun (c' : Config) =>
    (c.state.db.executions.get 100).any fun e => (c'.state.db.executions.get 100).any fun e' =>
      e.steps.any fun step => step.status = .succeeded && e'.steps.any fun step' =>
        step'.id = step.id && step'.status = .compensating && e'.steps.any fun other =>
          step'.stepKey ∈ other.dependsOn && other.status = status

end Sample

/-- The walk begins to compensate a step while a step that depends on it is in
this status. -/
def Sample.UnwindsPast (status : WorkflowStepStatus) : Prop :=
  ∃ c c', ReachableUnder Sample.settings ClockNotBehind c ∧ ClockNotBehind c Sample.walk ∧
    (orchestrator Sample.settings).next c Sample.walk = some c' ∧
    ∃ e, c.state.db.executions.get 100 = some e ∧ ∃ e', c'.state.db.executions.get 100 = some e' ∧
      ∃ step ∈ e.steps, step.status = .succeeded ∧ ∃ step' ∈ e'.steps, step'.id = step.id ∧
        step'.status = .compensating ∧
        ∃ other ∈ e'.steps, step'.stepKey ∈ other.dependsOn ∧ other.status = status

theorem Sample.unwindsPast_of_replay {status : WorkflowStepStatus} (actions : List Action)
    (passes : ∃ c, (orchestrator Sample.settings).replay (fun c a => decide (ClockNotBehind c a)) Config.initial
      actions = some c ∧ Sample.walksPast status c = true) : Sample.UnwindsPast status := by
  obtain ⟨c, reach, found⟩ := reachableUnder_replay _ _ actions _ passes
  simp only [Sample.walksPast, Option.any_eq_true, List.any_eq_true, Bool.and_eq_true, decide_eq_true_eq] at found
  obtain ⟨ok, c', next, e, stored, e', after, step, member, succeeded, step', member', ⟨same, begun⟩, other,
    inside, depends, still⟩ := found
  exact ⟨c, c', reach, ok, next, e, stored, e', after, step, member, succeeded, step', member', same, begun,
    other, inside, depends, still⟩

/-- Compensation of a step begins while steps that depend on it are succeeded
(on equal completion times), running, waiting or being compensated. -/
theorem unwind_past_dependents : Sample.UnwindsPast .succeeded ∧ Sample.UnwindsPast .running ∧
    Sample.UnwindsPast .waiting ∧ Sample.UnwindsPast .compensating := by
  refine ⟨Sample.unwindsPast_of_replay (Sample.sequence 1) ?_,
    Sample.unwindsPast_of_replay (Sample.atProvider ++ Sample.thirdRefused) ?_,
    Sample.unwindsPast_of_replay (Sample.atProvider ++
      Sample.answer 0 5 (Sample.answered .pending "op-2") :: Sample.work 0 5 0 4 ++ Sample.thirdRefused) ?_,
    Sample.unwindsPast_of_replay Sample.acceptedCompensation ?_⟩ <;> decide

theorem unwind_order_sequence :
    ∃ c c', ReachableUnder Sample.settings ClockNotBehind c ∧
      (orchestrator Sample.settings).next c Sample.walk = some c' ∧
      ∃ e, c.state.db.executions.get 100 = some e ∧ ∃ step ∈ e.steps, step.stepKey = "first" ∧
        step.status = .succeeded ∧ ∀ other ∈ e.steps, other.status = .succeeded →
          completionTime other ≤ completionTime step ∧
          (Relation.TransGen e.DependsOn other.stepKey step.stepKey →
            completionTime other = completionTime step) := by
  obtain ⟨c, reach, found⟩ := reachableUnder_replay Sample.settings ClockNotBehind (Sample.sequence 1)
    (fun c => decide (ClockNotBehind c Sample.walk) &&
      ((orchestrator Sample.settings).next c Sample.walk).any fun (c' : Config) =>
        (c.state.db.executions.get 100).any fun e => (c'.state.db.executions.get 100).any fun e' =>
          e.steps.any fun step => step.stepKey = "first" && step.status = .succeeded && e'.steps.any fun step' =>
            step'.id = step.id && step'.status = .compensating) (by decide)
  simp only [Option.any_eq_true, List.any_eq_true, Bool.and_eq_true, decide_eq_true_eq] at found
  obtain ⟨ok, c', next, e, stored, e', after, step, member, ⟨key, succeeded⟩, step', member', same, begun⟩ := found
  exact ⟨c, c', reach, next, e, stored, step, member, key, succeeded,
    unwind_order reach ok next stored after member succeeded member' same begun⟩

end IntegrationOrchestrator
