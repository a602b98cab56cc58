import IntegrationOrchestrator.Domain.JsonFields
import IntegrationOrchestrator.Domain.Workflow

namespace IntegrationOrchestrator

/-- A row of `workflow_definitions`. The steps are one JSON column. -/
structure WorkflowDefinitionRow where
  id : UUID
  name : String
  version : Int
  steps : List Json
  immutable : Bool
  createdAt : Instant

/-- `_step_def_to_json`. -/
def stepDefToJson (step : WorkflowStepDefinition) : Payload :=
  [("key", .str step.key), ("provider", .str step.provider), ("operation_type", .str step.operationType.value),
    ("depends_on", .arr (step.dependsOn.map .str)),
    ("compensate_operation", .ofText (step.compensateOperation.map (·.value))),
    ("wait_for_webhook", .bool step.waitForWebhook), ("max_attempts", .int step.maxAttempts),
    ("payload_template", .obj step.payloadTemplate)]

/-- `tuple(value or ())`. -/
def readNames : Option Json → Except Exn (List String)
  | some (.arr items) => items.mapM Json.text
  | some value => if value.truth then .error .typeError else .ok []
  | none => .ok []

/-- `dict(value or {})`. -/
def readTemplate : Option Json → Except Exn Payload
  | some (.obj fields) => .ok fields
  | some value => if value.truth then .error .typeError else .ok []
  | none => .ok []

/-- `OperationType(value) if value else None`. -/
def readOperation : Option Json → Except Exn (Option OperationType)
  | none => .ok none
  | some value =>
    if value.truth then (value.member OperationType.members OperationType.value).map some else .ok none

/-- `_step_def_from_json`. -/
def stepDefFromJson (raw : Payload) : Except Exn WorkflowStepDefinition := do
  let key ← (← raw.item "key").text
  let provider ← (← raw.item "provider").text
  let operationType ← (← raw.item "operation_type").member OperationType.members OperationType.value
  let dependsOn ← readNames (raw.get "depends_on")
  let compensateOperation ← readOperation (raw.get "compensate_operation")
  let maxAttempts ← ((raw.get "max_attempts").getD (.int 3)).integer
  let payloadTemplate ← readTemplate (raw.get "payload_template")
  return { key := key, provider := provider, operationType := operationType, dependsOn := dependsOn
           compensateOperation := compensateOperation
           waitForWebhook := ((raw.get "wait_for_webhook").getD (.bool false)).truth
           maxAttempts := maxAttempts, payloadTemplate := payloadTemplate }

/-- A step of the column, which has to be an object. -/
def readStep : Json → Except Exn WorkflowStepDefinition
  | .obj raw => stepDefFromJson raw
  | _ => .error .typeError

def workflowDefinitionToDomain (row : WorkflowDefinitionRow) : Except Exn WorkflowDefinition := do
  let steps ← row.steps.mapM readStep
  return { id := row.id, name := row.name, version := row.version, steps := steps, createdAt := row.createdAt
           immutable := row.immutable }

def workflowDefinitionToRow (definition : WorkflowDefinition) : WorkflowDefinitionRow :=
  { id := definition.id, name := definition.name, version := definition.version
    steps := definition.steps.map fun step => .obj (stepDefToJson step), immutable := definition.immutable
    createdAt := definition.createdAt }

/-! ### What comes back -/

/-- The step without its timeout, for which the JSON has no key. -/
def WorkflowStepDefinition.untimed (step : WorkflowStepDefinition) : WorkflowStepDefinition :=
  { step with timeoutSeconds := none }

theorem readNames_names (names : List String) : readNames (some (.arr (names.map .str))) = .ok names := by
  induction names with
  | nil => rfl
  | cons name rest ih =>
    simp only [readNames] at ih
    simp [readNames, List.mapM_cons, ih, Bind.bind, Except.bind, Pure.pure, Except.pure]

theorem readOperation_value (operation : Option OperationType) :
    readOperation (some (.ofText (operation.map (·.value)))) = .ok operation := by
  cases operation with
  | none => rfl
  | some operation => cases operation <;> rfl

/-- A step comes back with everything but its timeout. -/
theorem stepDefFromJson_stepDefToJson (step : WorkflowStepDefinition) :
    stepDefFromJson (stepDefToJson step) = .ok step.untimed := by
  have operation := Json.member_value (OperationType.memberOf_value step.operationType)
  simp [stepDefFromJson, stepDefToJson, Payload.item, Payload.get_cons, operation, readNames_names,
    readOperation_value, readTemplate, Json.truth, WorkflowStepDefinition.untimed, Bind.bind, Except.bind, Pure.pure,
    Except.pure]

theorem readSteps_steps (steps : List WorkflowStepDefinition) :
    (steps.map fun step => Json.obj (stepDefToJson step)).mapM readStep = .ok (steps.map (·.untimed)) := by
  induction steps with
  | nil => rfl
  | cons step rest ih =>
    simp [List.mapM_cons, readStep, stepDefFromJson_stepDefToJson, ih, Bind.bind, Except.bind, Pure.pure, Except.pure]

/-- A definition comes back with every timeout dropped. -/
theorem workflowDefinitionToDomain_toRow (definition : WorkflowDefinition) :
    workflowDefinitionToDomain (workflowDefinitionToRow definition) =
      .ok { definition with steps := definition.steps.map (·.untimed) } := by
  simp only [workflowDefinitionToDomain, workflowDefinitionToRow, readSteps_steps]
  rfl

theorem map_untimed_iff {steps : List WorkflowStepDefinition} :
    steps.map (·.untimed) = steps ↔ ∀ step ∈ steps, step.timeoutSeconds = none := by
  have unchanged : ∀ step : WorkflowStepDefinition, step.untimed = step ↔ step.timeoutSeconds = none := by
    intro step
    cases step
    simp [WorkflowStepDefinition.untimed, eq_comm]
  conv_lhs => rw [← List.map_id' steps, List.map_map]
  rw [List.map_inj_left]
  exact forall₂_congr fun step _ => unchanged step

/-- A definition survives persistence exactly if none of its steps has a
timeout. -/
theorem definition_survives_iff (definition : WorkflowDefinition) :
    workflowDefinitionToDomain (workflowDefinitionToRow definition) = .ok definition ↔
      ∀ step ∈ definition.steps, step.timeoutSeconds = none := by
  rw [workflowDefinitionToDomain_toRow, ← map_untimed_iff]
  constructor
  · intro same
    exact congrArg WorkflowDefinition.steps (Except.ok.inj same)
  · intro steps
    rw [steps]

namespace Sample

/-- One step that must be done within half a minute. -/
def timedDefinition : WorkflowDefinition :=
  { id := 1, name := "onboarding", version := 1, createdAt := 0
    steps := [{ key := "provision", provider := "northstar", operationType := .resourceProvision
                timeoutSeconds := some 30 }] }

end Sample

/-- A step's timeout is gone once its definition was stored. -/
theorem definition_loses_timeout :
    ∃ loaded, workflowDefinitionToDomain (workflowDefinitionToRow Sample.timedDefinition) = .ok loaded ∧
      Sample.timedDefinition.steps.map (·.timeoutSeconds) = [some 30] ∧
      loaded.steps.map (·.timeoutSeconds) = [none] :=
  ⟨_, workflowDefinitionToDomain_toRow Sample.timedDefinition, rfl, rfl⟩

end IntegrationOrchestrator
