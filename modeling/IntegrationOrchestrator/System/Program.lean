import IntegrationOrchestrator.System.RequestFrames
import IntegrationOrchestrator.System.WorkflowFrames

namespace IntegrationOrchestrator

namespace Frame

def exec (settings : Settings) : Frame → Input → State → Step
  | .startWorkflow command, _, s => execStartWorkflow command s
  | .createExecution command, input, s => execCreateExecution command input s
  | .claimRunnable executionId, input, s => execClaimRunnable settings executionId input s
  | .advance executionId, input, s => execAdvance executionId input s
  | .runForwardStep executionId stepId, input, s => execRunForwardStep executionId stepId input s
  | .settleForward executionId stepId requestId dispatched, input, s =>
    execSettleForward executionId stepId requestId dispatched input s
  | .advanceFinish executionId, input, s => execAdvanceFinish executionId input s
  | .enforceDeadline executionId, input, s => execEnforceDeadline executionId input s
  | .cancelWorkflow executionId actor reason, input, s => execCancelWorkflow executionId actor reason input s
  | .onRequestTerminal requestId, _, s => execOnRequestTerminal requestId s
  | .settleTerminal executionId request, input, s => execSettleTerminal executionId request input s
  | .continueCompensation executionId, input, s => execContinueCompensation executionId input s
  | .compensateStep executionId stepId, input, s => execCompensateStep executionId stepId input s
  | .settleCompensation executionId stepId requestId dispatched, input, s =>
    execSettleCompensation executionId stepId requestId dispatched input s
  | .createRequest command, input, s => execCreateRequest settings command input s
  | .dispatch requestId caller, input, s => execDispatch requestId caller input s
  | .callProvider request caller, input, s => execCallProvider settings request caller input s
  | .settleAttempt request result caller, input, s =>
    execSettleAttempt settings request result caller input s
  | .claimRetry requestId, input, s => execClaimRetry requestId input s
  | .retryRequest requestId actor, input, s => execRetryRequest requestId actor input s
  | .cancelRequest requestId reason actor, input, s =>
    execCancelRequest settings requestId reason actor input s
  | .settleCancellation requestId _ reason actor result, input, s =>
    execSettleCancellation requestId reason actor result input s
  | .findStale requestId, input, s => execFindStale settings requestId input s
  | .reconcile request, input, s => execReconcile settings request input s
  | .applyProviderState request result, input, s => execApplyProviderState request result input s
  | .escalateRequest request reason, input, s => execEscalateRequest request reason input s
  | .processWebhook event, input, s => execProcessWebhook event input s
  | .hookGuard, _, s => .ok (s, [])
  | .raise e, _, _ => .error e

/-- What an API call, a worker pass or a delivered notification starts with. -/
def isEntry : Frame → Bool
  | .startWorkflow _ | .claimRunnable _ | .advance _ | .enforceDeadline _ | .cancelWorkflow _ _ _
  | .onRequestTerminal _ | .continueCompensation _ | .createRequest _ | .claimRetry _
  | .retryRequest _ _ | .cancelRequest _ _ _ | .findStale _ | .processWebhook _ => true
  | _ => false

def isGuard : Frame → Bool
  | .hookGuard => true
  | _ => false

end Frame

/-- The orchestrator as the composition root wires it: any number of API
calls, workers and notifications, interleaved between transactions. -/
def orchestrator (settings : Settings) : TaskPool.Program State Frame Input Exn :=
  { exec := Frame.exec settings, entry := Frame.isEntry, catches := Frame.isGuard }

abbrev Config := TaskPool.Config State Frame

abbrev Action := TaskPool.Action Frame Input

/-- An empty database and no work in flight. -/
def Config.initial : Config := { state := {}, tasks := [] }

/-- A restriction on the actions of a run. -/
abbrev Restriction := Config → Action → Prop

/-- The configurations some run of the orchestrator reaches, from an empty
database, by actions that meet the restriction. -/
abbrev ReachableUnder (settings : Settings) (allowed : Restriction) : Config → Prop :=
  (orchestrator settings).Reach allowed Config.initial

/-- The runs in which every frame passes a test where it runs. -/
def Restriction.frames (ok : Config → Input → Frame → Bool) : Restriction := fun c a =>
  (c.scheduled a).all (fun next => ok c next.2 next.1) = true

instance (ok : Config → Input → Frame → Bool) (c : Config) (a : Action) : Decidable (Restriction.frames ok c a) :=
  inferInstanceAs (Decidable (_ = true))

theorem Restriction.frames_run {ok : Config → Input → Frame → Bool} {c : Config} {task : Nat} {input : Input}
    {frame : Frame} {rest : List Frame} (allowed : Restriction.frames ok c (.run task input))
    (atTask : c.tasks[task]? = some (frame :: rest)) : ok c input frame = true := by
  simpa [Restriction.frames, TaskPool.Config.scheduled, atTask] using allowed

/-- Every interleaving. -/
abbrev Reachable (settings : Settings) : Config → Prop := ReachableUnder settings fun _ _ => True

/-- A run that can be replayed to a configuration that passes a test. -/
theorem reachable_replay (settings : Settings) (actions : List Action) (test : Config → Prop)
    (passes : ∃ c, (orchestrator settings).replay (fun _ _ => true) Config.initial actions = some c ∧ test c) :
    ∃ c, Reachable settings c ∧ test c :=
  TaskPool.Program.Reach.replayed (fun _ _ _ => trivial) passes

theorem reachableUnder_replay (settings : Settings) (allowed : Restriction) [∀ c a, Decidable (allowed c a)]
    (actions : List Action) (test : Config → Prop)
    (passes : ∃ c, (orchestrator settings).replay (fun c a => decide (allowed c a)) Config.initial actions = some c ∧
      test c) : ∃ c, ReachableUnder settings allowed c ∧ test c :=
  TaskPool.Program.Reach.replayed (fun _ _ ok => of_decide_eq_true ok) passes

/-! ### A small deployment -/

namespace Sample

def descriptor : ProviderDescriptor :=
  { slug := provider, supportedOperations := [.resourceProvision], supportsCancellation := true
    supportsStatusLookup := true, supportsProviderIdempotency := false }

def settings : Settings :=
  { descriptor := fun _ => some descriptor
    retryPolicy := fun _ =>
      { maxAttempts := 3, attempts_pos := by decide, durations_pos := by norm_num, multiplier_ge := by norm_num }
    staleAfterSeconds := 60, manualReviewAfterSeconds := 60, workflowClaimLeaseSeconds := 30 }

def stage (key : String) (dependsOn : List String) : WorkflowStepDefinition :=
  { key := key, provider := "northstar", operationType := .resourceProvision, dependsOn := dependsOn
    compensateOperation := some .resourceDeprovision }

/-- Starts a workflow of these steps, with a deadline. -/
def start (steps : List WorkflowStepDefinition) (deadlineAt : Option Instant) : Frame :=
  .startWorkflow
    { definition := { id := 1, name := "sample", version := 1, createdAt := 0, steps := steps }
      inputPayload := [("size", .int 1)], correlationId := "sample", idempotencyKey := none
      actor := { type := .apiClient }, deadlineAt := deadlineAt }

/-- A unit of work at the time `now` that draws ids from `id` on and meets a
provider that carries the operation out and ends every call alike. -/
def input (now : Instant) (id : UUID) (outcome : AdapterOutcome) : Input :=
  { readings := ⟨now, now, now⟩, newId := fun index => id + index, jitter := 0
    weather := { call := fun _ => ⟨true, outcome⟩ } }

/-- Schedules `task` for `count` units of work that call no provider. -/
def work (task : Nat) (now : Instant) (id : UUID) (count : Nat) : List Action :=
  List.replicate count (.run task (input now id .crashed))

/-- Schedules the provider call of `task`. -/
def answer (task : Nat) (now : Instant) (outcome : AdapterOutcome) : Action :=
  .run task (input now 0 outcome)

/-- The provider answers at once with this status and reference. -/
def answered (status : NormalizedStatus) (reference : String) : AdapterOutcome :=
  .answered (.success status (some reference) none [])

/-- A workflow of one step, up to the answer of the provider. -/
def onlyStep (outcome : AdapterOutcome) : List Action :=
  .spawn (start [stage "only" []] none) :: work 0 1 100 2 ++ work 0 2 200 3 ++ [answer 0 3 outcome]

/-- The provider does not answer the only step in time; the retry worker takes
the request up later and succeeds. -/
def retried : List Action :=
  .spawn (start [stage "only" []] none) :: work 0 1 100 2 ++ work 0 2 200 3 ++ answer 0 3 (.lost .timeout) ::
    work 0 4 300 3 ++ .spawn (.claimRetry 200) :: work 1 100000000 0 1 ++
    answer 1 100000000 (answered .succeeded "op-1") :: work 1 100000000 0 1

end Sample

end IntegrationOrchestrator
