import IntegrationOrchestrator.Domain.Request
import IntegrationOrchestrator.Domain.Workflow
import IntegrationOrchestrator.Foundation.Table

namespace IntegrationOrchestrator

/-- An audit row about a workflow execution; its outbox row repeats the new
status under the same keys. -/
structure WorkflowRecord where
  executionId : UUID
  action : AuditAction
  actor : Actor
  previous : Option WorkflowStatus
  new : WorkflowStatus
  occurredAt : Instant

/-- An audit row about an integration request. `published` says whether an
outbox row was written with it. -/
structure RequestRecord where
  requestId : UUID
  action : AuditAction
  actor : Actor
  previous : Option RequestStatus
  new : RequestStatus
  occurredAt : Instant
  published : Bool

/-- The tables the modelled transactions read and write. -/
structure Database where
  executions : Table WorkflowExecution.id := .empty
  requests : Table IntegrationRequest.id := .empty
  workflowRecords : List WorkflowRecord := []
  requestRecords : List RequestRecord := []

namespace Database

/-- `workflow_executions.add`: the primary keys, the idempotency key and the
step keys of one execution are unique. -/
def addExecution (db : Database) (e : WorkflowExecution) : Except Exn Database :=
  if (db.executions.get e.id).isSome || ¬ (e.steps.map (·.id)).Nodup || ¬ (e.steps.map (·.stepKey)).Nodup ||
      db.executions.rows.any (fun other => other.steps.any fun step => step.id ∈ e.steps.map (·.id)) ||
      (e.idempotencyKey.isSome && db.executions.rows.any (·.idempotencyKey = e.idempotencyKey)) then
    .error .integrity
  else .ok { db with executions := db.executions.put e }

/-- `workflow_executions.update` under the row lock the caller holds. -/
def updateExecution (db : Database) (e : WorkflowExecution) : Database :=
  { db with executions := db.executions.put e }

def executionByIdempotencyKey (db : Database) (key : String) : Option WorkflowExecution :=
  db.executions.rows.find? (·.idempotencyKey = some key)

def linksRequest (requestId : UUID) (step : WorkflowStepExecution) : Bool :=
  step.integrationRequestId = some requestId || step.compensationRequestId = some requestId

/-- `find_by_request_id`: the query expects at most one step row. -/
def executionByRequestId (db : Database) (requestId : UUID) : Except Exn (Option WorkflowExecution) :=
  match (db.executions.rows.flatMap (·.steps)).filter (linksRequest requestId) with
  | [] => .ok none
  | [_] => .ok (db.executions.rows.find? (·.steps.any (linksRequest requestId)))
  | _ => .error .unexpected

def addRequest (db : Database) (q : IntegrationRequest) : Except Exn Database :=
  if (db.requests.get q.id).isSome then .error .integrity
  else .ok { db with requests := db.requests.put q }

/-- `requests.update`: a provider reference identifies one operation at one
provider. -/
def updateRequest (db : Database) (q : IntegrationRequest) : Except Exn Database :=
  if q.providerReference.isSome && db.requests.rows.any (fun other => other.id ≠ q.id &&
      other.provider = q.provider && other.providerReference = q.providerReference) then
    .error .integrity
  else .ok { db with requests := db.requests.put q }

def requestByProviderReference (db : Database) (provider : ProviderSlug) (reference : String) :
    Option IntegrationRequest :=
  db.requests.rows.find? fun q => q.provider = provider && q.providerReference = some reference

def recordWorkflow (db : Database) (records : List WorkflowRecord) : Database :=
  { db with workflowRecords := db.workflowRecords ++ records }

def recordRequest (db : Database) (records : List RequestRecord) : Database :=
  { db with requestRecords := db.requestRecords ++ records }

theorem addExecution_ok {db db' : Database} {e : WorkflowExecution} (run : db.addExecution e = .ok db') :
    db.executions.get e.id = none ∧ (e.steps.map (·.id)).Nodup ∧ (e.steps.map (·.stepKey)).Nodup ∧
      db' = db.updateExecution e := by
  unfold addExecution at run
  split at run
  · cases run
  · rename_i fresh
    simp only [Bool.or_eq_true, not_or, Option.isSome_iff_ne_none, ne_eq, not_not, decide_eq_true_eq] at fresh
    cases run
    exact ⟨fresh.1.1.1.1, fresh.1.1.1.2, fresh.1.1.2, rfl⟩

theorem addRequest_ok {db db' : Database} {q : IntegrationRequest} (run : db.addRequest q = .ok db') :
    db.requests.get q.id = none ∧ db' = { db with requests := db.requests.put q } := by
  unfold addRequest at run
  split at run
  · cases run
  · rename_i fresh
    cases run
    exact ⟨by simpa using fresh, rfl⟩

theorem updateRequest_ok {db db' : Database} {q : IntegrationRequest} (run : db.updateRequest q = .ok db') :
    db' = { db with requests := db.requests.put q } := by
  unfold updateRequest at run
  split at run
  · cases run
  · cases run
    rfl

theorem executionByRequestId_some {db : Database} {requestId : UUID} {e : WorkflowExecution}
    (run : db.executionByRequestId requestId = .ok (some e)) :
    db.executions.get e.id = some e ∧ ∃ step ∈ e.steps, linksRequest requestId step = true := by
  unfold executionByRequestId at run
  split at run
  · cases run
  · simp only [Except.ok.injEq] at run
    have member := List.mem_of_find?_eq_some run
    have links := List.find?_some run
    exact ⟨Table.mem_rows_iff.mp member, List.any_eq_true.mp links⟩
  · cases run

theorem requestByProviderReference_some {db : Database} {provider : ProviderSlug} {reference : String}
    {q : IntegrationRequest} (found : db.requestByProviderReference provider reference = some q) :
    db.requests.get q.id = some q :=
  Table.mem_rows_iff.mp (List.mem_of_find?_eq_some found)

end Database

end IntegrationOrchestrator
