import IntegrationOrchestrator.Saga.Runs
import IntegrationOrchestrator.Saga.Causality
import IntegrationOrchestrator.Saga.Compensation
import IntegrationOrchestrator.Saga.EffectSafety
import IntegrationOrchestrator.Saga.Synchronisation
import IntegrationOrchestrator.Saga.UnwindOrder
import IntegrationOrchestrator.Creation.Idempotency
import IntegrationOrchestrator.Creation.Linearizable
import IntegrationOrchestrator.Dispatch.AttemptIdentity
import IntegrationOrchestrator.Dispatch.LateSuccess
import IntegrationOrchestrator.Dispatch.ProviderEffects
import IntegrationOrchestrator.Foundation.JsonText
import IntegrationOrchestrator.Foundation.Utf8
import IntegrationOrchestrator.Saga.ForwardPhase
import IntegrationOrchestrator.Saga.IdempotentStart
import IntegrationOrchestrator.Saga.Links
import IntegrationOrchestrator.Webhooks.Adapters
import IntegrationOrchestrator.Webhooks.CrashRecovery
import IntegrationOrchestrator.Webhooks.SignatureBinding
import IntegrationOrchestrator.Api.Listing
import IntegrationOrchestrator.Api.RequestAccess
import IntegrationOrchestrator.Dispatch.Cancellation
import IntegrationOrchestrator.Dispatch.KeptReference
import IntegrationOrchestrator.Dispatch.LocalCancellation
import IntegrationOrchestrator.Dispatch.Reconciliation
import IntegrationOrchestrator.Domain.Circuit
import IntegrationOrchestrator.Foundation.Ranking
import IntegrationOrchestrator.Foundation.VersionedStore
import IntegrationOrchestrator.Journal.WorkflowHistory
import IntegrationOrchestrator.Outbox.Delivery
import IntegrationOrchestrator.Outbox.Exclusion
import IntegrationOrchestrator.Outbox.Isolation
import IntegrationOrchestrator.Resilience.Breaker
import IntegrationOrchestrator.Resilience.BreakerAdmission
import IntegrationOrchestrator.Resilience.BreakerRefinement
import IntegrationOrchestrator.Resilience.HalfOpen
import IntegrationOrchestrator.Store.RequestRows
import IntegrationOrchestrator.Store.StaleWrites
import IntegrationOrchestrator.Store.WorkflowRefinement
import IntegrationOrchestrator.Workers.ReconciliationSweeps
import IntegrationOrchestrator.Api.Cursors
import IntegrationOrchestrator.Api.Pagination
import IntegrationOrchestrator.Dispatch.ManualReview
import IntegrationOrchestrator.Dispatch.Failures
import IntegrationOrchestrator.Entities.Completion
import IntegrationOrchestrator.Journal.Entries
import IntegrationOrchestrator.Saga.Deadline
import IntegrationOrchestrator.Saga.StepsLeft
import IntegrationOrchestrator.Saga.Termination
import IntegrationOrchestrator.Store.DefinitionRows
import IntegrationOrchestrator.Store.Persistence
import IntegrationOrchestrator.Webhooks.Deferral
import IntegrationOrchestrator.Creation.Fingerprint
import IntegrationOrchestrator.Foundation.Exceptions
import IntegrationOrchestrator.Foundation.Leases
import IntegrationOrchestrator.Foundation.TokenBucket
import IntegrationOrchestrator.Observability.Redaction
import IntegrationOrchestrator.Resilience.Backoff
import IntegrationOrchestrator.Resilience.Locks
import IntegrationOrchestrator.Resilience.RateLimiter
import IntegrationOrchestrator.Saga.DoubleSettlement
import IntegrationOrchestrator.Journal.AuditTrail
import IntegrationOrchestrator.Webhooks.Evidence
import IntegrationOrchestrator.Webhooks.Normalization
import IntegrationOrchestrator.Entities.StepOperations
import IntegrationOrchestrator.Api.CursorTotality
