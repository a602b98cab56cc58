import IntegrationOrchestrator.Domain.Request
import IntegrationOrchestrator.Foundation.VersionedStore

namespace IntegrationOrchestrator

open Mutator

/-- The operations of the request entity. -/
inductive RequestOperation where
  | beginValidation (now : Instant)
  | beginDispatch (now : Instant)
  | recordProviderPayload (payload : Payload)
  | markAccepted (providerReference : String) (now : Instant)
  | markSucceeded (now : Instant) (providerReference : Option String)
  | markFailed (failure : FailureDetail) (now : Instant)
  | scheduleRetry (failure : FailureDetail) (nextRetryAt now : Instant)
  | markCancelled (now : Instant) (reason : Option String)
  | markManualReview (reason : String) (now : Instant)
  | restoreForRetry (nextRetryAt now : Instant)
  | applyNormalizedStatus (status : NormalizedStatus) (now : Instant) (providerReference : Option String)
      (failure : Option FailureDetail)
  | attachProviderReference (reference : String) (now : Instant)
  | touch (now : Instant)

def RequestOperation.apply (q : IntegrationRequest) : RequestOperation → Except Exn IntegrationRequest
  | .beginValidation now => perform (IntegrationRequest.beginValidation now) q
  | .beginDispatch now => perform (IntegrationRequest.beginDispatch now) q
  | .recordProviderPayload payload => .ok (q.recordProviderPayload payload)
  | .markAccepted reference now => perform (IntegrationRequest.markAccepted reference now) q
  | .markSucceeded now reference => perform (IntegrationRequest.markSucceeded now reference) q
  | .markFailed failure now => perform (IntegrationRequest.markFailed failure now) q
  | .scheduleRetry failure nextRetryAt now => perform (IntegrationRequest.scheduleRetry failure nextRetryAt now) q
  | .markCancelled now reason => perform (IntegrationRequest.markCancelled now reason) q
  | .markManualReview reason now => perform (IntegrationRequest.markManualReview reason now) q
  | .restoreForRetry nextRetryAt now => perform (IntegrationRequest.restoreForRetry nextRetryAt now) q
  | .applyNormalizedStatus status now reference failure =>
    perform (IntegrationRequest.applyNormalizedStatus status now reference failure) q
  | .attachProviderReference reference now => perform (IntegrationRequest.attachProviderReference reference now) q
  | .touch now => .ok (q.touched now)

/-- `request_update_values`: the columns an update writes. -/
def updatedRow (row q : IntegrationRequest) : IntegrationRequest :=
  { row with
    normalizedPayload := q.normalizedPayload
    providerPayload := q.providerPayload
    providerReference := q.providerReference
    status := q.status
    attemptCount := q.attemptCount
    lastErrorCode := q.lastErrorCode
    lastErrorMessage := q.lastErrorMessage
    lastErrorCategory := q.lastErrorCategory
    manualReviewReason := q.manualReviewReason
    nextRetryAt := q.nextRetryAt
    updatedAt := q.updatedAt
    completedAt := q.completedAt
    version := q.version }

/-- `SqlIntegrationRequestRepository` in a unit of work: `add`, the loads with
and without a lock, and `update`. -/
def requestRows : VersionedRows IntegrationRequest UUID RequestOperation Exn :=
  { key := IntegrationRequest.id, version := IntegrationRequest.version, apply := fun operation q => operation.apply q
    written := updatedRow, conflict := fun q => .concurrencyConflict (uuidText q.id) }

abbrev RequestStore := VersionedStore.Store IntegrationRequest UUID

abbrev RequestAction := VersionedStore.Action IntegrationRequest UUID RequestOperation

namespace IntegrationRequest

variable {q q' : IntegrationRequest}

/-- The columns of a request that an update does not write. -/
def fixedColumns (q : IntegrationRequest) :=
  (q.id, q.provider, q.operationType, q.externalReference, q.correlationId, q.createdAt, q.ownerSubject)

structure Evolves (q q' : IntegrationRequest) : Prop where
  fixed : q'.fixedColumns = q.fixedColumns
  version : q.version ≤ q'.version

theorem Evolves.trans {a b c : IntegrationRequest} (first : Evolves a b) (second : Evolves b c) : Evolves a c :=
  ⟨second.fixed.trans first.fixed, first.version.trans second.version⟩

theorem later_of_transitionThen {requested : RequestStatus} {now : Instant}
    {write : IntegrationRequest → IntegrationRequest} {made : StatusTransition}
    (run : call (transitionThen requested now write) q = .ok (made, q')) (kept : ∀ q, Evolves q (write q)) :
    Evolves q q' := by
  rw [call_transitionThen] at run
  split at run
  · cases run
    have moves : Evolves q (q.moved requested now) := ⟨rfl, by simp [moved, touched]⟩
    exact moves.trans (kept _)
  · cases run

theorem later_of_markAccepted {reference : String} {now : Instant} {made : StatusTransition}
    (run : call (markAccepted reference now) q = .ok (made, q')) : Evolves q q' := by
  unfold markAccepted at run
  split at run
  · simp at run
  · exact later_of_transitionThen run fun _ => ⟨rfl, le_rfl⟩

theorem later_of_applyTarget {target : RequestStatus} {now : Instant} {reference : Option String}
    {failure : Option FailureDetail} {made : Option StatusTransition}
    (run : call (applyTarget target now reference failure) q = .ok (made, q')) : Evolves q q' := by
  unfold applyTarget at run
  split at run
  case h_4 =>
    simp only [call_bind, call_get, Except.bind, call_ite] at run
    generalize (if truthy reference then reference else q.providerReference) = known at run
    split at run
    · simp only [call_pure, Except.ok.injEq, Prod.mk.injEq] at run
      exact run.2 ▸ ⟨rfl, le_rfl⟩
    · obtain ⟨_, _, run⟩ := call_some_map run
      exact later_of_markAccepted run
  case h_5 =>
    simp only [call_pure, Except.ok.injEq, Prod.mk.injEq] at run
    exact run.2 ▸ ⟨rfl, le_rfl⟩
  all_goals
    obtain ⟨_, _, run⟩ := call_some_map run
    exact later_of_transitionThen run fun _ => ⟨rfl, le_rfl⟩

theorem later_of_applyNormalizedStatus {status : NormalizedStatus} {now : Instant} {reference : Option String}
    {failure : Option FailureDetail} {made : Option StatusTransition}
    (run : call (applyNormalizedStatus status now reference failure) q = .ok (made, q')) : Evolves q q' := by
  simp only [applyNormalizedStatus, call_bind, call_get, Except.bind] at run
  split at run
  · simp only [call_pure, Except.ok.injEq, Prod.mk.injEq] at run
    exact run.2 ▸ ⟨rfl, le_rfl⟩
  · rw [call_ite] at run
    split at run
    · simp only [call_pure, Except.ok.injEq, Prod.mk.injEq] at run
      exact run.2 ▸ ⟨rfl, le_rfl⟩
    · simp only [call_bind, call_modify, Except.bind] at run
      have kept : Evolves q (q.linked reference) := by
        unfold linked
        split <;> exact ⟨rfl, le_rfl⟩
      exact kept.trans (later_of_applyTarget run)

/-- No operation takes the version back or touches a column outside `update`. -/
theorem later_of_operation {operation : RequestOperation} (run : operation.apply q = .ok q') : Evolves q q' := by
  cases operation with
  | recordProviderPayload payload =>
    cases run
    exact ⟨rfl, le_rfl⟩
  | touch now =>
    cases run
    exact ⟨rfl, by simp [touched]⟩
  | attachProviderReference reference now =>
    obtain ⟨_, rfl⟩ := attachProviderReference_ok run
    exact ⟨rfl, by simp [touched]⟩
  | beginValidation now =>
    obtain ⟨out, called, rfl⟩ := Rows.map_eq_ok.mp run
    rw [beginValidation, call_transition] at called
    split at called
    · cases called
      exact ⟨rfl, by simp [moved, touched]⟩
    · cases called
  | markAccepted reference now =>
    obtain ⟨out, called, rfl⟩ := Rows.map_eq_ok.mp run
    exact later_of_markAccepted called
  | applyNormalizedStatus status now reference failure =>
    obtain ⟨out, called, rfl⟩ := Rows.map_eq_ok.mp run
    exact later_of_applyNormalizedStatus called
  | _ =>
    obtain ⟨out, called, rfl⟩ := Rows.map_eq_ok.mp run
    exact later_of_transitionThen called fun _ => ⟨rfl, le_rfl⟩

theorem Evolves.updatedRow (later : Evolves q q') : updatedRow q q' = q' := by
  have fixed := later.fixed
  cases q'
  simp only [fixedColumns, Prod.mk.injEq] at fixed
  obtain ⟨rfl, rfl, rfl, rfl, rfl, rfl, rfl⟩ := fixed
  rfl

end IntegrationRequest

open VersionedStore

theorem later_of_derives {q q' : IntegrationRequest} (derived : requestRows.Derives q q') : q.Evolves q' := by
  induction derived with
  | refl => exact ⟨rfl, le_rfl⟩
  | tail _ last ih =>
    obtain ⟨_, applied⟩ := last
    exact ih.trans (IntegrationRequest.later_of_operation applied)

theorem requestRows_lawful : requestRows.Lawful where
  key_apply run := congrArg Prod.fst (IntegrationRequest.later_of_operation run).fixed
  version_apply run := (IntegrationRequest.later_of_operation run).version
  written_derived derived := (later_of_derives derived).updatedRow

/-- No committed update is lost, in every interleaving of sessions that hand
to `update` the entity they loaded last, at a higher version. Each committed
row was computed by entity operations from the one committed just before it,
at a strictly higher version, and a session whose entity was overtaken meets
a concurrency conflict that changes no row. -/
theorem requests_no_lost_update {s : RequestStore} (reach : Reach requestRows (Disciplined requestRows) s) :
    (∀ requestId n old new, (s.images requestId)[n]? = some old → (s.images requestId)[n + 1]? = some new →
      new.basis = n + 1 ∧ requestRows.Derives old.row new.row ∧ old.row.version < new.row.version) ∧
    ∀ session x index h s' raised, s.sessions session = some x → x.held[index]? = some h →
      h.basis < (s.images h.entity.id).length → Disciplined requestRows s (.update session index) →
      step requestRows s (.update session index) = some (s', raised) →
      raised = some (.concurrencyConflict (uuidText h.entity.id)) ∧ s'.images = s.images := by
  have coherent := reach.coherent requestRows_lawful
  constructor
  · intro requestId n old new atOld atNew
    obtain ⟨version, derived⟩ := coherent.precedes_of_lt atOld atNew (Nat.lt_succ_self n)
    exact ⟨coherent.basis atNew, derived, version⟩
  · intro session x index h s' raised opened held behind disciplined run
    obtain ⟨conflict, rfl⟩ :=
      reach.update_overtaken requestRows_lawful disciplined opened held behind run
    exact ⟨conflict, rfl⟩

namespace Sample

def storedRequest : IntegrationRequest :=
  { id := 1, provider := provider, operationType := .resourceProvision
    externalReference := reference, normalizedPayload := [], correlationId := correlationId
    createdAt := 0, updatedAt := 0 }

/-- One session stores the request. Two more load it and change it; the first
of them writes and commits. -/
def firstWriter (first second : RequestOperation) : List RequestAction :=
  [.begin 0, .insert 0 storedRequest, .commit 0, .begin 1, .begin 2, .load 1 1 false, .load 2 1 false,
    .apply 1 0 first, .apply 2 0 second, .update 1 0, .commit 1]

def overtaken : RequestStore :=
  (replay requestRows (Disciplined requestRows) (firstWriter (.beginValidation 1) (.touch 2)) {}).getD {}

def overtakenSession : Session IntegrationRequest UUID := (overtaken.sessions 2).getD {}

end Sample

/-- The second of two writers is told that it was overtaken. -/
theorem requests_no_lost_update_overtaken :
    ∃ s', step requestRows Sample.overtaken (.update 2 0) = some (s', some (.concurrencyConflict (uuidText 1))) ∧
      s'.images = Sample.overtaken.images := by
  have run : replay requestRows (Disciplined requestRows)
      (Sample.firstWriter (.beginValidation 1) (.touch 2)) {} = some Sample.overtaken := rfl
  have reach := Reach.replay requestRows (Disciplined requestRows) .start run
  have opened : Sample.overtaken.sessions 2 = some Sample.overtakenSession := rfl
  have held : Sample.overtakenSession.held[0]? = some ⟨Sample.storedRequest.touched 2, 1⟩ := rfl
  have behind : 1 < (Sample.overtaken.images 1).length := by decide
  have disciplined : Disciplined requestRows Sample.overtaken (.update 2 0) := by decide
  obtain ⟨s', raised, stepped⟩ : ∃ s' raised, step requestRows Sample.overtaken (.update 2 0) = some (s', raised) :=
    ⟨_, _, rfl⟩
  obtain ⟨rfl, same⟩ := (requests_no_lost_update reach).2 2 Sample.overtakenSession 0
    ⟨Sample.storedRequest.touched 2, 1⟩ s' raised opened held behind disciplined stepped
  exact ⟨s', stepped, same⟩

/-- Two sessions load the request, each records a provider payload, and both
updates are accepted. The second was computed from the row that the first has
replaced, at the same version, and the first payload is lost. -/
theorem payload_update_lost :
    ∃ s, Reach requestRows (fun _ _ => True) s ∧
      (s.images 1).map (fun image => (image.basis, image.row.version)) = [(0, 0), (1, 0), (1, 0)] ∧
      (s.images 1).map (fun image => image.row.providerPayload.map (·.map Prod.fst)) =
        [none, some ["first"], some ["second"]] := by
  let actions := Sample.firstWriter (.recordProviderPayload [("first", .null)])
    (.recordProviderPayload [("second", .null)]) ++ [.update 2 0, .commit 2]
  have run : replay requestRows (fun _ _ => True) actions {} =
      some ((replay requestRows (fun _ _ => True) actions {}).getD {}) := rfl
  exact ⟨_, Reach.replay requestRows _ .start run, rfl, rfl⟩

end IntegrationOrchestrator
