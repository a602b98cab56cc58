import IntegrationOrchestrator.Foundation.Trail
import IntegrationOrchestrator.System.Reports
import IntegrationOrchestrator.System.WorkflowSteps

namespace IntegrationOrchestrator

open IntegrationRequest RequestDispatcher Mutator
open Rows (bind_eq_ok map_eq_ok)

variable {settings : Settings} {input : Input} {s s' : State} {frame : Frame} {pushed : List Frame}
  {q q' q'' : IntegrationRequest} {rows more : List RequestRecord} {times times' : List Instant} {now : Instant}
  {actor : Actor}

/-- The row records a status change, the first status included. -/
def RequestRecord.changes (row : RequestRecord) : Bool := row.previous ≠ some row.new

/-- An outbox row stands beside every status change but the one to
`validating`, and beside nothing else. -/
def RequestRecord.Announced (row : RequestRecord) : Prop :=
  row.published = (row.changes && row.new ≠ .validating)

/-- The rows lead from one status to the other. -/
abbrev RequestPath : RequestStatus → List RequestRecord → RequestStatus → Prop :=
  Trail.Path RequestRecord.previous RequestRecord.new canTransition

/-- What no transaction does to a request: change its owner, store an empty
reference, or replace the provider's reference outside an attempt, unless the
request ends with it. -/
structure KeepsLinks (q q' : IntegrationRequest) : Prop where
  owner : q'.ownerSubject = q.ownerSubject
  named : q.providerReference ≠ some "" → q'.providerReference ≠ some ""
  reference : q'.providerReference = q.providerReference ∨ truthy q.providerReference = false ∨
    q.status = .dispatching ∨ q'.status = .succeeded

theorem KeepsLinks.of_eq (owner : q'.ownerSubject = q.ownerSubject)
    (reference : q'.providerReference = q.providerReference) : KeepsLinks q q' :=
  ⟨owner, by rw [reference]; exact id, .inl reference⟩

/-- How often the rows say that the request entered `dispatching`. -/
def entries (rows : List RequestRecord) : Nat := rows.countP fun row => row.changes && row.new = .dispatching

theorem entries_append (rows more : List RequestRecord) : entries (rows ++ more) = entries rows + entries more :=
  List.countP_append

theorem entries_silent (silent : ∀ row ∈ rows, row.changes = false) : entries rows = 0 := by
  refine List.countP_eq_zero.mpr fun row member => ?_
  simp [silent row member]

/-- What a transaction that turns `q` into `q'` writes about it, its changes
stamped with readings of the clock among `times`, in order. -/
structure Journals (times : List Instant) (q q' : IntegrationRequest) (rows : List RequestRecord) : Prop extends
    KeepsLinks q q' where
  id : q'.id = q.id
  about : ∀ row ∈ rows, row.requestId = q.id
  announced : ∀ row ∈ rows, row.Announced
  path : RequestPath q.status (rows.filter (·.changes)) q'.status
  attempts : q'.attemptCount = q.attemptCount + entries rows
  stamped : ((rows.filter (·.changes)).map (·.occurredAt)).Sublist times

theorem canTransition_irrefl {a b : RequestStatus} (allowed : canTransition a b = true) : a ≠ b := by
  rintro rfl
  cases a <;> simp [canTransition, transitions] at allowed

theorem actionRecord_silent (q : IntegrationRequest) (action : AuditAction) (actor : Actor) (now : Instant) :
    (actionRecord q action actor now).changes = false := by
  simp [RequestRecord.changes, actionRecord]

theorem actionRecord_announced (q : IntegrationRequest) (action : AuditAction) (actor : Actor) (now : Instant) :
    (actionRecord q action actor now).Announced := by
  rw [RequestRecord.Announced, actionRecord_silent]
  rfl

namespace Journals

/-- A write that changes no status, with a row that says so. -/
theorem noted (kept : Kept q q') (links : KeepsLinks q q') (action : AuditAction) (actor : Actor)
    (now : Instant) : Journals times q q' [actionRecord q' action actor now] where
  toKeepsLinks := links
  id := kept.id
  about := by
    intro row member
    cases List.mem_singleton.mp member
    exact kept.id
  announced := by
    intro row member
    cases List.mem_singleton.mp member
    exact actionRecord_announced ..
  path := by
    rw [List.filter_singleton, actionRecord_silent]
    exact kept.status.symm
  attempts := by
    rw [entries_silent (List.forall_mem_singleton.mpr (actionRecord_silent ..)), kept.attemptCount]
    simp
  stamped := by
    rw [List.filter_singleton, actionRecord_silent]
    exact List.nil_sublist times

theorem silent (kept : Kept q q') (links : KeepsLinks q q') : Journals times q q' [] :=
  ⟨links, kept.id, by simp, by simp, kept.status.symm, by simp [kept.attemptCount, entries], List.nil_sublist times⟩

theorem early (journals : Journals [now] q q' rows) (later : Instant) : Journals [now, later] q q' rows :=
  { journals with stamped := journals.stamped.trans (by simp) }

theorem of_succeeded {rows : List RequestRecord} {a b : RequestStatus} (path : RequestPath a rows b)
    (succeeded : a = .succeeded) : b = .succeeded := by
  cases rows with
  | nil => exact path.symm.trans succeeded
  | cons row rows =>
    obtain ⟨_, allowed, _⟩ := path
    rw [succeeded, canTransition_succeeded] at allowed
    cases allowed

/-- Two changes in one transaction, the first of which starts no attempt. -/
theorem append (first : Journals times q q' rows) (second : Journals times' q' q'' more)
    (starts : q'.status = .dispatching → q.status = .dispatching) :
    Journals (times ++ times') q q'' (rows ++ more) where
  owner := second.owner.trans first.owner
  named := fun named => second.named (first.named named)
  reference := by
    rcases first.reference with same | unnamed | dispatching | succeeded
    · rcases second.reference with same' | unnamed | dispatching | succeeded
      · exact .inl (same'.trans same)
      · exact .inr (.inl (same ▸ unnamed))
      · exact .inr (.inr (.inl (starts dispatching)))
      · exact .inr (.inr (.inr succeeded))
    · exact .inr (.inl unnamed)
    · exact .inr (.inr (.inl dispatching))
    · exact .inr (.inr (.inr (of_succeeded second.path succeeded)))
  id := second.id.trans first.id
  about := by
    intro row member
    rcases List.mem_append.mp member with before | after
    · exact first.about row before
    · exact (second.about row after).trans first.id
  announced := by
    intro row member
    rcases List.mem_append.mp member with before | after
    · exact first.announced row before
    · exact second.announced row after
  path := by
    rw [List.filter_append]
    exact first.path.append second.path
  attempts := by
    rw [second.attempts, first.attempts, entries_append]
    push_cast
    omega
  stamped := by
    rw [List.filter_append, List.map_append]
    exact first.stamped.append second.stamped

end Journals

/-- The method makes one status change, which it returns. -/
def Changing (now : Instant) (method : Mutator Exn IntegrationRequest StatusTransition) (target : RequestStatus) :
    Prop :=
  ∀ q made q', call method q = .ok (made, q') → Moved q q' target ∧ KeepsLinks q q' ∧
    made = { previousStatus := q.status, newStatus := target, occurredAt := now }

theorem changing_transition (target : RequestStatus) (now : Instant) : Changing now (transition target now) target := by
  intro q made q' run
  rw [call_transition] at run
  split at run
  · rename_i allowed
    cases run
    exact ⟨⟨allowed, rfl, rfl, rfl, rfl⟩, .of_eq rfl rfl, rfl⟩
  · cases run

theorem changing_transitionThen {target : RequestStatus} {write : IntegrationRequest → IntegrationRequest}
    (keeps : ∀ q, Kept q (write q))
    (links : ∀ q, canTransition q.status target = true → KeepsLinks q (write (q.moved target now))) :
    Changing now (transitionThen target now write) target := by
  intro q made q' run
  have moved := moved_of_transitionThen run keeps
  rw [call_transitionThen] at run
  split at run
  · rename_i allowed
    cases run
    exact ⟨moved, links q allowed, rfl⟩
  · cases run

theorem changing_markFailed (failure : FailureDetail) : Changing now (markFailed failure now) .failed :=
  changing_transitionThen (fun _ => ⟨rfl, rfl, rfl, rfl⟩) fun _ _ => .of_eq rfl rfl

theorem changing_scheduleRetry (failure : FailureDetail) (nextRetryAt : Instant) :
    Changing now (scheduleRetry failure nextRetryAt now) .retryScheduled :=
  changing_transitionThen (fun _ => ⟨rfl, rfl, rfl, rfl⟩) fun _ _ => .of_eq rfl rfl

theorem changing_markCancelled (reason : Option String) : Changing now (markCancelled now reason) .cancelled :=
  changing_transitionThen (fun _ => ⟨rfl, rfl, rfl, rfl⟩) fun _ _ => .of_eq rfl rfl

theorem changing_markManualReview (reason : String) : Changing now (markManualReview reason now) .manualReview :=
  changing_transitionThen (fun _ => ⟨rfl, rfl, rfl, rfl⟩) fun _ _ => .of_eq rfl rfl

theorem changing_restoreForRetry (nextRetryAt : Instant) :
    Changing now (restoreForRetry nextRetryAt now) .retryScheduled :=
  changing_transitionThen (fun _ => ⟨rfl, rfl, rfl, rfl⟩) fun _ _ => .of_eq rfl rfl

theorem truthy_named {reference : Option String} (given : truthy reference = true) : reference ≠ some "" := by
  rintro rfl
  simp [truthy] at given

theorem changing_markSucceeded (reference : Option String) : Changing now (markSucceeded now reference) .succeeded := by
  refine changing_transitionThen (fun _ => ⟨rfl, rfl, rfl, rfl⟩) fun q _ => ⟨rfl, ?_, .inr (.inr (.inr rfl))⟩
  intro named
  show (if truthy reference then reference else q.providerReference) ≠ some ""
  split
  · exact truthy_named ‹_›
  · exact named

/-- Only a request that is being dispatched is accepted. -/
theorem dispatching_of_canTransition_pending {status : RequestStatus} (allowed : canTransition status .pending = true) :
    status = .dispatching := by
  cases status <;> simp_all [canTransition, transitions]

theorem changing_markAccepted (reference : String) : Changing now (markAccepted reference now) .pending := by
  intro q made q' run
  unfold markAccepted at run
  split at run
  · simp at run
  · rename_i given
    refine changing_transitionThen ?_ ?_ q made q' run
    · exact fun _ => ⟨rfl, rfl, rfl, rfl⟩
    · intro q allowed
      have attempt := dispatching_of_canTransition_pending allowed
      exact ⟨rfl, fun _ same => given (Option.some.inj same), .inr (.inr (.inl attempt))⟩

/-- A recorded change is one link of the path, announced unless the request
is only being validated. -/
theorem Journals.link {target : RequestStatus} {action : AuditAction} {published : Bool}
    (moved : Moved q q' target) (links : KeepsLinks q q') (settles : target ≠ .dispatching)
    (announced : published = (target ≠ .validating : Bool)) :
    Journals [now] q q' [transitionRecord q' ⟨q.status, target, now⟩ action actor published] := by
  have changes : (transitionRecord q' ⟨q.status, target, now⟩ action actor published).changes = true := by
    simp only [RequestRecord.changes, transitionRecord, decide_eq_true_eq, ne_eq, Option.some.injEq]
    exact canTransition_irrefl moved.allowed
  refine ⟨links, moved.id, ?_, ?_, ?_, ?_, ?_⟩
  · intro row member
    cases List.mem_singleton.mp member
    exact moved.id
  · intro row member
    cases List.mem_singleton.mp member
    rw [RequestRecord.Announced, changes, Bool.true_and]
    exact announced
  · rw [List.filter_singleton, changes]
    exact Trail.path_single.mpr ⟨rfl, moved.allowed, moved.status.symm⟩
  · have none : entries [transitionRecord q' ⟨q.status, target, now⟩ action actor published] = 0 := by
      simp [entries, transitionRecord, settles]
    rw [none, moved.attemptCount]
    simp
  · rw [List.filter_singleton, changes]
    exact List.Sublist.refl _

theorem Journals.recorded {method : Mutator Exn IntegrationRequest StatusTransition} {target : RequestStatus}
    {action : AuditAction} {published : Bool} (run : recorded q method action actor published = .ok (q', rows))
    (changing : Changing now method target) (settles : target ≠ .dispatching)
    (announced : published = (target ≠ .validating : Bool)) : Journals [now] q q' rows := by
  obtain ⟨⟨made, _⟩, called, done⟩ := bind_eq_ok.mp run
  cases done
  obtain ⟨moved, links, rfl⟩ := changing q made _ called
  exact .link moved links settles announced

namespace RequestDispatcher

theorem claimForDispatch_journals (run : claimForDispatch q actor now = .ok (q', rows)) :
    Journals [now] q q' rows := by
  obtain ⟨⟨made, q''⟩, called, done⟩ := bind_eq_ok.mp run
  cases done
  simp only [beginDispatch, call_transitionThen] at called
  split at called
  · rename_i allowed
    cases called
    -- the attempt is counted, so this is no `Moved`
    refine ⟨.of_eq rfl rfl, rfl, by simp [transitionRecord, moved, touched], ?_, ?_, ?_, ?_⟩
    · intro row member
      cases List.mem_singleton.mp member
      simpa [RequestRecord.Announced, RequestRecord.changes, transitionRecord] using canTransition_irrefl allowed
    · have changes : q.status ≠ .dispatching := canTransition_irrefl allowed
      simp [RequestRecord.changes, transitionRecord, changes, Trail.Path, allowed, moved, touched]
    · have changes : q.status ≠ .dispatching := canTransition_irrefl allowed
      simp [entries, RequestRecord.changes, transitionRecord, changes, moved, touched]
    · exact List.filter_sublist.map _
  · cases called

theorem validated_journals (run : validated q actor now = .ok (q', rows)) : Journals [now] q q' rows := by
  unfold validated at run
  split at run
  · exact .recorded run (changing_transition .validating now) (by simp) (by simp)
  · cases run
    exact .silent ⟨rfl, rfl, rfl, rfl⟩ (.of_eq rfl rfl)

theorem claim_journals {later : Instant} (run : claim q actor now later = .ok (q', rows)) :
    Journals [now, later] q q' rows := by
  obtain ⟨⟨ready, _⟩, first, run⟩ := bind_eq_ok.mp run
  obtain ⟨⟨claimed, _⟩, second, done⟩ := bind_eq_ok.mp run
  cases done
  refine (validated_journals first).append (claimForDispatch_journals second) ?_
  unfold validated at first
  split at first
  · obtain ⟨_, called⟩ := recorded_ok first
    obtain ⟨moved, _⟩ := changing_transition .validating now q _ _ called
    rw [moved.status]
    nofun
  · cases first
    exact id

theorem escalate_journals {reason : String} (run : escalate q reason actor now = .ok (q', rows)) :
    Journals [now] q q' rows :=
  .recorded run (changing_markManualReview reason) (by simp) (by simp)

theorem applyAcceptance_journals {result : ProviderOperationResult}
    (run : applyAcceptance q result actor now = .ok (q', rows)) : Journals [now] q q' rows := by
  unfold applyAcceptance at run
  split at run
  · exact .recorded run (changing_markSucceeded _) (by simp) (by simp)
  · split at run
    · exact .recorded run (changing_markAccepted _) (by simp) (by simp)
    · exact escalate_journals run
  · split at run
    · exact .recorded run (changing_markAccepted _) (by simp) (by simp)
    · exact escalate_journals run
  · exact .recorded run (changing_markCancelled _) (by simp) (by simp)
  · exact escalate_journals run
  · exact escalate_journals run

theorem applyFailure_journals {policy : RetryPolicy} {result : ProviderOperationResult} {jitter : Rat}
    (run : applyFailure policy q result actor now jitter = .ok (q', rows)) : Journals [now] q q' rows := by
  unfold applyFailure at run
  dsimp only at run
  split at run
  · obtain ⟨_, _, run⟩ := bind_eq_ok.mp run
    exact .recorded run (changing_scheduleRetry _ _) (by simp) (by simp)
  · split at run
    · exact escalate_journals run
    · exact .recorded run (changing_markFailed _) (by simp) (by simp)

theorem attachedIfNew_links {result : ProviderOperationResult} (run : attachedIfNew q result now = .ok q') :
    KeepsLinks q q' := by
  unfold attachedIfNew at run
  split at run
  · rename_i new
    simp only [Bool.and_eq_true, decide_eq_true_eq, Bool.not_eq_true] at new
    obtain ⟨given, rfl⟩ := attachProviderReference_ok run
    exact ⟨rfl, fun _ same => given (Option.some.inj same), .inr (.inl new.2)⟩
  · cases run
    exact .of_eq rfl rfl

theorem recordSuperseded_journals {result : ProviderOperationResult}
    (run : recordSuperseded q result actor now = .ok (q', rows)) : Journals [now] q q' rows := by
  have kept := recordSuperseded_kept run
  obtain ⟨q'', attached, done⟩ := bind_eq_ok.mp run
  cases done
  exact .noted kept (attachedIfNew_links attached) _ _ _

theorem withProviderRequest_journals (q : IntegrationRequest) (result : ProviderOperationResult) :
    Journals times q (withProviderRequest q result) [] := by
  refine .silent (withProviderRequest_kept q result) ?_
  unfold withProviderRequest
  split <;> exact .of_eq rfl rfl

theorem settle_journals {policy : RetryPolicy} {result : ProviderOperationResult} {jitter : Rat}
    (run : settle policy q result actor now jitter = .ok (q', rows)) : Journals [now] q q' rows := by
  unfold settle at run
  split at run
  · exact recordSuperseded_journals run
  · rename_i attempt
    have dispatching := not_not.mp attempt
    split at run
    · exact (@withProviderRequest_journals [] q result).append (applyAcceptance_journals run) fun _ => dispatching
    · exact (@withProviderRequest_journals [] q result).append (applyFailure_journals run) fun _ => dispatching

end RequestDispatcher

/-- No request was created for a step. -/
def State.SameCreations (s s' : State) : Prop :=
  ∀ role executionId stepId requestId, Event.created role executionId stepId requestId ∈ s'.history ↔
    Event.created role executionId stepId requestId ∈ s.history

theorem State.SameCreations.of_eq (same : s'.history = s.history) : s.SameCreations s' :=
  fun _ _ _ _ => by rw [same]

/-- Who a new request belongs to: the client that asked for it, or nobody when
the orchestrator created it for a step. -/
inductive Born (frame : Frame) (s s' : State) (q : IntegrationRequest) : Actor → Prop
  | api {command : CreateCommand} : frame = .createRequest command → q.ownerSubject = command.actor.id →
      s'.history = s.history → Born frame s s' q command.actor
  | step {role executionId stepId} : q.ownerSubject = none →
      s'.history = s.history ++ [.created role executionId stepId q.id] →
      Born frame s s' q WorkflowOrchestrator.workflowActor

/-- Everything one committed frame does to the requests and to the rows about
them, at these readings of the clock. -/
inductive Journaled (readings : WorkflowOrchestrator.Readings) (frame : Frame) (s s' : State) : Prop
  | noted {rows : List RequestRecord} : s'.db.requests = s.db.requests →
      s'.db.requestRecords = s.db.requestRecords ++ rows →
      (∀ row ∈ rows, row.changes = false ∧ row.Announced) → s.SameCreations s' → Journaled readings frame s s'
  | born {q : IntegrationRequest} {actor : Actor} {rows : List RequestRecord} : s.db.requests.get q.id = none →
      q.status = .received → q.attemptCount = 0 → q.providerReference = none → Born frame s s' q actor →
      s'.db.requests = s.db.requests.put q →
      s'.db.requestRecords = s.db.requestRecords ++ creationRecord q actor :: rows →
      (∀ row ∈ rows, row.changes = false ∧ row.Announced) → q.createdAt = readings.now →
      Journaled readings frame s s'
  | wrote {q q' : IntegrationRequest} {rows : List RequestRecord} {db : Database} :
      s.db.requests.get q.id = some q → Journals [readings.now, readings.refreshedAt] q q' rows →
      s.db.updateRequest q' = .ok db →
      s'.db.requests = s.db.requests.put q' → s'.db.requestRecords = s.db.requestRecords ++ rows →
      s.SameCreations s' → Journaled readings frame s s'

namespace Journaled

variable {readings : WorkflowOrchestrator.Readings}

theorem same (requests : s'.db.requests = s.db.requests) (records : s'.db.requestRecords = s.db.requestRecords)
    (history : s'.history = s.history) : Journaled readings frame s s' :=
  .noted requests (by rw [records, List.append_nil]) (by simp) (.of_eq history)

theorem refl (frame : Frame) (s : State) : Journaled readings frame s s := same rfl rfl rfl

theorem action (q : IntegrationRequest) (action : AuditAction) (actor : Actor) (now : Instant) :
    Journaled readings frame s (s.recorded [actionRecord q action actor now]) := by
  refine .noted rfl rfl ?_ (.of_eq rfl)
  intro row member
  cases List.mem_singleton.mp member
  exact ⟨actionRecord_silent .., actionRecord_announced ..⟩

theorem saved (run : s.savedRequest q' rows = .ok s') (stored : s.db.requests.get q.id = some q)
    (journals : Journals [readings.now, readings.refreshedAt] q q' rows) : Journaled readings frame s s' := by
  obtain ⟨db, updated, done⟩ := bind_eq_ok.mp run
  cases done
  have wrote := Database.updateRequest_ok updated
  refine .wrote stored journals updated ?_ ?_ (.of_eq rfl)
  · rw [wrote]
    rfl
  · rw [wrote]
    rfl

/-- A new row has no reference. -/
theorem unlinked {requestId : UUID} (journaled : Journaled readings frame s s') (fresh : s.db.requests.get requestId = none)
    (stored : s'.db.requests.get requestId = some q) : q.providerReference = none := by
  cases journaled with
  | noted requests =>
    rw [requests, fresh] at stored
    cases stored
  | born _ _ _ unlinked _ requests =>
    rw [requests, Table.get_put, fresh] at stored
    split at stored
    · cases stored
      exact unlinked
    · cases stored
  | @wrote old new _ _ before journals _ requests =>
    rw [requests, Table.get_put, journals.id] at stored
    split at stored
    · rename_i same
      rw [same, before] at fresh
      cases fresh
    · rw [fresh] at stored
      cases stored

end Journaled

/-- A frame of a workflow creates the request of a step, or leaves the
requests alone. -/
theorem WorkflowStep.journaled (step : WorkflowStep input s frame s' pushed) :
    Journaled input.readings frame s s' := by
  rcases step.requests with ⟨requests, records, history, _⟩ | ⟨q, role, stepId, e, caller, new, created, _⟩
  · exact .same requests records history
  · obtain ⟨fresh, _, requests, records, _, history⟩ := State.created_writes created
    exact .born fresh new.received new.unattempted new.unlinked (.step new.unowned history) requests records
      (by simp) new.createdAt

namespace Frame

theorem execCreateRequest_journaled {command : CreateCommand}
    (run : execCreateRequest settings command input s = .ok (s', pushed)) :
    Journaled input.readings (.createRequest command) s s' := by
  unfold execCreateRequest at run
  split at run
  · cases run
  · split at run
    · cases run
    · obtain ⟨db, added, done⟩ := bind_eq_ok.mp run
      cases done
      obtain ⟨fresh, rfl⟩ := Database.addRequest_ok added
      refine .born fresh rfl rfl rfl (.api rfl rfl rfl) rfl rfl ?_ rfl
      intro row member
      cases List.mem_singleton.mp member
      exact ⟨actionRecord_silent .., actionRecord_announced ..⟩

theorem changing_applyTarget {target : RequestStatus} {reference : Option String} {failure : Option FailureDetail}
    {made : StatusTransition} (run : call (applyTarget target now reference failure) q = .ok (some made, q')) :
    Moved q q' target ∧ KeepsLinks q q' ∧ made = ⟨q.status, target, now⟩ := by
  have called : ∀ {method : Mutator Exn IntegrationRequest StatusTransition} {status : RequestStatus},
      Changing now method status → call (some <$> method) q = .ok (some made, q') →
      Moved q q' status ∧ KeepsLinks q q' ∧ made = ⟨q.status, status, now⟩ := by
    intro method status changing run
    obtain ⟨_, same, run⟩ := call_some_map run
    cases same
    exact changing q made q' run
  unfold applyTarget at run
  split at run
  · exact called (changing_markSucceeded _) run
  · exact called (changing_markFailed _) run
  · exact called (changing_markCancelled _) run
  · simp only [call_bind, call_get, Except.bind, call_ite] at run
    generalize (if truthy reference then reference else q.providerReference) = known at run
    split at run
    · simp at run
    · exact called (changing_markAccepted _) run
  · simp at run

theorem projected_announced {status : NormalizedStatus} {target : RequestStatus}
    (projected : projectNormalizedStatus status = some target) : target ≠ .dispatching ∧ target ≠ .validating := by
  refine ⟨?_, ?_⟩ <;> rintro rfl <;> cases status <;> simp [projectNormalizedStatus] at projected

theorem linked_kept (q : IntegrationRequest) (reference : Option String) : Kept q (q.linked reference) := by
  unfold linked
  split <;> exact ⟨rfl, rfl, rfl, rfl⟩

theorem linked_journals (q : IntegrationRequest) (reference : Option String) :
    Journals [] q (q.linked reference) [] := by
  refine .silent (linked_kept q reference) ?_
  unfold linked
  split
  · rename_i new
    simp only [Bool.and_eq_true, decide_eq_true_eq, Bool.not_eq_true] at new
    exact ⟨rfl, fun _ => truthy_named new.1, .inr (.inl new.2)⟩
  · exact .of_eq rfl rfl

theorem told_journaled {status : NormalizedStatus} {reference : Option String} {failure : Option FailureDetail}
    {made : StatusTransition} {action : AuditAction} (stored : s.db.requests.get q.id = some q)
    (applied : call (applyNormalizedStatus status input.readings.now reference failure) q = .ok (some made, q'))
    (saved : s.savedRequest q' [transitionRecord q' made action actor true] = .ok s') :
    Journaled input.readings frame s s' := by
  simp only [applyNormalizedStatus, call_bind, call_get, Except.bind] at applied
  split at applied
  · simp at applied
  · rename_i target projected
    rw [call_ite] at applied
    split at applied
    · simp at applied
    · simp only [call_bind, call_modify, Except.bind] at applied
      obtain ⟨moved, links, rfl⟩ := changing_applyTarget applied
      obtain ⟨settles, announced⟩ := projected_announced projected
      refine .saved saved stored (((linked_journals q reference).append
        (.link moved links settles (decide_eq_true announced).symm) ?_).early _)
      rw [(linked_kept q reference).status]
      exact id

theorem reportStep_journaled (step : ReportStep input s frame s' pushed) : Journaled input.readings frame s s' := by
  cases step with
  | noted => exact .action ..
  | cancelled _ stored moved saved =>
    exact .saved saved stored (.early (.recorded moved (changing_markCancelled _) (by simp) (by simp)) _)
  | escalated _ stored _ escalated saved => exact .saved saved stored ((escalate_journals escalated).early _)
  | polled _ stored applied saved => exact told_journaled stored applied saved
  | delivered _ found applied saved =>
    exact told_journaled (Database.requestByProviderReference_some found) applied saved
  | _ => exact .refl _ s

/-- Every committed frame keeps the journal of the requests. -/
theorem journaled (run : frame.exec settings input s = .ok (s', pushed)) :
    Journaled input.readings frame s s' := by
  by_cases workflow : frame.isWorkflow = true
  · exact (workflowStep workflow run).journaled
  cases frame <;> try exact absurd rfl workflow
  case createRequest command => exact execCreateRequest_journaled run
  case dispatch =>
    obtain ⟨q, found, run⟩ := bind_eq_ok.mp run
    have stored := State.request_stored found
    obtain ⟨⟨q', records⟩, claimed, run⟩ := bind_eq_ok.mp run
    obtain ⟨saved, wrote, done⟩ := bind_eq_ok.mp run
    cases done
    exact .saved wrote stored (claim_journals claimed)
  case callProvider =>
    obtain ⟨descriptor, _, rfl, _⟩ := execCallProvider_ok run
    refine .noted rfl (List.append_nil _).symm (by simp) ?_
    intro role executionId stepId requestId
    simp
  case settleAttempt =>
    obtain ⟨current, found, run⟩ := bind_eq_ok.mp run
    have stored := State.request_stored found
    obtain ⟨⟨settled, records⟩, outcome, run⟩ := bind_eq_ok.mp run
    obtain ⟨saved, wrote, done⟩ := bind_eq_ok.mp run
    cases done
    unfold savedSettlement at wrote
    split at wrote
    · exact .saved wrote stored ((settle_journals outcome).early _)
    · rename_i silent
      cases wrote
      -- nothing but a superseded outcome without a new reference writes no row
      simp only [settle, settleWrites, Bool.or_eq_true, not_or] at outcome silent
      rw [if_pos (by simpa using silent.1)] at outcome
      obtain ⟨_, _, done⟩ := bind_eq_ok.mp outcome
      cases done
      exact .action ..
  case claimRetry requestId =>
    simp only [exec, execClaimRetry] at run
    split at run
    · cases run; exact .refl _ s
    · rename_i q stored
      have id := Table.get_key stored
      split at run
      · obtain ⟨⟨q', records⟩, claimed, run⟩ := bind_eq_ok.mp run
        obtain ⟨saved, wrote, done⟩ := bind_eq_ok.mp run
        cases done
        exact .saved wrote (id.symm ▸ stored) ((claimForDispatch_journals claimed).early _)
      · cases run; exact .refl _ s
  case retryRequest =>
    obtain ⟨q, found, run⟩ := bind_eq_ok.mp run
    have stored := State.request_stored found
    split at run
    · cases run
    · obtain ⟨⟨q', records⟩, moved, run⟩ := bind_eq_ok.mp run
      obtain ⟨saved, wrote, done⟩ := bind_eq_ok.mp run
      cases done
      have journals : Journals [input.readings.now] q q' records :=
        .recorded moved (changing_restoreForRetry _) (by simp) (by simp)
      obtain ⟨db, updated, done⟩ := bind_eq_ok.mp wrote
      cases done
      have wrote := Database.updateRequest_ok updated
      refine .wrote stored (journals.early _) updated (by rw [wrote]; rfl) (by rw [wrote]; rfl) ?_
      intro role executionId stepId requestId
      simp
  all_goals exact reportStep_journaled (reportStep rfl run)

end Frame

end IntegrationOrchestrator
