import IntegrationOrchestrator.Entities.ProviderReports
import IntegrationOrchestrator.Store.RequestRows

namespace IntegrationOrchestrator

open Mutator

/-- The operation as a method of the entity. -/
def RequestOperation.method : RequestOperation → Mutator Exn IntegrationRequest Unit
  | .beginValidation now => Functor.discard (IntegrationRequest.beginValidation now)
  | .beginDispatch now => Functor.discard (IntegrationRequest.beginDispatch now)
  | .recordProviderPayload payload => modify (·.recordProviderPayload payload)
  | .markAccepted reference now => Functor.discard (IntegrationRequest.markAccepted reference now)
  | .markSucceeded now reference => Functor.discard (IntegrationRequest.markSucceeded now reference)
  | .markFailed failure now => Functor.discard (IntegrationRequest.markFailed failure now)
  | .scheduleRetry failure nextRetryAt now =>
    Functor.discard (IntegrationRequest.scheduleRetry failure nextRetryAt now)
  | .markCancelled now reason => Functor.discard (IntegrationRequest.markCancelled now reason)
  | .markManualReview reason now => Functor.discard (IntegrationRequest.markManualReview reason now)
  | .restoreForRetry nextRetryAt now => Functor.discard (IntegrationRequest.restoreForRetry nextRetryAt now)
  | .applyNormalizedStatus status now reference failure =>
    Functor.discard (IntegrationRequest.applyNormalizedStatus status now reference failure)
  | .attachProviderReference reference now => IntegrationRequest.attachProviderReference reference now
  | .touch now => modify (·.touched now)

/-- The entity after an operation; a caller that catches its exception keeps
what it has. -/
def RequestOperation.after (operation : RequestOperation) (q : IntegrationRequest) : IntegrationRequest :=
  Mutator.after operation.method q

def RequestOperation.Raises (operation : RequestOperation) (q : IntegrationRequest) : Prop :=
  ∃ e, call operation.method q = .error e

/-- The entity after any operations, failing ones included. -/
def IntegrationRequest.life (q : IntegrationRequest) (operations : List RequestOperation) : IntegrationRequest :=
  operations.foldl (fun q operation => operation.after q) q

namespace IntegrationRequest

variable {q q' : IntegrationRequest} {now : Instant}

theorem call_discard {α : Type} {method : Mutator Exn IntegrationRequest α} :
    call (Functor.discard method) q = (call method q).map fun out => ((), out.2) := call_map ..

theorem apply_eq_perform (operation : RequestOperation) (q : IntegrationRequest) :
    operation.apply q = perform operation.method q := by
  have discarded {α : Type} (method : Mutator Exn IntegrationRequest α) :
      perform method q = perform (Functor.discard method) q := by
    rw [perform, perform, call_discard]
    cases call method q <;> rfl
  cases operation with
  | recordProviderPayload => rfl
  | attachProviderReference => rfl
  | touch => rfl
  | _ => exact discarded _

theorem after_transition (requested : RequestStatus) :
    Mutator.after (transition requested now) q =
      if canTransition q.status requested then q.moved requested now else q := by
  by_cases allowed : canTransition q.status requested = true
  · have run := call_transition q requested now
    rw [if_pos allowed] at run
    rw [if_pos allowed, after_of_call run]
  · rw [if_neg allowed, transition, after_bind _ (call_get q), if_neg allowed, after_throw]

theorem after_transitionThen (requested : RequestStatus) (write : IntegrationRequest → IntegrationRequest) :
    Mutator.after (transitionThen requested now write) q =
      if canTransition q.status requested then write (q.moved requested now) else q := by
  by_cases allowed : canTransition q.status requested = true
  · have run := call_transitionThen q requested now write
    rw [if_pos allowed] at run
    rw [if_pos allowed, after_of_call run]
  · have raised := call_transition q requested now
    rw [if_neg allowed] at raised
    rw [if_neg allowed, transitionThen, after_bind_error _ raised, after_transition, if_neg allowed]

/-- What an operation that makes no status change may write. -/
structure Steady (q q' : IntegrationRequest) : Prop where
  status : q'.status = q.status
  nextRetryAt : q'.nextRetryAt = q.nextRetryAt
  reference : truthy q.providerReference = true → truthy q'.providerReference = true

/-- What every status change does to the columns that the schedulers read. -/
structure Changed (q q' : IntegrationRequest) : Prop where
  allowed : canTransition q.status q'.status = true
  version : q'.version = q.version + 1
  nextRetryAt : (q'.nextRetryAt.isSome = true ↔ q'.status = .retryScheduled) ∨
    (q.status ≠ .retryScheduled ∧ q'.status ≠ .retryScheduled ∧ q'.nextRetryAt = q.nextRetryAt)
  reference : q'.status = .pending → truthy q'.providerReference = true

/-- The method returns, with a status change. -/
def Changes {α : Type} (method : Mutator Exn IntegrationRequest α) (q : IntegrationRequest) : Prop :=
  ∃ out, call method q = .ok out ∧ Changed q out.2

/-- A method raises and leaves the entity alone, returns without a status
change, or makes one. -/
inductive Effect {α : Type} (method : Mutator Exn IntegrationRequest α) (q : IntegrationRequest) : Prop
  | raised {e : Exn} (run : call method q = .error e) (same : Mutator.after method q = q)
  | steady {out : α × IntegrationRequest} (run : call method q = .ok out) (kept : Steady q out.2)
  | changed (changes : Changes method q)

theorem Changes.map {α β : Type} {method : Mutator Exn IntegrationRequest α} (f : α → β)
    (changes : Changes method q) : Changes (f <$> method) q := by
  obtain ⟨out, run, changed⟩ := changes
  exact ⟨(f out.1, out.2), by rw [call_map, run]; rfl, changed⟩

theorem Effect.map {α β : Type} {method : Mutator Exn IntegrationRequest α} (f : α → β) (effect : Effect method q) :
    Effect (f <$> method) q := by
  cases effect with
  | raised run same => exact .raised (by rw [call_map, run]; rfl) (by rw [after_map, same])
  | @steady out run kept =>
    have mapped : call (f <$> method) q = .ok (f out.1, out.2) := by rw [call_map, run]; rfl
    exact .steady mapped kept
  | changed changes => exact .changed (changes.map f)

theorem changes_transitionThen {requested : RequestStatus} {write : IntegrationRequest → IntegrationRequest}
    (allowed : canTransition q.status requested = true) (changed : Changed q (write (q.moved requested now))) :
    Changes (transitionThen requested now write) q := by
  have run := call_transitionThen q requested now write
  rw [if_pos allowed] at run
  exact ⟨_, run, changed⟩

theorem effect_transitionThen {requested : RequestStatus} {write : IntegrationRequest → IntegrationRequest}
    (changes : canTransition q.status requested = true → Changes (transitionThen requested now write) q) :
    Effect (transitionThen requested now write) q := by
  by_cases allowed : canTransition q.status requested = true
  · exact .changed (changes allowed)
  · have run := call_transitionThen q requested now write
    rw [if_neg allowed] at run
    exact .raised run (by rw [after_transitionThen, if_neg allowed])

/-- Only a request whose provider is called can be accepted. -/
theorem dispatching_of_pending (allowed : canTransition q.status .pending = true) : q.status = .dispatching := by
  cases status : q.status <;> simp_all [canTransition, transitions]

theorem received_of_validating (allowed : canTransition q.status .validating = true) : q.status = .received := by
  cases status : q.status <;> simp_all [canTransition, transitions]

theorem changes_markAccepted {reference : String} (nonempty : reference ≠ "")
    (allowed : canTransition q.status .pending = true) : Changes (markAccepted reference now) q := by
  unfold markAccepted
  rw [if_neg nonempty]
  have calling : q.status ≠ .retryScheduled := by simp [dispatching_of_pending allowed]
  exact changes_transitionThen allowed ⟨allowed, rfl, Or.inr ⟨calling, by simp [moved, touched, clearedError], rfl⟩,
    fun _ => by simp [truthy, clearedError, nonempty]⟩

theorem changes_markSucceeded (reference : Option String) (allowed : canTransition q.status .succeeded = true) :
    Changes (markSucceeded now reference) q :=
  changes_transitionThen allowed ⟨allowed, rfl, Or.inl (by simp [moved, touched, clearedError]),
    by simp [moved, touched, clearedError]⟩

theorem changes_markFailed (failure : FailureDetail) (allowed : canTransition q.status .failed = true) :
    Changes (markFailed failure now) q :=
  changes_transitionThen allowed ⟨allowed, rfl, Or.inl (by simp [moved, touched, withFailure]),
    by simp [moved, touched, withFailure]⟩

theorem changes_markCancelled (reason : Option String) (allowed : canTransition q.status .cancelled = true) :
    Changes (markCancelled now reason) q :=
  changes_transitionThen allowed ⟨allowed, rfl, Or.inl (by simp [moved, touched]), by simp [moved, touched]⟩

theorem linked_status (reported : Option String) : (q.linked reported).status = q.status := by
  unfold linked
  split <;> rfl

/-- A reference that a report brings along is no part of the status change. -/
theorem Changed.of_linked {reported : Option String} (changed : Changed (q.linked reported) q') : Changed q q' := by
  have same : (q.linked reported).version = q.version ∧ (q.linked reported).nextRetryAt = q.nextRetryAt := by
    unfold linked
    split <;> exact ⟨rfl, rfl⟩
  obtain ⟨allowed, version, nextRetryAt, reference⟩ := changed
  rw [linked_status] at allowed nextRetryAt
  rw [same.1] at version
  rw [same.2] at nextRetryAt
  exact ⟨allowed, version, nextRetryAt, reference⟩

theorem changes_of_linked {α : Type} {method : Mutator Exn IntegrationRequest α} {reported : Option String}
    (changes : Changes method (q.linked reported)) : Changes (do modify (·.linked reported); method) q := by
  obtain ⟨out, run, changed⟩ := changes
  exact ⟨out, by rw [call_bind, call_modify]; exact run, changed.of_linked⟩

theorem steady_refl (q : IntegrationRequest) : Steady q q := ⟨rfl, rfl, fun known => known⟩

/-- A report never raises: what it would refuse is no forward progress. -/
theorem effect_applyNormalizedStatus (status : NormalizedStatus) (reported : Option String)
    (failure : Option FailureDetail) : Effect (applyNormalizedStatus status now reported failure) q := by
  by_cases stays : ∀ target, projectNormalizedStatus status = some target → isForwardProgress q.status target = false
  · exact .steady (call_report_stays now reported failure stays) (steady_refl q)
  · push Not at stays
    obtain ⟨target, projected, forward⟩ := stays
    have forward : isForwardProgress q.status target = true := by simpa using forward
    have allowed : canTransition (q.linked reported).status target = true :=
      (linked_status reported).symm ▸ isForwardProgress_allowed forward
    have unfolded : call (applyNormalizedStatus status now reported failure) q =
        call (do modify (·.linked reported); applyTarget target now reported failure) q := by
      rw [applyNormalizedStatus, call_bind, call_get]
      simp only [Except.bind, projected, forward, not_true_eq_false, if_false]
    have changing (changes : Changes (applyTarget target now reported failure) (q.linked reported)) :
        Effect (applyNormalizedStatus status now reported failure) q := by
      obtain ⟨out, run, changed⟩ := changes_of_linked changes
      exact .changed ⟨out, unfolded.trans run, changed⟩
    cases target with
    | succeeded => exact changing ((changes_markSucceeded reported allowed).map some)
    | failed => exact changing ((changes_markFailed (failure.getD reportedFailure) allowed).map some)
    | cancelled => exact changing ((changes_markCancelled (some "cancelled by the provider") allowed).map some)
    | pending =>
      -- the reference of the report, or else the one on file
      let reference := if truthy reported then reported else (q.linked reported).providerReference
      have chosen : call (applyTarget .pending now reported failure) (q.linked reported) =
          call (if ¬ truthy reference then return none else some <$> markAccepted (reference.getD "") now)
            (q.linked reported) := by
        rw [applyTarget, call_bind, call_get]
        rfl
      by_cases named : truthy reference = true
      · have nonempty : reference.getD "" ≠ "" := by simpa [truthy] using named
        obtain ⟨out, run, changed⟩ := (changes_markAccepted nonempty allowed).map some
        rw [if_neg (not_not.mpr named), run] at chosen
        exact changing ⟨out, chosen, changed⟩
      · rw [if_pos named] at chosen
        have run : call (applyNormalizedStatus status now reported failure) q = .ok (none, q.linked reported) := by
          rw [unfolded, call_bind, call_modify]
          exact chosen
        have same : q.linked reported = q := applyNormalizedStatus_unchanged run
        rw [same] at run
        exact .steady run (steady_refl q)
    | received | validating | dispatching | retryScheduled | manualReview => cases status <;> cases projected

/-- The two reasons for which a reference is not attached. -/
def refusesReference (q : IntegrationRequest) (reference : String) : Bool :=
  reference = "" || (truthy q.providerReference && q.providerReference ≠ some reference)

theorem attachProviderReference_run (reference : String) :
    (q.refusesReference reference = true ∧ (∃ e, call (attachProviderReference reference now) q = .error e) ∧
      Mutator.after (attachProviderReference reference now) q = q) ∨
    (q.refusesReference reference = false ∧ call (attachProviderReference reference now) q =
      .ok ((), { q with providerReference := some reference }.touched now)) := by
  unfold refusesReference attachProviderReference
  rw [call_bind, call_get, after_bind _ (call_get q)]
  simp only [Except.bind]
  by_cases empty : reference = ""
  · rw [if_pos empty]
    exact Or.inl ⟨by simp [empty], ⟨_, rfl⟩, rfl⟩
  · rw [if_neg empty]
    by_cases other : (truthy q.providerReference && decide (q.providerReference ≠ some reference)) = true
    · rw [if_pos other]
      exact Or.inl ⟨by rw [other, Bool.or_true], ⟨_, rfl⟩, rfl⟩
    · rw [if_neg other]
      have accepts := Bool.eq_false_iff.mpr other
      exact Or.inr ⟨by rw [accepts, Bool.or_false, decide_eq_false empty], rfl⟩

theorem after_attachProviderReference (reference : String) :
    Mutator.after (attachProviderReference reference now) q =
      if q.refusesReference reference then q else { q with providerReference := some reference }.touched now := by
  rcases attachProviderReference_run reference with ⟨refuses, _, same⟩ | ⟨accepts, run⟩
  · rw [if_pos refuses, same]
  · rw [after_of_call run, if_neg (by simp [accepts])]

theorem effect_attachProviderReference (reference : String) : Effect (attachProviderReference reference now) q := by
  rcases attachProviderReference_run reference with ⟨_, ⟨_, raised⟩, same⟩ | ⟨accepts, run⟩
  · exact .raised raised same
  · have nonempty : reference ≠ "" := fun empty => by simp [refusesReference, empty] at accepts
    exact .steady run ⟨rfl, rfl, fun _ => by simp [truthy, touched, nonempty]⟩

/-- What any operation of the entity does. -/
theorem operation_effect (operation : RequestOperation) (q : IntegrationRequest) : Effect operation.method q := by
  cases operation with
  | beginValidation now =>
    refine Effect.map _ (?_ : Effect (transition .validating now) q)
    by_cases allowed : canTransition q.status .validating = true
    · have run := call_transition q .validating now
      rw [if_pos allowed] at run
      have fresh : q.status ≠ .retryScheduled := by simp [received_of_validating allowed]
      exact .changed ⟨_, run, allowed, rfl, Or.inr ⟨fresh, by simp [moved, touched], rfl⟩, by simp [moved, touched]⟩
    · have run := call_transition q .validating now
      rw [if_neg allowed] at run
      exact .raised run (by rw [after_transition, if_neg allowed])
  | beginDispatch now =>
    exact Effect.map _ (effect_transitionThen fun allowed => changes_transitionThen allowed
      ⟨allowed, rfl, Or.inl (by simp [moved, touched]), by simp [moved, touched]⟩)
  | recordProviderPayload payload => exact .steady (call_modify _ q) ⟨rfl, rfl, fun known => known⟩
  | markAccepted reference now =>
    refine Effect.map _ ?_
    by_cases empty : reference = ""
    · rw [markAccepted, if_pos empty]
      exact .raised rfl rfl
    · rw [markAccepted, if_neg empty]
      refine effect_transitionThen fun allowed => ?_
      have changes : Changes (IntegrationRequest.markAccepted reference now) q := changes_markAccepted empty allowed
      rwa [markAccepted, if_neg empty] at changes
  | markSucceeded now reference => exact Effect.map _ (effect_transitionThen (changes_markSucceeded reference))
  | markFailed failure now => exact Effect.map _ (effect_transitionThen (changes_markFailed failure))
  | scheduleRetry failure nextRetryAt now =>
    exact Effect.map _ (effect_transitionThen fun allowed => changes_transitionThen allowed
      ⟨allowed, rfl, Or.inl (by simp [moved, touched, withFailure]), by simp [moved, touched, withFailure]⟩)
  | markCancelled now reason => exact Effect.map _ (effect_transitionThen (changes_markCancelled reason))
  | markManualReview reason now =>
    exact Effect.map _ (effect_transitionThen fun allowed => changes_transitionThen allowed
      ⟨allowed, rfl, Or.inl (by simp [moved, touched]), by simp [moved, touched]⟩)
  | restoreForRetry nextRetryAt now =>
    exact Effect.map _ (effect_transitionThen fun allowed => changes_transitionThen allowed
      ⟨allowed, rfl, Or.inl (by simp [moved, touched]), by simp [moved, touched]⟩)
  | applyNormalizedStatus status now reference failure =>
    exact Effect.map _ (effect_applyNormalizedStatus status reference failure)
  | attachProviderReference reference now => exact effect_attachProviderReference reference
  | touch now => exact .steady (call_modify _ q) ⟨rfl, rfl, fun known => known⟩

/-- The columns that the schedulers rely on. -/
structure Schedulable (q : IntegrationRequest) : Prop where
  nextRetryAt : q.nextRetryAt.isSome = true ↔ q.status = .retryScheduled
  reference : q.status = .pending → truthy q.providerReference = true

theorem Changed.schedulable (changed : Changed q q') (sound : Schedulable q) : Schedulable q' := by
  refine ⟨?_, changed.reference⟩
  rcases changed.nextRetryAt with written | ⟨before, after, kept⟩
  · exact written
  · rw [kept, sound.nextRetryAt]
    exact ⟨fun waits => absurd waits before, fun waits => absurd waits after⟩

theorem Steady.schedulable (kept : Steady q q') (sound : Schedulable q) : Schedulable q' := by
  refine ⟨?_, fun pending => kept.reference (sound.reference (kept.status.symm.trans pending))⟩
  rw [kept.nextRetryAt, kept.status]
  exact sound.nextRetryAt

theorem after_effect (operation : RequestOperation) (q : IntegrationRequest) :
    operation.after q = q ∨ Steady q (operation.after q) ∨ Changed q (operation.after q) := by
  unfold RequestOperation.after
  cases operation_effect operation q with
  | raised _ same => exact Or.inl same
  | steady run kept => exact Or.inr (Or.inl (after_of_call run ▸ kept))
  | changed changes =>
    obtain ⟨out, run, changed⟩ := changes
    exact Or.inr (Or.inr (after_of_call run ▸ changed))

theorem schedulable_after (operation : RequestOperation) (sound : Schedulable q) : Schedulable (operation.after q) := by
  rcases after_effect operation q with same | kept | changed
  · exact same.symm ▸ sound
  · exact kept.schedulable sound
  · exact changed.schedulable sound

theorem schedulable_life (operations : List RequestOperation) (sound : Schedulable q) :
    Schedulable (q.life operations) := by
  induction operations generalizing q with
  | nil => exact sound
  | cons operation rest ih => exact ih (schedulable_after operation sound)

theorem terminal_after (operation : RequestOperation) (terminal : q.status.isTerminal = true) :
    (operation.after q).status = q.status := by
  rcases after_effect operation q with same | kept | changed
  · rw [same]
  · exact kept.status
  · have allowed := changed.allowed
    cases status : q.status <;> simp_all [RequestStatus.isTerminal, canTransition, transitions]

theorem terminal_life (operations : List RequestOperation) (terminal : q.status.isTerminal = true) :
    (q.life operations).status = q.status := by
  induction operations generalizing q with
  | nil => rfl
  | cons operation rest ih =>
    have kept := terminal_after operation terminal
    exact (ih (kept.symm ▸ terminal)).trans kept

theorem unchanged_of_raises {operation : RequestOperation} (raises : operation.Raises q) : operation.after q = q := by
  obtain ⟨e, raised⟩ := raises
  cases operation_effect operation q with
  | raised _ same => exact same
  | steady run _ => exact absurd (raised.symm.trans run) (by simp)
  | changed changes =>
    obtain ⟨out, run, _⟩ := changes
    exact absurd (raised.symm.trans run) (by simp)

theorem version_of_change {operation : RequestOperation} (changes : (operation.after q).status ≠ q.status) :
    (operation.after q).version = q.version + 1 := by
  rcases after_effect operation q with same | kept | changed
  · exact absurd (congrArg status same) changes
  · exact absurd kept.status changes
  · exact changed.version

/-- Whatever is called on a request since its creation, exceptions caught: the
retry worker and the reconciliation find the columns they select by in order, a
settled request stays settled, a status change is one version, and a call that
raises leaves no trace. -/
theorem request_schedulable (id : UUID) (provider : ProviderSlug) (operationType : OperationType)
    (externalReference : ExternalReference) (payload : Payload) (correlationId : CorrelationId) (created : Instant)
    (ownerSubject : Option String) (operations : List RequestOperation) :
    let q := (create id provider operationType externalReference payload correlationId created ownerSubject).life
      operations
    (q.nextRetryAt.isSome = true ↔ q.status = .retryScheduled) ∧
      (q.status = .pending → ∃ reference, q.providerReference = some reference ∧ reference ≠ "") ∧
      (q.status = .succeeded ∨ q.status = .cancelled → ∀ more, (q.life more).status = q.status) ∧
      (∀ operation : RequestOperation, (operation.after q).status ≠ q.status →
        (operation.after q).version = q.version + 1) ∧
      ∀ operation : RequestOperation, operation.Raises q → operation.after q = q := by
  intro q
  have sound : Schedulable q := schedulable_life operations ⟨by simp [create], by simp [create]⟩
  refine ⟨sound.nextRetryAt, fun pending => ?_, fun settled more => ?_, fun _ => version_of_change,
    fun _ => unchanged_of_raises⟩
  · have named := sound.reference pending
    cases known : q.providerReference with
    | none => simp [truthy, known] at named
    | some reference => exact ⟨reference, rfl, by simpa [truthy, known] using named⟩
  · refine terminal_life more ?_
    rcases settled with settled | settled <;> simp [settled, RequestStatus.isTerminal]

end IntegrationRequest

end IntegrationOrchestrator
