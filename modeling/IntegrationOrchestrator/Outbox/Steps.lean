import IntegrationOrchestrator.Outbox.Publisher

namespace IntegrationOrchestrator

namespace Publication

theorem accept_eq (p : Publication) :
    p.accept.events = p.events ∧ p.accept.published = p.published ++ p.rest.take 1 ∧
      p.accept.failures = p.failures ∧ p.accept.rest = p.rest.drop 1 := by
  unfold accept
  split
  · rename_i remaining
    simp [remaining]
  · rename_i event rest remaining
    simp [remaining]

theorem refuse_eq (p : Publication) (reason : String) :
    (p.refuse reason).events = p.events ∧ (p.refuse reason).published = p.published ∧
      (p.refuse reason).failures = p.failures ++ (p.rest.take 1).map (·, reason) ∧
      (p.refuse reason).rest = p.rest.drop 1 := by
  unfold refuse
  split
  · rename_i remaining
    simp [remaining]
  · rename_i event rest remaining
    simp [remaining]

theorem published_subset (p : Publication) : p.published ⊆ p.events := fun _ member =>
  p.covers.subset (by simp [member])

theorem failures_subset (p : Publication) : p.failures.map Prod.fst ⊆ p.events := fun _ member =>
  p.covers.subset (by simp only [List.mem_append]; exact .inl (.inr member))

end Publication

namespace PublishCall

variable (caller : PublishCall) (reason : String)

@[simp] theorem returned_events : caller.returned.events = caller.events := by
  cases caller with
  | batch events => rfl
  | single p => exact p.accept_eq.1

@[simp] theorem returned_published : caller.returned.published = caller.published ++ caller.envelopes := by
  cases caller with
  | batch events => rfl
  | single p => exact p.accept_eq.2.1

@[simp] theorem returned_failures : caller.returned.failures = caller.failures := by
  cases caller with
  | batch events => rfl
  | single p => exact p.accept_eq.2.2.1

@[simp] theorem refused_events : (caller.refused reason).events = caller.events := by
  cases caller with
  | batch events => rfl
  | single p => exact (p.refuse_eq reason).1

@[simp] theorem refused_published : (caller.refused reason).published = caller.published := by
  cases caller with
  | batch events => rfl
  | single p => exact (p.refuse_eq reason).2.1

theorem envelopes_subset : caller.envelopes ⊆ caller.events := by
  cases caller with
  | batch events => exact List.Subset.refl _
  | single p =>
    intro event member
    exact p.covers.subset (List.mem_append_right _ (List.mem_of_mem_take member))

end PublishCall

namespace OutboxFrame

/-- The batch that a frame is about. -/
def events : OutboxFrame → List OutboxEvent
  | .publishBatch caller | .handOver caller _ | .awaitAcks caller _ => caller.events
  | .settle p => p.events
  | _ => []

/-- The events of the batch that a frame takes to be published. -/
def published : OutboxFrame → List OutboxEvent
  | .publishBatch caller | .handOver caller _ => caller.published
  | .awaitAcks caller acked => caller.published ++ caller.envelopes.take acked
  | .settle p => p.published
  | _ => []

/-- The events of the batch that a frame takes to have failed. -/
def failures : OutboxFrame → List (OutboxEvent × String)
  | .publishBatch caller | .handOver caller _ | .awaitAcks caller _ => caller.failures
  | .settle p => p.failures
  | _ => []

end OutboxFrame

namespace Publication

variable (p : Publication)

@[simp] theorem next_events : p.next.events = p.events := by
  unfold next
  split <;> rfl

@[simp] theorem next_published : p.next.published = p.published := by
  unfold next
  split <;> rfl

@[simp] theorem next_failures : p.next.failures = p.failures := by
  unfold next
  split <;> rfl

end Publication

namespace OutboxFrame

/-- The frames that run inside `publish_batch`, with its caller. -/
def calledBy : OutboxFrame → Option PublishCall
  | .publishBatch caller | .handOver caller _ | .awaitAcks caller _ => some caller
  | _ => none

/-- Everything that one unit of work can do. -/
inductive Step (settings : OutboxSettings) (s : OutboxState) : OutboxFrame → OutboxState → List OutboxFrame → Prop
  | wait {clock clock' : Instant} : s.clock ≤ clock' → Step settings s (.wait clock) { s with clock := clock' } []
  | stage {content : OutboxContent} : content.id ∉ s.staged.map (·.id) →
      Step settings s (.stage content)
        { s with outbox := s.outbox.put { content with }, staged := s.staged ++ [content] } []
  | redrive {ids : List UUID} :
      Step settings s (.redrive ids) { s with outbox := s.outbox.redriveDeadLettered ids s.clock } []
  | runOnce : Step settings s .runOnce s [.claim s.clock]
  | claim {now : Instant} {locked : UUID → Bool} {outbox : Outbox} {events : List OutboxEvent} :
      s.outbox.claimUnpublished now settings.outboxBatchSize (settings.leaseUntil now) locked = (outbox, events) →
      Step settings s (.claim now) { s with outbox := outbox }
        [if events = [] then .purge else .publishBatch (.batch events)]
  | purge {cutoff : Instant} :
      Step settings s .purge { s with outbox := s.outbox.purgePublishedBefore cutoff } []
  | enter {caller : PublishCall} : Step settings s (.publishBatch caller) s [.handOver caller 0]
  | hand {caller : PublishCall} {sent : Nat} {event : OutboxEvent} : caller.envelopes[sent]? = some event →
      Step settings s (.handOver caller sent) (s.logs (.handedOver event.id (OutboxFrame.hand settings event)))
        [.handOver caller (sent + 1)]
  | await {caller : PublishCall} {sent : Nat} : Step settings s (.handOver caller sent) s [.awaitAcks caller 0]
  | ack {caller : PublishCall} {acked : Nat} {event : OutboxEvent} : caller.envelopes[acked]? = some event →
      Step settings s (.awaitAcks caller acked) (s.logs (.acknowledged event.id event.eventId))
        [.awaitAcks caller (acked + 1)]
  | returnsNothing {caller : PublishCall} : caller.envelopes = [] →
      Step settings s (.publishBatch caller) s [caller.returned.next]
  | returns {caller : PublishCall} {acked : Nat} : caller.envelopes.length ≤ acked →
      Step settings s (.awaitAcks caller acked) s [caller.returned.next]
  | catches {frame : OutboxFrame} {caller : PublishCall} (reason : String) : frame.calledBy = some caller →
      Step settings s frame { s with log := s.log ++ caller.failedEvents } [(caller.refused reason).next]
  | settle {p : Publication} :
      Step settings s (.settle p) { s with outbox := settled settings s.clock p s.outbox } []

variable {settings : OutboxSettings} {frame : OutboxFrame} {input : OutboxInput} {s s' : OutboxState}
  {pushed : List OutboxFrame}

theorem exec_step (run : exec settings frame input s = .ok (s', pushed)) : Step settings s frame s' pushed := by
  cases frame with
  | wait clock =>
    cases run
    exact .wait (le_max_left ..)
  | stage content =>
    simp only [exec] at run
    split at run
    · cases run
    · rename_i fresh
      cases run
      exact .stage fresh
  | redrive ids =>
    cases run
    exact .redrive
  | runOnce =>
    cases run
    exact .runOnce
  | claim now =>
    cases run
    exact .claim rfl
  | purge =>
    cases run
    exact .purge
  | publishBatch caller =>
    simp only [exec] at run
    split at run
    · rename_i nothing
      cases run
      exact .returnsNothing nothing
    · split at run
      · cases run
        exact .enter
      · cases run
        exact .catches _ rfl
  | handOver caller sent =>
    simp only [exec] at run
    split at run
    · cases run
      exact .await
    · rename_i event here
      split at run
      · cases run
      · cases run
        exact .hand here
  | awaitAcks caller acked =>
    simp only [exec] at run
    split at run
    · rename_i beyond
      cases run
      exact .returns (List.getElem?_eq_none_iff.mp beyond)
    · rename_i event here
      split at run
      · cases run
        exact .ack here
      · cases run
        exact .catches _ rfl
      · cases run
  | settle p =>
    cases run
    exact .settle

/-! ### Rows -/

def publishedRow (now : Instant) (p : Publication) (row : OutboxEvent) : OutboxEvent :=
  if row.id ∈ p.published.map (·.id) then row.markPublished now else row

def failedRow (settings : OutboxSettings) (now : Instant) (failure : OutboxEvent × String) (row : OutboxEvent) :
    OutboxEvent :=
  if row.id = failure.1.id then
    if settings.outboxMaxAttempts ≤ failure.1.attemptCount + 1 then row.markDeadLettered failure.2 now
    else row.markFailed failure.2 (settings.nextAttemptAt now failure.1)
  else row

/-- The row after its batch was settled. -/
def settledRow (settings : OutboxSettings) (now : Instant) (p : Publication) (row : OutboxEvent) : OutboxEvent :=
  p.failures.foldl (fun row failure => failedRow settings now failure row) (publishedRow now p row)

theorem get_markPublished (now : Instant) (p : Publication) (t : Outbox) (id : UUID) :
    (t.markPublished (p.published.map (·.id)) now).get id = (t.get id).map (publishedRow now p) := by
  rw [Outbox.markPublished, Outbox.get_update]
  simp only [decide_eq_true_eq]
  rfl

theorem get_settleFailure (now : Instant) (id : UUID) (t : Outbox) (failure : OutboxEvent × String) :
    (settleFailure settings now t failure).get id = (t.get id).map (failedRow settings now failure) := by
  unfold settleFailure failedRow
  split
  · rw [Outbox.markDeadLettered, Outbox.get_update]
    simp only [decide_eq_true_eq]
  · rw [Outbox.markFailed, Outbox.get_update]
    simp only [decide_eq_true_eq]

theorem get_settled (now : Instant) (p : Publication) (t : Outbox) (id : UUID) :
    (settled settings now p t).get id = (t.get id).map (settledRow settings now p) := by
  rw [settled, Table.get_foldl (get_settleFailure now id), get_markPublished, Option.map_map]
  rfl

/-- What a settled row went through: it was published if it is among the
published events, and then once more for each of its failures. -/
theorem settledRow_induction {now : Instant} {p : Publication} {row : OutboxEvent} (holds : OutboxEvent → Prop)
    (start : row.id ∉ p.published.map (·.id) → holds row)
    (publish : row.id ∈ p.published.map (·.id) → holds (row.markPublished now))
    (deadLetter : ∀ failure ∈ p.failures, row.id = failure.1.id →
      settings.outboxMaxAttempts ≤ failure.1.attemptCount + 1 →
      ∀ middle : OutboxEvent, middle.toOutboxContent = row.toOutboxContent → holds middle →
        holds (middle.markDeadLettered failure.2 now))
    (fail : ∀ failure ∈ p.failures, row.id = failure.1.id →
      ∀ middle : OutboxEvent, middle.toOutboxContent = row.toOutboxContent → holds middle →
        holds (middle.markFailed failure.2 (settings.nextAttemptAt now failure.1))) :
    holds (settledRow settings now p row) := by
  have marked : (publishedRow now p row).toOutboxContent = row.toOutboxContent ∧ holds (publishedRow now p row) := by
    unfold publishedRow
    split
    · rename_i among
      exact ⟨rfl, publish among⟩
    · rename_i outside
      exact ⟨rfl, start outside⟩
  refine (List.foldlRecOn p.failures _ (motive := fun middle : OutboxEvent =>
    middle.toOutboxContent = row.toOutboxContent ∧ holds middle) marked ?_).2
  intro middle ⟨same, held⟩ failure member
  have sameId : middle.id = row.id := congrArg OutboxContent.id same
  unfold failedRow
  split
  · rename_i here
    have here : row.id = failure.1.id := sameId ▸ here
    split
    · rename_i exhausted
      exact ⟨same, deadLetter failure member here exhausted middle same held⟩
    · exact ⟨same, fail failure member here middle same held⟩
  · exact ⟨same, held⟩

@[simp] theorem settledRow_content (now : Instant) (p : Publication) (row : OutboxEvent) :
    (settledRow settings now p row).toOutboxContent = row.toOutboxContent :=
  settledRow_induction (·.toOutboxContent = row.toOutboxContent) (fun _ => rfl) (fun _ => rfl)
    (fun _ _ _ _ _ same _ => same) (fun _ _ _ _ same _ => same)

/-- Everything that one unit of work can do to a stored row. -/
inductive Writes (settings : OutboxSettings) (s : OutboxState) : OutboxFrame → OutboxEvent → OutboxEvent → Prop
  | kept {frame : OutboxFrame} {row : OutboxEvent} : Writes settings s frame row row
  | leased {now : Instant} {row : OutboxEvent} : row.claimable now = true →
      Writes settings s (.claim now) row (row.leased (settings.leaseUntil now))
  | redriven {ids : List UUID} {row : OutboxEvent} : row.deadLetteredAt.isSome = true → row.publishedAt = none →
      Writes settings s (.redrive ids) row (row.redriven s.clock)
  | settled {p : Publication} {row : OutboxEvent} :
      Writes settings s (.settle p) row (settledRow settings s.clock p row)

theorem Writes.content {row row' : OutboxEvent} (writes : Writes settings s frame row row') :
    row'.toOutboxContent = row.toOutboxContent := by
  cases writes with
  | kept => rfl
  | leased _ => rfl
  | redriven _ _ => rfl
  | settled => exact settledRow_content _ _ _

theorem get_claimUnpublished {t outbox : Outbox} {now leaseUntil : Instant} {limit : Nat} {locked : UUID → Bool}
    {events : List OutboxEvent} (claimed : t.claimUnpublished now limit leaseUntil locked = (outbox, events))
    {id : UUID} {row : OutboxEvent} (stored : t.get id = some row) :
    (row ∈ t.selected now limit locked ∧ outbox.get id = some (row.leased leaseUntil)) ∨
      (id ∉ events.map (·.id) ∧ outbox.get id = some row) := by
  simp only [Outbox.claimUnpublished, Prod.mk.injEq] at claimed
  obtain ⟨rfl, rfl⟩ := claimed
  have same : row.id = id := Outbox.get_id stored
  rw [Outbox.get_update, stored]
  by_cases chosen : row.id ∈ (t.selected now limit locked).map (·.id)
  · obtain ⟨other, member, sameId⟩ := List.mem_map.mp chosen
    have stored' := (Outbox.mem_selected member).1
    have equal : other = row := by
      rw [show other.id = id from sameId.trans same, stored] at stored'
      exact (Option.some.inj stored').symm
    exact .inl ⟨equal ▸ member, congrArg some (if_pos (decide_eq_true chosen))⟩
  · refine .inr ⟨?_, congrArg some (if_neg (by simpa only [decide_eq_true_eq] using chosen))⟩
    rw [List.map_map, ← same]
    exact chosen

/-- A stored row is written to, or it was published and is deleted. -/
theorem Step.stays (step : Step settings s frame s' pushed) {id : UUID} {row : OutboxEvent}
    (known : id ∈ s.staged.map (·.id)) (stored : s.outbox.get id = some row) :
    (∃ row', s'.outbox.get id = some row' ∧ Writes settings s frame row row') ∨
      (frame = .purge ∧ s'.outbox.get id = none ∧ row.isPublished = true) := by
  cases step with
  | @stage content fresh =>
    refine .inl ⟨row, ?_, .kept⟩
    have other : id ≠ content.id := fun same => fresh (same ▸ known)
    rw [Table.get_put, if_neg other]
    exact stored
  | @redrive ids =>
    refine .inl ⟨_, by rw [Outbox.redriveDeadLettered, Outbox.get_update, stored]; rfl, ?_⟩
    dsimp only
    split
    · rename_i chosen
      simp only [Bool.and_eq_true, decide_eq_true_eq, Option.isNone_iff_eq_none] at chosen
      exact .redriven chosen.1.2 chosen.2
    · exact .kept
  | claim claimed =>
    rcases get_claimUnpublished claimed stored with ⟨member, after⟩ | ⟨_, after⟩
    · exact .inl ⟨_, after, .leased (Outbox.mem_selected member).2⟩
    · exact .inl ⟨_, after, .kept⟩
  | @purge cutoff =>
    by_cases old : row.publishedAt.any (· < cutoff) = true
    · refine .inr ⟨rfl, by simp [Outbox.purgePublishedBefore, stored, old, Option.filter], ?_⟩
      obtain ⟨at', published, _⟩ := (Option.any_eq_true ..).mp old
      simp [OutboxEvent.isPublished, published]
    · exact .inl ⟨row, by simp [Outbox.purgePublishedBefore, stored, old, Option.filter], .kept⟩
  | settle => exact .inl ⟨_, by rw [get_settled, stored]; rfl, .settled⟩
  | _ => exact .inl ⟨row, stored, .kept⟩

/-- A row that is there after a unit of work was there before, or is new. -/
theorem Step.comes (step : Step settings s frame s' pushed) {id : UUID} {row' : OutboxEvent}
    (stored : s'.outbox.get id = some row') :
    (∃ row, s.outbox.get id = some row) ∨
      ∃ content, frame = .stage content ∧ content.id = id ∧ row' = { content with } := by
  cases step with
  | @stage content fresh =>
    rw [Table.get_put] at stored
    split at stored
    · rename_i same
      exact .inr ⟨content, rfl, same.symm, (Option.some.inj stored).symm⟩
    · exact .inl ⟨_, stored⟩
  | @redrive ids =>
    rw [Outbox.redriveDeadLettered, Outbox.get_update] at stored
    obtain ⟨row, before, _⟩ := Option.map_eq_some_iff.mp stored
    exact .inl ⟨row, before⟩
  | claim claimed =>
    simp only [Outbox.claimUnpublished, Prod.mk.injEq] at claimed
    obtain ⟨rfl, _⟩ := claimed
    rw [Outbox.get_update] at stored
    obtain ⟨row, before, _⟩ := Option.map_eq_some_iff.mp stored
    exact .inl ⟨row, before⟩
  | purge =>
    rw [Outbox.purgePublishedBefore, Table.get_filterRows] at stored
    exact .inl ⟨_, (Option.filter_eq_some_iff.mp stored).1⟩
  | settle =>
    rw [get_settled] at stored
    obtain ⟨row, before, _⟩ := Option.map_eq_some_iff.mp stored
    exact .inl ⟨row, before⟩
  | _ => exact .inl ⟨_, stored⟩

/-- What no unit of work takes back. -/
structure Advances (s s' : OutboxState) : Prop where
  clock : s.clock ≤ s'.clock
  log : s.log ⊆ s'.log
  staged : s.staged ⊆ s'.staged

theorem Step.advances (step : Step settings s frame s' pushed) : Advances s s' := by
  cases step with
  | wait later => exact ⟨later, List.Subset.refl _, List.Subset.refl _⟩
  | stage _ => exact ⟨le_rfl, List.Subset.refl _, List.subset_append_left ..⟩
  | hand _ | ack _ | catches _ _ => exact ⟨le_rfl, List.subset_append_left .., List.Subset.refl _⟩
  | _ => exact ⟨le_rfl, List.Subset.refl _, List.Subset.refl _⟩

end OutboxFrame

end IntegrationOrchestrator
