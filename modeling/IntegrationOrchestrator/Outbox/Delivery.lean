import IntegrationOrchestrator.Outbox.Steps

namespace IntegrationOrchestrator

theorem RetryPolicy.microseconds_floor (seconds : Rat) :
    (seconds * 1000000).floor ≤ microseconds seconds ∧ microseconds seconds ≤ (seconds * 1000000).floor + 1 := by
  simp only [microseconds]
  split_ifs <;> omega

theorem RetryPolicy.microseconds_mono {shorter longer : Rat} (order : shorter ≤ longer) :
    microseconds shorter ≤ microseconds longer := by
  have scaled : shorter * 1000000 ≤ longer * 1000000 := by linarith
  have floors : (shorter * 1000000).floor ≤ (longer * 1000000).floor := Int.floor_le_floor scaled
  rcases floors.lt_or_eq with less | same
  · have below := (microseconds_floor shorter).2
    have above := (microseconds_floor longer).1
    omega
  · -- Between the same whole numbers only the rest decides.
    have rests : shorter * 1000000 - (shorter * 1000000).floor ≤ longer * 1000000 - (longer * 1000000).floor := by
      rw [same]
      linarith
    simp only [microseconds]
    rw [same] at rests ⊢
    split_ifs <;> first | omega | linarith

theorem RetryPolicy.microseconds_nonneg {seconds : Rat} (nonneg : 0 ≤ seconds) : 0 ≤ microseconds seconds :=
  have zero : microseconds 0 = 0 := by decide +kernel
  zero ▸ microseconds_mono nonneg

namespace OutboxSettings

/-- No lease and no backoff is longer. -/
def longestPause (settings : OutboxSettings) : Int :=
  max (RetryPolicy.microseconds settings.outboxClaimLeaseSeconds) (RetryPolicy.microseconds maxRetryDelaySeconds)

theorem leaseUntil_le (settings : OutboxSettings) (now : Instant) :
    settings.leaseUntil now ≤ now + settings.longestPause :=
  Int.add_le_add_left (le_max_left ..) now

theorem nextAttemptAt_le (settings : OutboxSettings) (now : Instant) (event : OutboxEvent) :
    settings.nextAttemptAt now event ≤ now + settings.longestPause :=
  Int.add_le_add_left ((RetryPolicy.microseconds_mono (min_le_right ..)).trans (le_max_right ..)) now

theorem longestPause_nonneg (settings : OutboxSettings) : 0 ≤ settings.longestPause :=
  (RetryPolicy.microseconds_nonneg settings.lease_pos.le).trans (le_max_left ..)

end OutboxSettings

/-- What holds of the stored outbox in every run. -/
structure OutboxState.Sound (settings : OutboxSettings) (s : OutboxState) : Prop where
  contents : ∀ {id row}, s.outbox.get id = some row → row.toOutboxContent ∈ s.staged
  unique : (s.staged.map (·.id)).Nodup
  acknowledged : ∀ {id row}, s.outbox.get id = some row → row.isPublished = true →
    .acknowledged row.id row.eventId ∈ s.log
  bounded : ∀ {id row next}, s.outbox.get id = some row → row.nextAttemptAt = some next →
    next ≤ s.clock + settings.longestPause
  records : ∀ {row record}, .handedOver row record ∈ s.log →
    ∃ content ∈ s.staged, content.id = row ∧ content.eventId = record.value.eventId

namespace OutboxState.Sound

variable {settings : OutboxSettings} {s : OutboxState}

theorem known (sound : s.Sound settings) {id : UUID} {row : OutboxEvent} (stored : s.outbox.get id = some row) :
    id ∈ s.staged.map (·.id) :=
  List.mem_map.mpr ⟨_, sound.contents stored, Outbox.get_id stored⟩

/-- Two staged contents with one id are one. -/
theorem same_content (sound : s.Sound settings) {first second : OutboxContent} (staged : first ∈ s.staged)
    (staged' : second ∈ s.staged) (same : first.id = second.id) : first = second :=
  List.inj_on_of_nodup_map sound.unique staged staged' same

end OutboxState.Sound

/-- What a frame may rely on: its events are staged rows, and the broker has
acknowledged those it takes to be published. -/
structure OutboxFrame.Backed (s : OutboxState) (frame : OutboxFrame) : Prop where
  events : ∀ event ∈ frame.events, event.toOutboxContent ∈ s.staged
  published : ∀ event ∈ frame.published, .acknowledged event.id event.eventId ∈ s.log
  past : ∀ now, frame = .claim now → now ≤ s.clock

namespace OutboxFrame

variable {settings : OutboxSettings} {frame : OutboxFrame} {s s' : OutboxState} {pushed : List OutboxFrame}

theorem Backed.advance (backed : Backed s frame) (advances : Advances s s') : Backed s' frame where
  events event member := advances.staged (backed.events event member)
  published event member := advances.log (backed.published event member)
  past now isClaim := (backed.past now isClaim).trans advances.clock

/-- A row after a unit of work was written to, or it is the row just staged. -/
theorem Step.origin (step : Step settings s frame s' pushed) (sound : s.Sound settings) {id : UUID} {row' : OutboxEvent}
    (stored : s'.outbox.get id = some row') :
    (∃ row, s.outbox.get id = some row ∧ Writes settings s frame row row') ∨
      ∃ content, frame = .stage content ∧ row' = { content with } := by
  rcases step.comes stored with ⟨row, before⟩ | ⟨content, staging, _, new⟩
  · rcases step.stays (sound.known before) before with ⟨other, after, writes⟩ | ⟨_, gone, _⟩
    · cases Option.some.inj (stored.symm.trans after)
      exact .inl ⟨row, before, writes⟩
    · cases stored.symm.trans gone
  · exact .inr ⟨content, staging, new⟩

theorem claimable_published {row : OutboxEvent} {now : Instant} (claimable : row.claimable now = true) :
    row.publishedAt = none := by
  simp only [OutboxEvent.claimable, Bool.and_eq_true, Option.isNone_iff_eq_none] at claimable
  exact claimable.1.1

theorem Step.contents (step : Step settings s frame s' pushed) (sound : s.Sound settings) {id : UUID}
    {row' : OutboxEvent} (stored : s'.outbox.get id = some row') : row'.toOutboxContent ∈ s'.staged := by
  rcases step.origin sound stored with ⟨row, before, writes⟩ | ⟨content, rfl, rfl⟩
  · exact writes.content ▸ step.advances.staged (sound.contents before)
  · cases step with
    | stage _ => exact List.mem_append_right _ (List.mem_singleton_self _)
    | catches _ called => cases called

theorem Step.unique (step : Step settings s frame s' pushed) (sound : s.Sound settings) :
    (s'.staged.map (·.id)).Nodup := by
  cases step with
  | @stage content fresh =>
    rw [List.map_append, List.nodup_append']
    exact ⟨sound.unique, List.nodup_singleton _, by simpa using fresh⟩
  | _ => exact sound.unique

theorem Writes.acknowledged {row row' : OutboxEvent} (writes : Writes settings s frame row row')
    (sound : s.Sound settings) (backed : Backed s frame) {id : UUID} (stored : s.outbox.get id = some row)
    (published : row'.isPublished = true) : .acknowledged row.id row.eventId ∈ s.log := by
  cases writes with
  | kept => exact sound.acknowledged stored published
  | leased claimable =>
    have unpublished := claimable_published claimable
    simp [OutboxEvent.isPublished, OutboxEvent.leased, unpublished] at published
  | redriven _ unpublished => simp [OutboxEvent.isPublished, OutboxEvent.redriven, unpublished] at published
  | @settled p _ =>
    refine settledRow_induction
      (fun middle => middle.isPublished = true → BrokerEvent.acknowledged row.id row.eventId ∈ s.log)
      (fun _ => sound.acknowledged stored) (fun among _ => ?_) (fun _ _ _ _ _ _ held => held) (fun _ _ _ _ _ held => held)
      published
    obtain ⟨event, member, sameId⟩ := List.mem_map.mp among
    have same := sound.same_content (backed.events event (p.published_subset member)) (sound.contents stored) sameId
    have acked := backed.published event member
    rw [same] at acked
    exact acked

theorem Writes.bounded {row row' : OutboxEvent} (writes : Writes settings s frame row row')
    (sound : s.Sound settings) (backed : Backed s frame) {id : UUID} (stored : s.outbox.get id = some row)
    {next : Instant} (scheduled : row'.nextAttemptAt = some next) : next ≤ s.clock + settings.longestPause := by
  cases writes with
  | kept => exact sound.bounded stored scheduled
  | @leased now _ _ =>
    cases Option.some.inj scheduled
    exact (settings.leaseUntil_le now).trans (Int.add_le_add_right (backed.past now rfl) _)
  | redriven _ _ =>
    cases Option.some.inj scheduled
    exact Int.le_add_of_nonneg_right settings.longestPause_nonneg
  | settled =>
    refine settledRow_induction (fun middle => middle.nextAttemptAt = some next → next ≤ s.clock + settings.longestPause)
      (fun _ => sound.bounded stored) (fun _ => nofun) (fun _ _ _ _ _ _ _ => nofun) (fun failure _ _ _ _ _ next' => ?_) scheduled
    cases Option.some.inj next'
    exact settings.nextAttemptAt_le s.clock failure.1

theorem Step.records (step : Step settings s frame s' pushed) (sound : s.Sound settings) (backed : Backed s frame)
    {row : UUID} {record : KafkaRecord} (logged : .handedOver row record ∈ s'.log) :
    ∃ content ∈ s'.staged, content.id = row ∧ content.eventId = record.value.eventId := by
  have old (before : .handedOver row record ∈ s.log) :
      ∃ content ∈ s'.staged, content.id = row ∧ content.eventId = record.value.eventId := by
    obtain ⟨content, staged, same⟩ := sound.records before
    exact ⟨content, step.advances.staged staged, same⟩
  cases step with
  | @hand caller sent event here =>
    rcases List.mem_append.mp logged with before | new
    · exact old before
    · cases List.mem_singleton.mp new
      have member := caller.envelopes_subset (List.mem_of_getElem? here)
      exact ⟨event.toOutboxContent, backed.events event member, rfl, rfl⟩
  | ack here =>
    rcases List.mem_append.mp logged with before | new
    · exact old before
    · cases List.mem_singleton.mp new
  | @catches _ caller _ _ =>
    rcases List.mem_append.mp logged with before | new
    · exact old before
    · cases caller with
      | batch events => cases new
      | single p =>
        obtain ⟨event, _, never⟩ := List.mem_map.mp new
        cases never
  | _ => exact old logged

theorem Step.sound (step : Step settings s frame s' pushed) (sound : s.Sound settings) (backed : Backed s frame) :
    s'.Sound settings where
  contents stored := step.contents sound stored
  unique := step.unique sound
  acknowledged stored published := by
    rcases step.origin sound stored with ⟨row, before, writes⟩ | ⟨content, rfl, rfl⟩
    · have acked := writes.acknowledged sound backed before published
      rw [← writes.content] at acked
      exact step.advances.log acked
    · cases published
  bounded stored scheduled := by
    rcases step.origin sound stored with ⟨row, before, writes⟩ | ⟨content, rfl, rfl⟩
    · exact (writes.bounded sound backed before scheduled).trans (Int.add_le_add_right step.advances.clock _)
    · cases scheduled
  records logged := step.records sound backed logged

theorem calledBy_events {caller : PublishCall} (called : frame.calledBy = some caller) : frame.events = caller.events := by
  cases frame with
  | publishBatch _ | handOver _ _ | awaitAcks _ _ =>
    cases Option.some.inj called
    rfl
  | _ => cases called

theorem calledBy_published {caller : PublishCall} (called : frame.calledBy = some caller) :
    caller.published ⊆ frame.published := by
  cases frame with
  | publishBatch _ | handOver _ _ =>
    cases Option.some.inj called
    exact List.Subset.refl _
  | awaitAcks _ _ =>
    cases Option.some.inj called
    exact List.subset_append_left ..
  | _ => cases called

theorem next_claim (p : Publication) (now : Instant) : p.next ≠ .claim now := by
  unfold Publication.next
  split <;> nofun

/-- A frame that carries no event and does not claim. -/
theorem Backed.of_empty (events : frame.events = []) (published : frame.published = [])
    (past : ∀ now, frame ≠ .claim now) : Backed s frame where
  events event member := by
    rw [events] at member
    cases member
  published event member := by
    rw [published] at member
    cases member
  past now isClaim := absurd isClaim (past now)

/-- The frames that a unit of work pushes. -/
theorem Step.backed (step : Step settings s frame s' pushed) (sound : s.Sound settings) (backed : Backed s frame) :
    ∀ other ∈ pushed, Backed s' other := by
  have advanced := backed.advance step.advances
  cases step with
  | wait _ | stage _ | redrive | purge | settle => exact List.forall_mem_nil _
  | runOnce =>
    rw [List.forall_mem_singleton]
    exact ⟨List.forall_mem_nil _, List.forall_mem_nil _, fun now isClaim => (OutboxFrame.claim.inj isClaim) ▸ le_rfl⟩
  | @claim now locked outbox events claimed =>
    rw [List.forall_mem_singleton]
    split
    · exact .of_empty rfl rfl fun now isClaim => by cases isClaim
    · refine ⟨fun event member => ?_, List.forall_mem_nil _, fun now isClaim => by cases isClaim⟩
      simp only [Outbox.claimUnpublished, Prod.mk.injEq] at claimed
      obtain ⟨_, rfl⟩ := claimed
      obtain ⟨row, selected, rfl⟩ := List.mem_map.mp member
      rw [OutboxEvent.leased_content]
      exact sound.contents (Outbox.mem_selected selected).1
  | enter | hand _ =>
    rw [List.forall_mem_singleton]
    exact ⟨advanced.events, advanced.published, fun now isClaim => by cases isClaim⟩
  | @await caller sent =>
    rw [List.forall_mem_singleton]
    refine ⟨advanced.events, fun event member => ?_, fun now isClaim => by cases isClaim⟩
    have member : event ∈ caller.published := by simpa [published] using member
    exact advanced.published event member
  | @ack caller acked event here =>
    rw [List.forall_mem_singleton]
    refine ⟨advanced.events, fun other member => ?_, fun now isClaim => by cases isClaim⟩
    rw [published, List.take_add_one, here, ← List.append_assoc] at member
    rcases List.mem_append.mp member with before | new
    · exact advanced.published other before
    · cases List.mem_singleton.mp new
      exact List.mem_append_right _ (List.mem_singleton_self _)
  | @returnsNothing caller nothing =>
    rw [List.forall_mem_singleton]
    refine ⟨?_, fun event member => ?_, fun now => (next_claim _ now · |>.elim)⟩
    · rw [Publication.next_events, PublishCall.returned_events]
      exact advanced.events
    · rw [Publication.next_published, PublishCall.returned_published, nothing, List.append_nil] at member
      exact advanced.published event member
  | @returns caller acked all =>
    rw [List.forall_mem_singleton]
    refine ⟨?_, fun event member => ?_, fun now => (next_claim _ now · |>.elim)⟩
    · rw [Publication.next_events, PublishCall.returned_events]
      exact advanced.events
    · rw [Publication.next_published, PublishCall.returned_published] at member
      refine advanced.published event ?_
      rw [published, List.take_of_length_le all]
      exact member
  | @catches _ caller reason called =>
    rw [List.forall_mem_singleton]
    refine ⟨?_, fun event member => ?_, fun now => (next_claim _ now · |>.elim)⟩
    · rw [Publication.next_events, PublishCall.refused_events, ← calledBy_events called]
      exact advanced.events
    · rw [Publication.next_published, PublishCall.refused_published] at member
      exact advanced.published event (calledBy_published called member)

theorem events_of_entry (entry : frame.isEntry = true) : frame.events = [] := by
  cases frame with
  | wait _ | stage _ | redrive _ | runOnce => rfl
  | _ => cases entry

theorem backed_of_entry (entry : frame.isEntry = true) : Backed s frame := by
  cases frame with
  | wait _ | stage _ | redrive _ | runOnce => exact .of_empty rfl rfl fun now isClaim => by cases isClaim
  | _ => cases entry

theorem sound_initial (settings : OutboxSettings) (clock : Instant) :
    OutboxState.Sound settings { clock := clock } := by
  refine ⟨fun stored => ?_, List.nodup_nil, fun stored => ?_, fun stored => ?_, nofun⟩ <;> cases stored

end OutboxFrame

namespace Publisher

open OutboxFrame

variable {settings : OutboxSettings} {allowed : Config → Action → Prop} {c : Config}

theorem sound_reachable (reach : ReachableUnder settings allowed c) :
    c.state.Sound settings ∧ ∀ frame ∈ c.frames, Backed c.state frame := by
  obtain ⟨clock, reach⟩ := reach
  refine reach.pool_invariant (OutboxState.Sound settings) Backed ⟨sound_initial settings clock, List.forall_mem_nil _⟩
    (fun s frame _ entry => backed_of_entry entry) ?_
  intro c task input frame rest s' pushed sound backed _ atTask run
  have step := exec_step run
  have here := backed frame (TaskPool.mem_frames_top atTask)
  exact ⟨step.sound sound here, step.backed sound here, fun other _ old => old.advance step.advances⟩

/-- A row that is deleted by an action was published. -/
theorem deleted_published (reach : Reachable settings c) {a : Action} {c' : Config}
    (next : (publisher settings).next c a = some c') {id : UUID} {row : OutboxEvent}
    (stored : c.state.outbox.get id = some row) (gone : c'.state.outbox.get id = none) : row.isPublished = true := by
  have sound := (sound_reachable reach).1
  rcases TaskPool.next_state next with same | ⟨task, input, frame, rest, pushed, rfl, _, run⟩
  · rw [same, stored] at gone
    cases gone
  · rcases (exec_step run).stays (sound.known stored) stored with ⟨_, after, _⟩ | ⟨_, _, published⟩
    · cases after.symm.trans gone
    · exact published

/-- From some moment on every claim that is large enough takes the row. -/
theorem selected_again {s : OutboxState} (sound : s.Sound settings) {id : UUID} {row : OutboxEvent}
    (stored : s.outbox.get id = some row) (unpublished : row.isPublished = false)
    (live : row.isDeadLettered = false) :
    ∃ until' ≤ s.clock + settings.longestPause, ∀ now, until' ≤ now → ∀ limit locked, locked row.id = false →
      s.outbox.rows.length ≤ limit → row ∈ s.outbox.selected now limit locked := by
  have claims : ∀ now, row.nextAttemptAt.all (· ≤ now) = true → ∀ limit locked, locked row.id = false →
      s.outbox.rows.length ≤ limit → row ∈ s.outbox.selected now limit locked := by
    intro now due limit locked free large
    have claimable : row.claimable now = true := by
      simp only [OutboxEvent.isPublished, OutboxEvent.isDeadLettered, Option.isSome_eq_false_iff] at unpublished live
      simp [OutboxEvent.claimable, unpublished, live, due]
    rw [Outbox.selected, List.take_of_length_le, List.mem_insertionSort, List.mem_filter]
    · exact ⟨Table.mem_of_get stored, by simp [claimable, free]⟩
    · rw [List.length_insertionSort]
      exact (List.length_filter_le ..).trans large
  cases scheduled : row.nextAttemptAt with
  | none =>
    exact ⟨s.clock, Int.le_add_of_nonneg_right settings.longestPause_nonneg,
      fun now _ => claims now (by simp [scheduled])⟩
  | some next =>
    exact ⟨next, sound.bounded stored scheduled, fun now due => claims now (by simp [scheduled, due])⟩

/-- Outbox events are never lost: the broker has acknowledged every published
row, only published rows are deleted, a row that is neither published nor
dead-lettered can be claimed again after a bounded time, and the records handed
over for a row all have one event id. -/
theorem outbox_never_loses (settings : OutboxSettings) {c : Config} (reach : Reachable settings c) :
    (∀ row ∈ c.state.outbox.rows, row.isPublished = true → .acknowledged row.id row.eventId ∈ c.state.log) ∧
    (∀ a c', (publisher settings).next c a = some c' → ∀ row ∈ c.state.outbox.rows,
      c'.state.outbox.get row.id = none → row.isPublished = true) ∧
    (∀ row ∈ c.state.outbox.rows, row.isPublished = false → row.isDeadLettered = false →
      ∃ until' ≤ c.state.clock + settings.longestPause, ∀ now, until' ≤ now → ∀ limit locked,
        locked row.id = false → c.state.outbox.rows.length ≤ limit →
        row ∈ c.state.outbox.selected now limit locked) ∧
    ∀ row first second, .handedOver row first ∈ c.state.log → .handedOver row second ∈ c.state.log →
      first.value.eventId = second.value.eventId := by
  have sound := (sound_reachable reach).1
  refine ⟨fun row member => sound.acknowledged (Table.mem_rows_iff.mp member),
    fun a c' next row member => deleted_published reach next (Table.mem_rows_iff.mp member),
    fun row member => selected_again sound (Table.mem_rows_iff.mp member), fun row first second handed handed' => ?_⟩
  obtain ⟨content, staged, sameId, sameEvent⟩ := sound.records handed
  obtain ⟨content', staged', sameId', sameEvent'⟩ := sound.records handed'
  have same := sound.same_content staged staged' (sameId.trans sameId'.symm)
  rw [← sameEvent, same, sameEvent']

theorem outbox_never_loses_published : ∃ c, Reachable Sample.outbox c ∧
    ∃ row ∈ c.state.outbox.rows, row.isPublished = true ∧ .acknowledged row.id row.eventId ∈ c.state.log := by
  obtain ⟨c, reach, row, member, published⟩ := reachableUnder_replay Sample.outbox (fun _ _ => True)
    ([.spawn (.stage (Sample.content 1)), .run 0 {}, .spawn .runOnce] ++ List.replicate 8 (.run 1 {}))
    (fun c => ∃ row ∈ c.state.outbox.rows, row.isPublished = true) (by decide +kernel)
  exact ⟨c, reach, row, member, published, (outbox_never_loses Sample.outbox reach).1 row member published⟩

end Publisher

end IntegrationOrchestrator
