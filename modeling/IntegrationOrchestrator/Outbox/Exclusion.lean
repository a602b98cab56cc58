import IntegrationOrchestrator.Outbox.Delivery

namespace IntegrationOrchestrator

def BrokerEvent.isFailureOf (id : UUID) : BrokerEvent → Bool
  | .failed row => row = id
  | _ => false

/-- The failed attempts to publish the row. -/
def OutboxState.failuresOf (s : OutboxState) (id : UUID) : Nat := s.log.countP (BrokerEvent.isFailureOf id)

def OutboxState.attemptsOf (s : OutboxState) (id : UUID) : Nat := (s.outbox.get id).elim 0 (·.attemptCount)

/-- The lease under which the event was claimed still holds. -/
def OutboxEvent.leaseHolds (clock : Instant) (event : OutboxEvent) : Bool := event.nextAttemptAt.any (clock < ·)

namespace OutboxFrame

variable {settings : OutboxSettings} {frame : OutboxFrame} {s s' : OutboxState} {pushed : List OutboxFrame}
  {now : Instant} {p : Publication} {row row' : OutboxEvent}

/-! ### Failed attempts -/

theorem failedRow_attempts (failure : OutboxEvent × String) (row : OutboxEvent) :
    (failedRow settings now failure row).attemptCount =
      row.attemptCount + if failure.1.id = row.id then 1 else 0 := by
  unfold failedRow
  by_cases here : row.id = failure.1.id
  · rw [if_pos here, if_pos here.symm]
    split <;> rfl
  · rw [if_neg here, if_neg (Ne.symm here)]
    rfl

theorem failedRow_id (failure : OutboxEvent × String) (row : OutboxEvent) :
    (failedRow settings now failure row).id = row.id := by
  unfold failedRow
  split
  · split <;> rfl
  · rfl

theorem foldl_failedRow_attempts (failures : List (OutboxEvent × String)) (row : OutboxEvent) :
    (failures.foldl (fun row failure => failedRow settings now failure row) row).attemptCount =
      row.attemptCount + failures.countP (·.1.id = row.id) := by
  induction failures generalizing row with
  | nil => rfl
  | cons failure rest ih =>
    rw [List.foldl_cons, ih, failedRow_attempts, failedRow_id, List.countP_cons]
    simp only [decide_eq_true_eq]
    omega

/-- A settled row has one more attempt for each of its failures. -/
theorem settledRow_attempts (row : OutboxEvent) : (settledRow settings now p row).attemptCount =
    row.attemptCount + p.failures.countP (·.1.id = row.id) := by
  have start : (publishedRow now p row).attemptCount = row.attemptCount ∧ (publishedRow now p row).id = row.id := by
    unfold publishedRow
    split <;> exact ⟨rfl, rfl⟩
  rw [settledRow, foldl_failedRow_attempts, start.1, start.2]

theorem Writes.attempts_le (writes : Writes settings s frame row row') : row.attemptCount ≤ row'.attemptCount := by
  cases writes with
  | settled => exact settledRow_attempts row ▸ Nat.le_add_right ..
  | _ => exact le_rfl

/-- The failures of a row that its replica has not recorded yet. -/
def unrecorded (id : UUID) (frame : OutboxFrame) : Nat := frame.failures.countP (·.1.id = id)

theorem refused_unrecorded (caller : PublishCall) (reason : String) (id : UUID) :
    unrecorded id (caller.refused reason).next =
      caller.failures.countP (·.1.id = id) + caller.failedEvents.countP (BrokerEvent.isFailureOf id) := by
  rw [unrecorded, Publication.next_failures]
  cases caller with
  | batch events => rfl
  | single p =>
    rw [PublishCall.refused, (p.refuse_eq reason).2.2.1, List.countP_append, PublishCall.failedEvents, List.countP_map,
      List.countP_map]
    rfl

theorem unrecorded_of_entry (entry : frame.isEntry = true) (id : UUID) : frame.unrecorded id = 0 := by
  cases frame with
  | wait _ | stage _ | redrive _ | runOnce => rfl
  | _ => cases entry

/-- The failures of a row that the frame records. -/
def recorded (id : UUID) : OutboxFrame → Nat
  | .settle p => p.failures.countP (·.1.id = id)
  | _ => 0

theorem calledBy_failures {caller : PublishCall} (called : frame.calledBy = some caller) (id : UUID) :
    frame.failures = caller.failures ∧ frame.recorded id = 0 := by
  cases frame with
  | publishBatch _ | handOver _ _ | awaitAcks _ _ =>
    cases Option.some.inj called
    exact ⟨rfl, rfl⟩
  | _ => cases called

theorem Step.attempts_le (step : Step settings s frame s' pushed) (sound : s.Sound settings) (id : UUID) :
    s'.attemptsOf id ≤ s.attemptsOf id + frame.recorded id := by
  unfold OutboxState.attemptsOf
  cases after : s'.outbox.get id with
  | none => exact Nat.zero_le _
  | some row' =>
    rcases step.origin sound after with ⟨row, before, writes⟩ | ⟨content, rfl, rfl⟩
    · rw [before]
      cases writes with
      | settled =>
        have same := Outbox.get_id before
        exact same ▸ (settledRow_attempts row).le
      | _ => exact Nat.le_add_right ..
    · exact Nat.zero_le _

/-- What the pushed frames have yet to record was left by the frame, or has
just failed. -/
theorem Step.unrecorded_le (step : Step settings s frame s' pushed) (id : UUID) :
    (pushed.map (unrecorded id)).sum + frame.recorded id + s.failuresOf id ≤
      s'.failuresOf id + frame.unrecorded id := by
  have logs (event : BrokerEvent) : s.failuresOf id ≤ (s.logs event).failuresOf id := by
    simp only [OutboxState.failuresOf, OutboxState.logs, List.countP_append]
    omega
  cases step with
  | @settle p =>
    show 0 + p.failures.countP (·.1.id = id) + s.failuresOf id ≤ s.failuresOf id + p.failures.countP (·.1.id = id)
    omega
  | @catches _ caller reason called =>
    obtain ⟨same, none⟩ := calledBy_failures called id
    have logged : OutboxState.failuresOf { s with log := s.log ++ caller.failedEvents } id =
        s.failuresOf id + caller.failedEvents.countP (BrokerEvent.isFailureOf id) := List.countP_append
    rw [none, logged, List.map_singleton, List.sum_singleton, refused_unrecorded, unrecorded, same]
    omega
  | @claim now locked outbox events claimed =>
    have none : unrecorded id (if events = [] then .purge else .publishBatch (.batch events)) = 0 := by
      split <;> rfl
    rw [List.map_singleton, List.sum_singleton, none]
    show 0 + 0 + s.failuresOf id ≤ s.failuresOf id + 0
    omega
  | @returnsNothing caller _ =>
    rw [List.map_singleton, List.sum_singleton, unrecorded, Publication.next_failures, PublishCall.returned_failures]
    exact (Nat.add_comm ..).le
  | @returns caller acked _ =>
    rw [List.map_singleton, List.sum_singleton, unrecorded, Publication.next_failures, PublishCall.returned_failures]
    exact (Nat.add_comm ..).le
  | @hand caller sent event _ =>
    have more := logs (.handedOver event.id (OutboxFrame.hand settings event))
    show caller.failures.countP _ + 0 + 0 + s.failuresOf id ≤ _ + caller.failures.countP _
    omega
  | @ack caller acked event _ =>
    have more := logs (.acknowledged event.id event.eventId)
    show caller.failures.countP _ + 0 + 0 + s.failuresOf id ≤ _ + caller.failures.countP _
    omega
  | @enter caller | @await caller _ =>
    show caller.failures.countP (·.1.id = id) + 0 + 0 + s.failuresOf id ≤
      s.failuresOf id + caller.failures.countP (·.1.id = id)
    omega
  | _ =>
    show 0 + 0 + s.failuresOf id ≤ s.failuresOf id + 0
    omega

/-! ### Exhausted rows -/

/-- A row is dead-lettered with its last attempt. -/
def Exhausted (settings : OutboxSettings) (s : OutboxState) : Prop :=
  ∀ {id : UUID} {row : OutboxEvent}, s.outbox.get id = some row → row.isDeadLettered = true →
    settings.outboxMaxAttempts ≤ row.attemptCount

/-- The attempts of a row never go below those its replica has read. -/
def Counted (s : OutboxState) (frame : OutboxFrame) : Prop :=
  ∀ event ∈ frame.events, ∀ {row : OutboxEvent}, s.outbox.get event.id = some row →
    event.attemptCount ≤ row.attemptCount

theorem Writes.exhausted (writes : Writes settings s frame row row') (exhausted : Exhausted settings s)
    (counted : Counted s frame) {id : UUID} (stored : s.outbox.get id = some row)
    (dead : row'.isDeadLettered = true) : settings.outboxMaxAttempts ≤ row'.attemptCount := by
  have known : row.isDeadLettered = true → settings.outboxMaxAttempts ≤ row.attemptCount := exhausted stored
  cases writes with
  | kept => exact known dead
  | leased claimable => exact known dead
  | redriven _ _ => cases dead
  | @settled p _ =>
    refine (settledRow_induction (fun middle => row.attemptCount ≤ middle.attemptCount ∧
      (middle.isDeadLettered = true → settings.outboxMaxAttempts ≤ middle.attemptCount))
      (fun _ => ⟨le_rfl, known⟩) (fun _ => ⟨le_rfl, known⟩) ?_ ?_).2 dead
    · intro failure member same last middle _ ⟨grown, _⟩
      have stored' : s.outbox.get failure.1.id = some row := by
        rw [← same, Outbox.get_id stored, stored]
      have read := counted failure.1 (p.failures_subset (List.mem_map_of_mem member)) stored'
      refine ⟨Nat.le_succ_of_le grown, fun _ => ?_⟩
      show settings.outboxMaxAttempts ≤ middle.attemptCount + 1
      omega
    · intro failure _ _ middle _ ⟨grown, dead⟩
      exact ⟨Nat.le_succ_of_le grown, fun still => Nat.le_succ_of_le (dead still)⟩

theorem Step.exhausted (step : Step settings s frame s' pushed) (sound : s.Sound settings)
    (exhausted : Exhausted settings s) (counted : Counted s frame) : Exhausted settings s' := by
  intro id row' stored dead
  rcases step.origin sound stored with ⟨row, before, writes⟩ | ⟨content, rfl, rfl⟩
  · exact writes.exhausted exhausted counted before dead
  · cases dead

theorem Step.counted (step : Step settings s frame s' pushed) (sound : s.Sound settings) {other : OutboxFrame}
    (backed : Backed s other) (counted : Counted s other) : Counted s' other := by
  intro event member row' stored
  rcases step.comes stored with ⟨row, before⟩ | ⟨content, rfl, same, rfl⟩
  · rcases step.stays (sound.known before) before with ⟨other, after, writes⟩ | ⟨_, gone, _⟩
    · cases Option.some.inj (stored.symm.trans after)
      exact (counted event member before).trans writes.attempts_le
    · cases stored.symm.trans gone
  · cases step with
    | stage fresh => exact absurd (same ▸ List.mem_map_of_mem (backed.events event member)) fresh
    | catches _ called => cases called

/-- Except for a claim, the frame pushed is about the same batch, and neither
the table nor the clock has moved. -/
theorem Step.inherits (step : Step settings s frame s' pushed) : (∃ now, frame = .claim now) ∨ pushed = [] ∨
    ∃ next, pushed = [next] ∧ next.events = frame.events ∧ s'.outbox = s.outbox ∧ s'.clock = s.clock := by
  cases step with
  | claim _ => exact .inl ⟨_, rfl⟩
  | wait _ | stage _ | redrive | purge | settle => exact .inr (.inl rfl)
  | runOnce | enter | hand _ | await | ack _ => exact .inr (.inr ⟨_, rfl, rfl, rfl, rfl⟩)
  | returnsNothing _ | returns _ =>
    refine .inr (.inr ⟨_, rfl, ?_, rfl, rfl⟩)
    rw [Publication.next_events, PublishCall.returned_events]
    rfl
  | catches reason called =>
    refine .inr (.inr ⟨_, rfl, ?_, rfl, rfl⟩)
    rw [Publication.next_events, PublishCall.refused_events, calledBy_events called]

/-- What a claim hands to the publication: rows that nobody has published or
dead-lettered, as they are now stored. -/
theorem Step.claimed (step : Step settings s (.claim now) s' pushed) :
    s'.clock = s.clock ∧ ∃ next, pushed = [next] ∧ (next.events.map (·.id)).Nodup ∧ ∀ event ∈ next.events,
      s'.outbox.get event.id = some event ∧ event.publishedAt = none ∧ event.deadLetteredAt = none ∧
        ∃ row, s.outbox.get event.id = some row ∧ row.claimable now = true := by
  cases step with
  | @claim _ locked outbox events claimed =>
    refine ⟨rfl, _, rfl, ?_⟩
    have batch : (if events = [] then OutboxFrame.purge else .publishBatch (.batch events)).events = events := by
      split
      · rename_i none
        exact none.symm
      · rfl
    rw [batch]
    have selection := claimed
    simp only [Outbox.claimUnpublished, Prod.mk.injEq] at selection
    obtain ⟨_, rfl⟩ := selection
    refine ⟨by simpa [List.map_map, Function.comp_def] using Outbox.selected_nodup s.outbox now _ locked, ?_⟩
    intro event member
    obtain ⟨row, chosen, rfl⟩ := List.mem_map.mp member
    obtain ⟨stored, claimable⟩ := Outbox.mem_selected chosen
    have open' := claimable
    simp only [OutboxEvent.claimable, Bool.and_eq_true, Option.isNone_iff_eq_none] at open'
    rcases get_claimUnpublished claimed stored with ⟨_, after⟩ | ⟨outside, _⟩
    · exact ⟨after, open'.1.1, open'.1.2, row, stored, claimable⟩
    · exact absurd (List.mem_map.mpr ⟨_, member, rfl⟩) outside
  | catches _ called => cases called

/-! ### Leased rows -/

/-- The rows that a frame has under a lease that still holds. -/
def held (s : OutboxState) (frame : OutboxFrame) : List UUID :=
  (frame.events.filter (·.leaseHolds s.clock)).map (·.id)

/-- A row under a lease is as its replica read it. -/
def Fresh (s : OutboxState) (frame : OutboxFrame) : Prop :=
  ∀ event ∈ frame.events, event.leaseHolds s.clock = true →
    s.outbox.get event.id = some event ∧ event.publishedAt = none ∧ event.deadLetteredAt = none

/-- The outcomes of a row exclude each other. -/
def Exclusive (s : OutboxState) : Prop :=
  ∀ {id : UUID} {row : OutboxEvent}, s.outbox.get id = some row → row.isPublished = true →
    row.nextAttemptAt = none ∧ row.deadLetteredAt = none

theorem mem_held {event : OutboxEvent} (member : event ∈ frame.events) (holds : event.leaseHolds s.clock = true) :
    event.id ∈ held s frame :=
  List.mem_map.mpr ⟨event, List.mem_filter.mpr ⟨member, holds⟩, rfl⟩

theorem leaseHolds_mono {clock clock' : Instant} (later : clock ≤ clock') {event : OutboxEvent}
    (holds : event.leaseHolds clock' = true) : event.leaseHolds clock = true := by
  obtain ⟨lease, here, after⟩ := (Option.any_eq_true ..).mp holds
  exact (Option.any_eq_true ..).mpr ⟨lease, here, decide_eq_true (later.trans_lt (of_decide_eq_true after))⟩

theorem held_sublist (later : s.clock ≤ s'.clock) (frame : OutboxFrame) : (held s' frame).Sublist (held s frame) :=
  (List.monotone_filter_right _ fun _ => leaseHolds_mono later).map _

/-- A row under a lease is not claimed again. -/
theorem not_claimable {clock : Instant} (holds : row.leaseHolds clock = true) (past : now ≤ clock) :
    ¬ row.claimable now = true := by
  intro claimable
  obtain ⟨lease, here, later⟩ := (Option.any_eq_true ..).mp holds
  simp only [OutboxEvent.claimable, here, Bool.and_eq_true, Option.all_some, decide_eq_true_eq] at claimable
  have due : lease ≤ now := claimable.2
  have later : clock < lease := of_decide_eq_true later
  exact absurd (due.trans past) (not_le.mpr later)

theorem settledRow_of_notMem (outside : row.id ∉ p.events.map (·.id)) : settledRow settings now p row = row := by
  refine settledRow_induction (· = row) (fun _ => rfl) (fun among => ?_) (fun failure member same => ?_)
    (fun failure member same => ?_)
  · exact absurd (List.map_subset _ p.published_subset among) outside
  all_goals
    refine absurd ?_ outside
    rw [same]
    exact List.mem_map_of_mem (p.failures_subset (List.mem_map_of_mem member))

/-- An event among the published ones is not among the failures. -/
theorem failed_of_published (distinct : (p.events.map (·.id)).Nodup) {id : UUID} (published : id ∈ p.published.map (·.id)) :
    ∀ failure ∈ p.failures, failure.1.id ≠ id := by
  have split := (p.covers.map (·.id)).nodup_iff.mpr distinct
  rw [List.append_assoc, List.map_append, List.nodup_append'] at split
  intro failure member same
  refine split.2.2 published (same ▸ List.mem_map_of_mem (List.mem_append_left _ (List.mem_map_of_mem member)))

theorem settledRow_published (distinct : (p.events.map (·.id)).Nodup) (among : row.id ∈ p.published.map (·.id)) :
    settledRow settings now p row = row.markPublished now := by
  have never := failed_of_published distinct among
  exact settledRow_induction (· = row.markPublished now) (absurd among) (fun _ => rfl)
    (fun failure member same => absurd same.symm (never failure member))
    (fun failure member same => absurd same.symm (never failure member))

theorem settledRow_exclusive (distinct : (p.events.map (·.id)).Nodup) (unpublished : row.publishedAt = none)
    (live : row.deadLetteredAt = none) (published : (settledRow settings now p row).isPublished = true) :
    (settledRow settings now p row).nextAttemptAt = none ∧ (settledRow settings now p row).deadLetteredAt = none := by
  by_cases among : row.id ∈ p.published.map (·.id)
  · rw [settledRow_published distinct among]
    exact ⟨rfl, live⟩
  · have still : (settledRow settings now p row).publishedAt = none :=
      settledRow_induction (·.publishedAt = none) (fun _ => unpublished) (fun here => absurd here among)
        (fun _ _ _ _ _ _ held => held) (fun _ _ _ _ _ held => held)
    simp [OutboxEvent.isPublished, still] at published

theorem Writes.exclusive (writes : Writes settings s frame row row') (exclusive : Exclusive s) {id : UUID}
    (stored : s.outbox.get id = some row) (fresh : Fresh s frame)
    (inTime : ∀ p, frame = .settle p → ∀ event ∈ p.events, event.leaseHolds s.clock = true)
    (distinct : (held s frame).Nodup) (published : row'.isPublished = true) :
    row'.nextAttemptAt = none ∧ row'.deadLetteredAt = none := by
  cases writes with
  | kept => exact exclusive stored published
  | leased claimable =>
    have unpublished := claimable_published claimable
    simp [OutboxEvent.isPublished, OutboxEvent.leased, unpublished] at published
  | redriven _ unpublished => simp [OutboxEvent.isPublished, OutboxEvent.redriven, unpublished] at published
  | @settled p _ =>
    have live := inTime p rfl
    have all : held s (.settle p) = p.events.map (·.id) := by
      rw [held, events, List.filter_eq_self.mpr live]
    by_cases inside : row.id ∈ p.events.map (·.id)
    · obtain ⟨event, member, sameId⟩ := List.mem_map.mp inside
      obtain ⟨stored', unpublished, undead⟩ := fresh event member (live event member)
      have same : event = row := by
        rw [sameId, Outbox.get_id stored, stored] at stored'
        exact (Option.some.inj stored').symm
      rw [same] at unpublished undead
      exact settledRow_exclusive (all ▸ distinct) unpublished undead published
    · rw [settledRow_of_notMem inside] at published ⊢
      exact exclusive stored published

/-- A row under a lease of another replica is left alone. -/
theorem Step.leaves (step : Step settings s frame s' pushed) (sound : s.Sound settings) (backed : Backed s frame)
    (inTime : ∀ p, frame = .settle p → ∀ event ∈ p.events, event.leaseHolds s.clock = true) {event : OutboxEvent}
    (stored : s.outbox.get event.id = some event) (unpublished : event.publishedAt = none)
    (undead : event.deadLetteredAt = none) (holds : event.leaseHolds s.clock = true)
    (elsewhere : event.id ∉ held s frame) : s'.outbox.get event.id = some event := by
  rcases step.stays (sound.known stored) stored with ⟨row', after, writes⟩ | ⟨_, _, published⟩
  · cases writes with
    | kept => exact after
    | @leased now _ claimable => exact absurd claimable (not_claimable holds (backed.past now rfl))
    | redriven dead _ => simp [undead] at dead
    | @settled p _ =>
      rw [settledRow_of_notMem] at after
      · exact after
      · intro inside
        obtain ⟨other, member, sameId⟩ := List.mem_map.mp inside
        have mine : other.id ∈ held s (.settle p) := mem_held member (inTime p rfl other member)
        exact elsewhere (sameId ▸ mine)
  · simp [OutboxEvent.isPublished, unpublished] at published

end OutboxFrame

namespace Publisher

open OutboxFrame

variable {settings : OutboxSettings} {allowed : Config → Action → Prop} {c : Config}

/-- Every replica records the outcome of its batch while its lease holds. -/
def SettlesInTime (c : Config) (a : Action) : Prop :=
  (match c.scheduled a with
  | some (.settle p, _) => p.events.all (·.leaseHolds c.state.clock)
  | _ => true) = true

instance (c : Config) (a : Action) : Decidable (SettlesInTime c a) := inferInstanceAs (Decidable (_ = true))

theorem SettlesInTime.inTime {task : Nat} {input : OutboxInput} {frame : OutboxFrame} {rest : List OutboxFrame}
    (allowed : SettlesInTime c (.run task input)) (atTask : c.tasks[task]? = some (frame :: rest)) :
    ∀ p, frame = .settle p → ∀ event ∈ p.events, event.leaseHolds c.state.clock = true := by
  rintro p rfl
  simpa [SettlesInTime, TaskPool.Config.scheduled, atTask] using allowed

/-- The attempts recorded in a row, and those its replicas have yet to record,
all failed. -/
theorem attempts_le_failures (reach : ReachableUnder settings allowed c) (id : UUID) :
    c.state.attemptsOf id ≤ c.state.failuresOf id := by
  obtain ⟨clock, reach⟩ := reach
  have bounded := reach.load_within (unrecorded id) (·.attemptsOf id) (·.failuresOf id) (fun _ => False) (Nat.zero_le _)
    (fun frame entry => unrecorded_of_entry entry id) (fun _ _ _ _ _ _ never => never)
    (fun c task input frame rest s' pushed reached _ _ run _ held => by
      have step := exec_step run
      have sound := (sound_reachable ⟨clock, reached⟩).1
      have attempts := step.attempts_le sound id
      have pushes := step.unrecorded_le id
      omega)
  rcases bounded with never | bounded
  · exact never.elim
  · omega

theorem exhausted_reachable (reach : ReachableUnder settings allowed c) : Exhausted settings c.state := by
  obtain ⟨clock, reach⟩ := reach
  refine (reach.pool_invariant (fun s => s.Sound settings ∧ Exhausted settings s)
    (fun s frame => Backed s frame ∧ Counted s frame) ?_ ?_ ?_).1.2
  · refine ⟨⟨sound_initial settings clock, fun stored => ?_⟩, List.forall_mem_nil _⟩
    cases stored
  · intro s frame _ entry
    refine ⟨backed_of_entry entry, fun event member => ?_⟩
    rw [events_of_entry entry] at member
    cases member
  · intro c task input frame rest s' pushed ⟨sound, exhausted⟩ held _ atTask run
    have step := exec_step run
    obtain ⟨backed, counted⟩ := held frame (TaskPool.mem_frames_top atTask)
    have backed' := step.backed sound backed
    refine ⟨⟨step.sound sound backed, step.exhausted sound exhausted counted⟩, fun other member => ⟨backed' other member, ?_⟩,
      fun other _ old => ⟨old.1.advance step.advances, step.counted sound old.1 old.2⟩⟩
    rcases step.inherits with ⟨now, rfl⟩ | rfl | ⟨next, rfl, same, table, _⟩
    · obtain ⟨_, next, rfl, _, claimed⟩ := step.claimed
      cases List.mem_singleton.mp member
      intro event inside row stored
      cases Option.some.inj ((claimed event inside).1.symm.trans stored)
      exact le_rfl
    · cases member
    · cases List.mem_singleton.mp member
      intro event inside row stored
      rw [same] at inside
      rw [table] at stored
      exact counted event inside stored

theorem exclusive_reachable (reach : ReachableUnder settings SettlesInTime c) : Exclusive c.state := by
  obtain ⟨clock, reach⟩ := reach
  refine (reach.custody_invariant held Exclusive Fresh ?_ ?_ ?_).1
  · refine ⟨fun stored => ?_, rfl⟩
    cases stored
  · intro s frame _ entry
    refine ⟨by rw [held, events_of_entry entry]; rfl, fun event member => ?_⟩
    rw [events_of_entry entry] at member
    cases member
  · intro c task input frame rest s' pushed others reached exclusive fresh distinct allowed atTask perm run
    have step := exec_step run
    obtain ⟨sound, backed⟩ := sound_reachable ⟨clock, reached⟩
    have inTime := allowed.inTime atTask
    have here := backed frame (TaskPool.mem_frames_top atTask)
    rw [List.flatMap_cons, List.nodup_append'] at distinct
    obtain ⟨mine, theirs, apart⟩ := distinct
    have leaves : ∀ other ∈ others, Fresh s' other := by
      intro other member event inside holds
      have holds := leaseHolds_mono step.advances.clock holds
      obtain ⟨stored, unpublished, undead⟩ := fresh other (List.mem_cons_of_mem _ member) event inside holds
      have elsewhere : event.id ∉ held c.state frame := fun ours =>
        apart ours (List.mem_flatMap.mpr ⟨other, member, mem_held inside holds⟩)
      exact ⟨step.leaves sound here inTime stored unpublished undead holds elsewhere, unpublished, undead⟩
    have fewer : (others.flatMap (held s')).Sublist (others.flatMap (held c.state)) :=
      List.Sublist.flatMap_right _ fun other _ => held_sublist step.advances.clock other
    refine ⟨?_, ?_, ?_⟩
    · intro id row' stored published
      rcases step.origin sound stored with ⟨row, before, writes⟩ | ⟨content, rfl, rfl⟩
      · exact writes.exclusive exclusive before (fresh frame (List.mem_cons_self ..)) inTime mine published
      · cases published
    · intro other member
      rcases List.mem_append.mp member with new | old
      · rcases step.inherits with ⟨now, rfl⟩ | rfl | ⟨next, rfl, same, table, still⟩
        · obtain ⟨_, next, rfl, _, claimed⟩ := step.claimed
          cases List.mem_singleton.mp new
          intro event inside _
          obtain ⟨stored, unpublished, undead, _⟩ := claimed event inside
          exact ⟨stored, unpublished, undead⟩
        · cases new
        · cases List.mem_singleton.mp new
          intro event inside holds
          rw [same] at inside
          rw [still] at holds
          rw [table]
          exact fresh frame (List.mem_cons_self ..) event inside holds
      · exact leaves other old
    · rw [List.flatMap_append, List.nodup_append']
      rcases step.inherits with ⟨now, rfl⟩ | rfl | ⟨next, rfl, same, table, still⟩
      · obtain ⟨_, next, rfl, distinct, claimed⟩ := step.claimed
        rw [List.flatMap_singleton]
        refine ⟨distinct.sublist (List.filter_sublist.map _), fewer.nodup theirs, ?_⟩
        -- A row under a lease was not there to be claimed.
        intro id new old
        obtain ⟨event, inside, rfl⟩ := List.mem_map.mp new
        obtain ⟨_, _, _, row, stored, claimable⟩ := claimed event (List.mem_of_mem_filter inside)
        obtain ⟨other, member, held'⟩ := List.mem_flatMap.mp (fewer.subset old)
        obtain ⟨event', inside', sameId⟩ := List.mem_map.mp held'
        obtain ⟨inside', holds⟩ := List.mem_filter.mp inside'
        obtain ⟨stored', _, _⟩ := fresh other (List.mem_cons_of_mem _ member) event' inside' holds
        rw [sameId, stored] at stored'
        cases Option.some.inj stored'
        exact not_claimable holds (here.past now rfl) claimable
      · exact ⟨List.nodup_nil, fewer.nodup theirs, List.disjoint_nil_left _⟩
      · have ours : held s' next = held c.state frame := by rw [held, held, same, still]
        rw [List.flatMap_singleton, ours]
        exact ⟨mine, fewer.nodup theirs, fun id new old => apart new (fewer.subset old)⟩

/-- Outbox outcomes exclude each other as long as every replica records its
outcomes under the lease of its claim; that a row is only dead-lettered after
as many failed attempts as are allowed needs no such condition. -/
theorem outcomes_exclude (settings : OutboxSettings) {c : Config} (reach : ReachableUnder settings SettlesInTime c) :
    ∀ row ∈ c.state.outbox.rows, ¬ (row.isPublished = true ∧ row.isDeadLettered = true) ∧
      (row.isPublished = true → row.nextAttemptAt = none) ∧
      (row.isDeadLettered = true → settings.outboxMaxAttempts ≤ c.state.failuresOf row.id) := by
  intro row member
  have stored := Table.mem_rows_iff.mp member
  have exclusive := exclusive_reachable reach stored
  refine ⟨fun ⟨published, dead⟩ => ?_, fun published => (exclusive published).1, fun dead => ?_⟩
  · simp [OutboxEvent.isDeadLettered, (exclusive published).2] at dead
  · have failed := attempts_le_failures reach row.id
    rw [OutboxState.attemptsOf, stored] at failed
    exact (exhausted_reachable reach stored dead).trans failed

theorem outcomes_exclude_published : ∃ c, ReachableUnder Sample.outbox SettlesInTime c ∧
    ∃ row ∈ c.state.outbox.rows, row.isPublished = true ∧ row.nextAttemptAt = none := by
  obtain ⟨c, reach, row, member, published⟩ := reachableUnder_replay Sample.outbox SettlesInTime
    ([.spawn (.stage (Sample.content 1)), .run 0 {}, .spawn .runOnce] ++ List.replicate 8 (.run 1 {}))
    (fun c => ∃ row ∈ c.state.outbox.rows, row.isPublished = true) (by decide +kernel)
  exact ⟨c, reach, row, member, published, (outcomes_exclude Sample.outbox reach row member).2.1 published⟩

/-- A broker that rejects every record. -/
def Sample.rejecting : OutboxInput := { broker := fun _ => .rejected "MessageSizeTooLargeError" }

/-- A replica runs its task for a number of units of work. -/
def Sample.works (task count : Nat) (input : OutboxInput) : List Action := List.replicate count (.run task input)

/-- A replica has yet to record that the broker refused its row when its lease
ends, and another replica publishes the row. -/
def Sample.overtaken : List Action :=
  .spawn (.stage (Sample.content 1)) :: .run 0 {} :: .spawn .runOnce :: works 1 10 rejecting ++
    .spawn (.wait 61000000) :: .run 2 {} :: .spawn .runOnce :: works 3 8 {} ++ [.run 1 {}]

/-- One failed attempt is enough for the dead letters. -/
def Sample.singleAttempt : OutboxSettings := { Sample.outbox with outboxMaxAttempts := 1, attempts_pos := le_rfl }

theorem overtaken_replica_overwrites :
    (∃ c, Reachable Sample.outbox c ∧
      ∃ row ∈ c.state.outbox.rows, row.isPublished = true ∧ row.nextAttemptAt ≠ none) ∧
    ∃ settings c, Reachable settings c ∧
      ∃ row ∈ c.state.outbox.rows, row.isPublished = true ∧ row.isDeadLettered = true := by
  refine ⟨?_, Sample.singleAttempt, ?_⟩
  · exact reachableUnder_replay Sample.outbox (fun _ _ => True) Sample.overtaken _ (by decide +kernel)
  · exact reachableUnder_replay Sample.singleAttempt (fun _ _ => True) Sample.overtaken _ (by decide +kernel)

end Publisher

end IntegrationOrchestrator
