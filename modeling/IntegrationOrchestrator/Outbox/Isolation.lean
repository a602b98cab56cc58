import IntegrationOrchestrator.Outbox.Exclusion

namespace IntegrationOrchestrator

namespace Publisher

open OutboxFrame
open TaskPool.Program (given_commit given_raised given_ends)

/-- A run of the publisher alone, with a broker that treats each event the
same way whenever it sees it. -/
abbrev Runs (settings : OutboxSettings) (input : OutboxInput) :
    OutboxState × List OutboxFrame → OutboxState × List OutboxFrame → Prop :=
  Relation.ReflTransGen ((publisher settings).given input).Alone

/-- One complete run of `run_once`. -/
def Completes (settings : OutboxSettings) (input : OutboxInput) (s s' : OutboxState) : Prop :=
  Runs settings input (s, [.runOnce]) (s', [])

/-- The batch that `run_once` claims. -/
def claimedBatch (settings : OutboxSettings) (locked : UUID → Bool) (s : OutboxState) : List OutboxEvent :=
  (s.outbox.claimUnpublished s.clock settings.outboxBatchSize (settings.leaseUntil s.clock) locked).2

/-- What the run does with an event by itself: it is published if the broker
accepts it, and otherwise has one more attempt and is rescheduled or
dead-lettered. -/
def Isolated (settings : OutboxSettings) (broker : OutboxEvent → Delivery) (s' : OutboxState) (event : OutboxEvent) :
    Prop :=
  ∃ row, s'.outbox.get event.id = some row ∧
    if broker event = .accepted then row.isPublished = true
    else row.isPublished = false ∧ row.attemptCount = event.attemptCount + 1 ∧
      (row.isDeadLettered = true ∨ row.nextAttemptAt = some (settings.nextAttemptAt s'.clock event))

section loops

variable {settings : OutboxSettings} {input : OutboxInput} {caller : PublishCall} {s s' : OutboxState}

/-- Talking to the broker leaves the table and the clock alone. -/
structure Talks (settings : OutboxSettings) (input : OutboxInput) (s : OutboxState) (frame : OutboxFrame)
    (s' : OutboxState) (stack : List OutboxFrame) : Prop where
  runs : Runs settings input (s, [frame]) (s', stack)
  table : s'.outbox = s.outbox
  clock : s'.clock = s.clock

theorem Talks.trans {frame next : OutboxFrame} {middle : OutboxState} {stack : List OutboxFrame}
    (first : Talks settings input s frame middle [next]) (second : Talks settings input middle next s' stack) :
    Talks settings input s frame s' stack where
  runs := first.runs.trans second.runs
  table := second.table.trans first.table
  clock := second.clock.trans first.clock

theorem runs_exec {frame : OutboxFrame} {stack : List OutboxFrame}
    (run : exec settings frame input s = .ok (s', stack)) : Runs settings input (s, [frame]) (s', stack) := by
  have unit : Runs settings input (s, [frame]) (s', stack ++ []) := given_commit run
  rwa [List.append_nil] at unit

theorem Talks.of_exec {frame : OutboxFrame} {stack : List OutboxFrame} (run : exec settings frame input s = .ok (s', stack))
    (table : s'.outbox = s.outbox) (clock : s'.clock = s.clock) : Talks settings input s frame s' stack where
  runs := runs_exec run
  table := table
  clock := clock

/-- The loops of `publish_batch` are at the first of the records left. -/
theorem drop_cons {events rest : List OutboxEvent} {event : OutboxEvent} {index : Nat}
    (left : events.drop index = event :: rest) : events[index]? = some event ∧ events.drop (index + 1) = rest := by
  refine ⟨?_, ?_⟩
  · have first := congrArg List.head? left
    rwa [List.head?_drop] at first
  · rw [← List.tail_drop, left]
    rfl

/-- All records are handed over. -/
theorem handOver_talks {pending : List OutboxEvent} (quiet : ∀ event ∈ pending, input.broker event ≠ .raised)
    {sent : Nat} (left : caller.envelopes.drop sent = pending) :
    ∃ s', Talks settings input s (.handOver caller sent) s' [.awaitAcks caller 0] := by
  induction pending generalizing s sent with
  | nil =>
    have none : caller.envelopes[sent]? = none := List.getElem?_eq_none_iff.mpr (List.drop_eq_nil_iff.mp left)
    exact ⟨s, .of_exec (by simp only [exec, none]) rfl rfl⟩
  | cons event rest ih =>
    obtain ⟨here, later⟩ := drop_cons left
    obtain ⟨quietHere, quietLater⟩ := List.forall_mem_cons.mp quiet
    have hands : Talks settings input s (.handOver caller sent) (s.logs (.handedOver event.id (hand settings event)))
        [.handOver caller (sent + 1)] := .of_exec (by simp only [exec, here, if_neg quietHere]) rfl rfl
    obtain ⟨s', talks⟩ := ih quietLater later
    exact ⟨s', hands.trans talks⟩

/-- The first record that cannot be handed over ends the run. -/
theorem handOver_raises {pending : List OutboxEvent} (raises : ∃ event ∈ pending, input.broker event = .raised)
    {sent : Nat} (left : caller.envelopes.drop sent = pending) :
    ∃ s', Talks settings input s (.handOver caller sent) s' [] := by
  induction pending generalizing s sent with
  | nil =>
    obtain ⟨_, never, _⟩ := raises
    cases never
  | cons event rest ih =>
    obtain ⟨here, later⟩ := drop_cons left
    by_cases raisesHere : input.broker event = .raised
    · have run : exec settings (.handOver caller sent) input s = .error .kafka := by
        simp only [exec, here, if_pos raisesHere]
      exact ⟨s, given_raised run, rfl, rfl⟩
    · have hands : Talks settings input s (.handOver caller sent) (s.logs (.handedOver event.id (hand settings event)))
          [.handOver caller (sent + 1)] := .of_exec (by simp only [exec, here, if_neg raisesHere]) rfl rfl
      have raisesLater : ∃ event ∈ rest, input.broker event = .raised := by
        obtain ⟨other, member, raised⟩ := raises
        rcases List.mem_cons.mp member with rfl | below
        · exact absurd raised raisesHere
        · exact ⟨other, below, raised⟩
      obtain ⟨s', talks⟩ := ih raisesLater later
      exact ⟨s', hands.trans talks⟩

/-- The acknowledgements are awaited up to the first that does not come. -/
theorem awaitAcks_talks {pending : List OutboxEvent} (quiet : ∀ event ∈ pending, input.broker event ≠ .raised)
    {acked : Nat} (left : caller.envelopes.drop acked = pending) :
    ∃ s' p, Talks settings input s (.awaitAcks caller acked) s' [p.next] ∧
      ((∀ event ∈ pending, input.broker event = .accepted) ∧ p = caller.returned ∨
        (∃ event ∈ pending, input.broker event ≠ .accepted) ∧ ∃ reason, p = caller.refused reason) := by
  induction pending generalizing s acked with
  | nil =>
    have none : caller.envelopes[acked]? = none := List.getElem?_eq_none_iff.mpr (List.drop_eq_nil_iff.mp left)
    exact ⟨s, _, .of_exec (by simp only [exec, none]) rfl rfl, .inl ⟨List.forall_mem_nil _, rfl⟩⟩
  | cons event rest ih =>
    obtain ⟨here, later⟩ := drop_cons left
    obtain ⟨quietHere, quietLater⟩ := List.forall_mem_cons.mp quiet
    cases answer : input.broker event with
    | accepted =>
      have acks : Talks settings input s (.awaitAcks caller acked) (s.logs (.acknowledged event.id event.eventId))
          [.awaitAcks caller (acked + 1)] := .of_exec (by simp only [exec, here, answer]) rfl rfl
      obtain ⟨s', p, talks, outcome⟩ := ih quietLater later
      refine ⟨s', p, acks.trans talks, outcome.imp ?_ ?_⟩
      · rintro ⟨all, returned⟩
        exact ⟨List.forall_mem_cons.mpr ⟨answer, all⟩, returned⟩
      · rintro ⟨⟨other, member, refused⟩, reason⟩
        exact ⟨⟨other, List.mem_cons_of_mem _ member, refused⟩, reason⟩
    | rejected error =>
      have refuses : Talks settings input s (.awaitAcks caller acked) { s with log := s.log ++ caller.failedEvents }
          [(caller.refused ("kafka rejected the publication: " ++ error)).next] :=
        .of_exec (by simp only [exec, here, answer, PublishCall.catches]) rfl rfl
      refine ⟨_, _, refuses, .inr ⟨⟨event, List.mem_cons_self .., by simp [answer]⟩, _, rfl⟩⟩
    | raised => exact absurd answer quietHere

/-- A call of `publish_batch` with no record that cannot be handed over. -/
theorem publishBatch_talks (started : input.started = true) (some' : caller.envelopes ≠ [])
    (quiet : ∀ event ∈ caller.envelopes, input.broker event ≠ .raised) :
    ∃ s' p, Talks settings input s (.publishBatch caller) s' [p.next] ∧
      ((∀ event ∈ caller.envelopes, input.broker event = .accepted) ∧ p = caller.returned ∨
        (∃ event ∈ caller.envelopes, input.broker event ≠ .accepted) ∧ ∃ reason, p = caller.refused reason) := by
  have enters : Talks settings input s (.publishBatch caller) s [.handOver caller 0] :=
    .of_exec (by simp only [exec, if_neg some', started, if_true]) rfl rfl
  have hands : ∃ middle, Talks settings input s (.handOver caller 0) middle [.awaitAcks caller 0] :=
    handOver_talks quiet List.drop_zero
  obtain ⟨middle, hands⟩ := hands
  obtain ⟨s', p, acks, outcome⟩ := awaitAcks_talks quiet List.drop_zero
  exact ⟨s', p, (enters.trans hands).trans acks, outcome⟩

/-- The events are tried one by one, and each has its own outcome. -/
theorem oneByOne_talks (started : input.started = true) (p : Publication)
    (quiet : ∀ event ∈ p.rest, input.broker event ≠ .raised) :
    ∃ s' q, Talks settings input s p.next s' [.settle q] ∧ q.events = p.events ∧
      q.published = p.published ++ p.rest.filter (input.broker · = .accepted) ∧
      q.failures.map Prod.fst = p.failures.map Prod.fst ++ p.rest.filter (¬ input.broker · = .accepted) := by
  induction remaining : p.rest generalizing s p with
  | nil =>
    have done : p.next = .settle p := by rw [Publication.next, if_pos remaining]
    rw [done]
    exact ⟨s, p, ⟨.refl, rfl, rfl⟩, rfl, by simp, by simp⟩
  | cons event rest ih =>
    obtain ⟨quietHere, quietLater⟩ := List.forall_mem_cons.mp (remaining ▸ quiet)
    have going : p.next = .publishBatch (.single p) := by rw [Publication.next, if_neg (by simp [remaining])]
    have single : (PublishCall.single p).envelopes = [event] := by simp [PublishCall.envelopes, remaining]
    have quietSingle : ∀ other ∈ (PublishCall.single p).envelopes, input.broker other ≠ .raised := by
      simpa [single] using quietHere
    obtain ⟨middle, q, talks, outcome⟩ :=
      @publishBatch_talks settings input (.single p) s started (by simp [single]) quietSingle
    rw [single] at outcome
    rw [going]
    rcases outcome with ⟨accepted, rfl⟩ | ⟨refused, reason, rfl⟩
    · obtain ⟨events, published, failures, later⟩ := p.accept_eq
      have later : p.accept.rest = rest := by simp [later, remaining]
      obtain ⟨s', q, talks', events', published', failures'⟩ := ih p.accept (by simpa [later] using quietLater) later
      refine ⟨s', q, talks.trans talks', events'.trans events, ?_, ?_⟩
      · have accepted : input.broker event = .accepted := by simpa using accepted
        rw [published', published, remaining]
        simp [accepted]
      · have accepted : input.broker event = .accepted := by simpa using accepted
        rw [failures', failures]
        simp [accepted]
    · obtain ⟨events, published, failures, later⟩ := p.refuse_eq reason
      have later : (p.refuse reason).rest = rest := by simp [later, remaining]
      obtain ⟨s', q, talks', events', published', failures'⟩ :=
        ih (p.refuse reason) (by simpa [later] using quietLater) later
      have refused : input.broker event ≠ .accepted := by simpa using refused
      refine ⟨s', q, talks.trans talks', events'.trans events, ?_, ?_⟩
      · rw [published', published]
        simp [refused]
      · rw [failures', failures, remaining]
        simp [refused]

end loops

section settled

variable {settings : OutboxSettings} {now : Instant} {p : Publication} {row : OutboxEvent}

theorem foldl_failedRow_of_notMem {failures : List (OutboxEvent × String)}
    (outside : ∀ failure ∈ failures, failure.1.id ≠ row.id) :
    failures.foldl (fun row failure => failedRow settings now failure row) row = row := by
  induction failures with
  | nil => rfl
  | cons failure rest ih =>
    obtain ⟨here, later⟩ := List.forall_mem_cons.mp outside
    rw [List.foldl_cons, failedRow, if_neg (Ne.symm here)]
    exact ih later

/-- A row with one failure is written once. -/
theorem foldl_failedRow {failures : List (OutboxEvent × String)} (distinct : (failures.map (·.1.id)).Nodup)
    {failure : OutboxEvent × String} (member : failure ∈ failures) (same : failure.1.id = row.id) :
    failures.foldl (fun row failure => failedRow settings now failure row) row =
      failedRow settings now failure row := by
  induction failures with
  | nil => cases member
  | cons first rest ih =>
    obtain ⟨fresh, others⟩ := List.nodup_cons.mp distinct
    rw [List.foldl_cons]
    rcases List.mem_cons.mp member with rfl | below
    · refine foldl_failedRow_of_notMem fun other inside sameId => fresh (List.mem_map.mpr ⟨other, inside, ?_⟩)
      exact sameId.trans ((failedRow_id failure row).trans same.symm)
    · have differs : row.id ≠ first.1.id := fun sameId =>
        fresh (List.mem_map.mpr ⟨failure, below, same.trans sameId⟩)
      rw [failedRow, if_neg differs]
      exact ih others below

/-- The failed events of a batch have ids of their own. -/
theorem failures_distinct (distinct : (p.events.map (·.id)).Nodup) :
    (p.failures.map (·.1.id)).Nodup ∧ ∀ failure ∈ p.failures, failure.1.id ∉ p.published.map (·.id) := by
  have split := (p.covers.map (·.id)).nodup_iff.mpr distinct
  rw [List.map_append, List.map_append, List.map_map] at split
  refine ⟨((List.nodup_append'.mp (List.nodup_append'.mp split).1).2.1), fun failure member among => ?_⟩
  exact failed_of_published distinct among failure member rfl

theorem settledRow_failed (distinct : (p.events.map (·.id)).Nodup) {failure : OutboxEvent × String}
    (member : failure ∈ p.failures) (same : failure.1.id = row.id) :
    settledRow settings now p row = failedRow settings now failure row := by
  obtain ⟨apart, unpublished⟩ := failures_distinct distinct
  rw [settledRow, publishedRow, if_neg (same ▸ unpublished failure member)]
  exact foldl_failedRow apart member same

/-- Each event of a settled batch has the outcome that the broker gave it. -/
theorem settled_isolated {broker : OutboxEvent → Delivery} {s : OutboxState} (distinct : (p.events.map (·.id)).Nodup)
    (published : p.published = p.events.filter (broker · = .accepted))
    (failed : p.failures.map Prod.fst = p.events.filter (¬ broker · = .accepted)) {event : OutboxEvent}
    (member : event ∈ p.events) (stored : s.outbox.get event.id = some event) (unpublished : event.publishedAt = none) :
    Isolated settings broker { s with outbox := settled settings s.clock p s.outbox } event := by
  refine ⟨settledRow settings s.clock p event, ?_, ?_⟩
  · show (settled settings s.clock p s.outbox).get event.id = _
    rw [get_settled, stored]
    rfl
  · split
    · rename_i accepted
      have among : event ∈ p.published := by simp [published, member, accepted]
      rw [settledRow_published distinct (List.mem_map_of_mem among)]
      rfl
    · rename_i refused
      have among : event ∈ p.failures.map Prod.fst := by simp [failed, member, refused]
      obtain ⟨failure, inside, rfl⟩ := List.mem_map.mp among
      rw [settledRow_failed distinct inside rfl, failedRow, if_pos rfl]
      split
      · exact ⟨by simp [OutboxEvent.isPublished, OutboxEvent.markDeadLettered, unpublished], rfl, .inl rfl⟩
      · exact ⟨by simp [OutboxEvent.isPublished, OutboxEvent.markFailed, unpublished], rfl, .inr rfl⟩

end settled

section run

variable {settings : OutboxSettings} {input : OutboxInput} {s : OutboxState}

/-- The state after the claim of `run_once`. -/
def claimedState (settings : OutboxSettings) (locked : UUID → Bool) (s : OutboxState) : OutboxState :=
  { s with outbox :=
      (s.outbox.claimUnpublished s.clock settings.outboxBatchSize (settings.leaseUntil s.clock) locked).1 }

theorem claim_runs (settings : OutboxSettings) (input : OutboxInput) (s : OutboxState) :
    Runs settings input (s, [.runOnce]) (claimedState settings input.locked s,
      [if claimedBatch settings input.locked s = [] then .purge
        else .publishBatch (.batch (claimedBatch settings input.locked s))]) := by
  have reads : exec settings .runOnce input s = .ok (s, [.claim s.clock]) := rfl
  have claims : exec settings (.claim s.clock) input s = .ok (claimedState settings input.locked s,
      [if claimedBatch settings input.locked s = [] then .purge
        else .publishBatch (.batch (claimedBatch settings input.locked s))]) := rfl
  exact (runs_exec reads).trans (runs_exec claims)

/-- The claimed events are stored as they were claimed. -/
theorem claimedBatch_stored (settings : OutboxSettings) (locked : UUID → Bool) (s : OutboxState) :
    ((claimedBatch settings locked s).map (·.id)).Nodup ∧ ∀ event ∈ claimedBatch settings locked s,
      (claimedState settings locked s).outbox.get event.id = some event ∧ event.publishedAt = none := by
  have step : Step settings s (.claim s.clock) (claimedState settings locked s)
      [if claimedBatch settings locked s = [] then .purge else .publishBatch (.batch (claimedBatch settings locked s))] :=
    have claimed : s.outbox.claimUnpublished s.clock settings.outboxBatchSize (settings.leaseUntil s.clock) locked =
      ((claimedState settings locked s).outbox, claimedBatch settings locked s) := rfl
    .claim claimed
  obtain ⟨_, next, pushed, distinct, claimed⟩ := step.claimed
  have batch : next.events = claimedBatch settings locked s := by
    rw [← List.singleton_inj.mp pushed]
    split
    · rename_i none
      exact none.symm
    · rfl
  rw [batch] at distinct claimed
  exact ⟨distinct, fun event member => ⟨(claimed event member).1, (claimed event member).2.1⟩⟩

theorem run_isolated (started : input.started = true)
    (quiet : ∀ event ∈ claimedBatch settings input.locked s, input.broker event ≠ .raised) :
    ∃ s', Completes settings input s s' ∧
      ∀ event ∈ claimedBatch settings input.locked s, Isolated settings input.broker s' event := by
  have claims := claim_runs settings input s
  obtain ⟨distinct, stored⟩ := claimedBatch_stored settings input.locked s
  by_cases empty : claimedBatch settings input.locked s = []
  · rw [if_pos empty] at claims
    refine ⟨_, claims.trans (runs_exec rfl), ?_⟩
    rw [empty]
    exact List.forall_mem_nil _
  · rw [if_neg empty] at claims
    generalize claimedBatch settings input.locked s = events at *
    obtain ⟨middle, q, talks, outcome⟩ := @publishBatch_talks settings input (.batch events)
      (claimedState settings input.locked s) started empty quiet
    have publication : ∃ s₁ p, Talks settings input middle q.next s₁ [.settle p] ∧ p.events = events ∧
        p.published = events.filter (input.broker · = .accepted) ∧
        p.failures.map Prod.fst = events.filter (¬ input.broker · = .accepted) := by
      rcases outcome with ⟨accepted, rfl⟩ | ⟨_, reason, rfl⟩
      · refine ⟨middle, .all events, ⟨.refl, rfl, rfl⟩, rfl, ?_, ?_⟩
        · exact (List.filter_eq_self.mpr fun event member => decide_eq_true (accepted event member)).symm
        · exact (List.filter_eq_nil_iff.mpr fun event member => by simpa using accepted event member).symm
      · exact oneByOne_talks started (.oneByOne events) quiet
    obtain ⟨s₁, p, talks', rfl, published, failed⟩ := publication
    have through := talks.trans talks'
    refine ⟨_, (claims.trans through.runs).trans (runs_exec rfl), fun event member => ?_⟩
    obtain ⟨here, unpublished⟩ := stored event member
    exact settled_isolated distinct published failed member (through.table ▸ here) unpublished

/-- An event that cannot be handed over ends the run with every event of its
batch as it was claimed. -/
theorem run_abandoned (started : input.started = true)
    (raises : ∃ event ∈ claimedBatch settings input.locked s, input.broker event = .raised) :
    ∃ s', Completes settings input s s' ∧
      ∀ event ∈ claimedBatch settings input.locked s, s'.outbox.get event.id = some event := by
  have claims := claim_runs settings input s
  obtain ⟨_, stored⟩ := claimedBatch_stored settings input.locked s
  have some' : claimedBatch settings input.locked s ≠ [] := by
    rintro empty
    obtain ⟨event, member, _⟩ := raises
    rw [empty] at member
    cases member
  rw [if_neg some'] at claims
  generalize claimedBatch settings input.locked s = events at *
  have enters : Talks settings input (claimedState settings input.locked s) (.publishBatch (.batch events))
      (claimedState settings input.locked s) [.handOver (.batch events) 0] :=
    .of_exec (by simp only [exec, PublishCall.envelopes, if_neg some', started, if_true]) rfl rfl
  obtain ⟨s', hands⟩ := @handOver_raises settings input (.batch events) (claimedState settings input.locked s) events
    raises 0 rfl
  have through := enters.trans hands
  exact ⟨s', claims.trans through.runs, fun event member => through.table ▸ (stored event member).1⟩

/-- One run of the publisher deals with each event of its batch by itself
exactly if the Kafka client takes every record that is handed over. -/
theorem poison_isolated_iff (settings : OutboxSettings) (s : OutboxState) (broker : OutboxEvent → Delivery)
    (locked : UUID → Bool) :
    ∃ s', Completes settings { broker := broker, locked := locked } s s' ∧
      (∀ other, Completes settings { broker := broker, locked := locked } s other → other = s') ∧
      ((∀ event ∈ claimedBatch settings locked s, Isolated settings broker s' event) ↔
        ∀ event ∈ claimedBatch settings locked s, broker event ≠ .raised) := by
  by_cases quiet : ∀ event ∈ claimedBatch settings locked s, broker event ≠ .raised
  · obtain ⟨s', completes, isolated⟩ :=
      @run_isolated settings { broker := broker, locked := locked } s rfl quiet
    exact ⟨s', completes, fun other second => given_ends second completes, fun _ => quiet, fun _ => isolated⟩
  · have raises : ∃ event ∈ claimedBatch settings locked s, broker event = .raised := by
      push Not at quiet
      exact quiet
    obtain ⟨s', completes, kept⟩ := @run_abandoned settings { broker := broker, locked := locked } s rfl raises
    refine ⟨s', completes, fun other second => given_ends second completes, fun isolated => ?_, fun now => absurd now quiet⟩
    obtain ⟨event, member, raised⟩ := raises
    obtain ⟨row, stored, outcome⟩ := isolated event member
    cases Option.some.inj (stored.symm.trans (kept event member))
    rw [if_neg (by simp [raised])] at outcome
    have grown : event.attemptCount = event.attemptCount + 1 := outcome.2.1
    omega

/-- Two rows; the client raises when the record of the second is handed over. -/
def Sample.poisoned : OutboxState where
  outbox := (Table.empty.put { Sample.content 1 with }).put { Sample.content 2 with }
  clock := 0

/-- The broker would have accepted the first event. -/
theorem poisoned_batch_abandoned :
    ∃ s', Completes Sample.outbox { broker := fun event => if event.id = 2 then .raised else .accepted } Sample.poisoned s' ∧
      ∃ event ∈ claimedBatch Sample.outbox (fun _ => false) Sample.poisoned, event.id = 1 ∧
        s'.outbox.get event.id = some event ∧ event.isPublished = false := by
  have batch : ((claimedBatch Sample.outbox (fun _ => false) Sample.poisoned).any (·.id = 2) &&
      (claimedBatch Sample.outbox (fun _ => false) Sample.poisoned).any
        fun event => event.id = 1 && !event.isPublished) = true := by decide +kernel
  rw [Bool.and_eq_true, List.any_eq_true, List.any_eq_true] at batch
  obtain ⟨⟨poison, inside, second⟩, event, member, first⟩ := batch
  simp only [Bool.and_eq_true, decide_eq_true_eq, Bool.not_eq_true'] at first second
  obtain ⟨s', completes, kept⟩ := @run_abandoned Sample.outbox
    { broker := fun event => if event.id = 2 then .raised else .accepted } Sample.poisoned rfl
    ⟨poison, inside, if_pos second⟩
  exact ⟨s', completes, event, member, first.1, kept event member, first.2⟩

end run

end Publisher

end IntegrationOrchestrator
