import IntegrationOrchestrator.Domain.Json
import IntegrationOrchestrator.Domain.Policies
import IntegrationOrchestrator.Domain.Request
import IntegrationOrchestrator.Foundation.Table
import IntegrationOrchestrator.Foundation.TaskPool

namespace IntegrationOrchestrator

/-- The columns of an outbox row that are written once, when the row is staged. -/
structure OutboxContent where
  id : UUID
  eventId : UUID
  eventType : String
  eventVersion : Int
  aggregateType : String
  aggregateId : String
  payload : Payload
  correlationId : String
  createdAt : Instant
  causationId : Option String := none
  partitionKey : Option String := none
  version_pos : 1 ≤ eventVersion

/-- A durable promise to publish a domain event. -/
structure OutboxEvent extends OutboxContent where
  publishedAt : Option Instant := none
  attemptCount : Nat := 0
  nextAttemptAt : Option Instant := none
  lastError : Option String := none
  deadLetteredAt : Option Instant := none

/-- The wire format of a published event. -/
structure EventEnvelope where
  eventId : UUID
  eventType : String
  eventVersion : Int
  aggregateType : String
  aggregateId : String
  occurredAt : Instant
  correlationId : String
  producer : String
  payload : Payload
  causationId : Option String
  metadata : Payload

namespace OutboxEvent

def isPublished (event : OutboxEvent) : Bool := event.publishedAt.isSome

def isDeadLettered (event : OutboxEvent) : Bool := event.deadLetteredAt.isSome

def routingKey (event : OutboxEvent) : String :=
  if truthy event.partitionKey then event.partitionKey.getD "" else event.aggregateId

def toEnvelope (event : OutboxEvent) : EventEnvelope where
  eventId := event.eventId
  eventType := event.eventType
  eventVersion := event.eventVersion
  aggregateType := event.aggregateType
  aggregateId := event.aggregateId
  occurredAt := event.createdAt
  correlationId := event.correlationId
  producer := "integration-orchestrator"
  payload := event.payload
  causationId := event.causationId
  metadata := [("attempt", .int event.attemptCount), ("partition_key", .str event.routingKey)]

/-! The values that the repository's statements write to a row. -/

def leased (event : OutboxEvent) (until' : Instant) : OutboxEvent := { event with nextAttemptAt := some until' }

def markPublished (event : OutboxEvent) (now : Instant) : OutboxEvent :=
  { event with publishedAt := some now, lastError := none, nextAttemptAt := none }

def markFailed (event : OutboxEvent) (error : String) (nextAttemptAt : Instant) : OutboxEvent :=
  { event with
    attemptCount := event.attemptCount + 1, lastError := some (String.ofList (error.toList.take 1000))
    nextAttemptAt := some nextAttemptAt }

def markDeadLettered (event : OutboxEvent) (error : String) (now : Instant) : OutboxEvent :=
  { event with
    attemptCount := event.attemptCount + 1, lastError := some (String.ofList (error.toList.take 1000))
    nextAttemptAt := none, deadLetteredAt := some now }

def redriven (event : OutboxEvent) (now : Instant) : OutboxEvent :=
  { event with deadLetteredAt := none, nextAttemptAt := some now, lastError := none }

variable (event : OutboxEvent) (now next : Instant) (error : String)

@[simp] theorem leased_content : (event.leased now).toOutboxContent = event.toOutboxContent := rfl

@[simp] theorem markPublished_content : (event.markPublished now).toOutboxContent = event.toOutboxContent := rfl

@[simp] theorem markFailed_content : (event.markFailed error next).toOutboxContent = event.toOutboxContent := rfl

@[simp] theorem markDeadLettered_content :
    (event.markDeadLettered error now).toOutboxContent = event.toOutboxContent := rfl

@[simp] theorem redriven_content : (event.redriven now).toOutboxContent = event.toOutboxContent := rfl

/-- The `WHERE` clause of the claim. -/
def claimable (now : Instant) (event : OutboxEvent) : Bool :=
  event.publishedAt.isNone && event.deadLetteredAt.isNone && event.nextAttemptAt.all (· ≤ now)

end OutboxEvent

abbrev Outbox := Table (fun event : OutboxEvent => event.id)

/-! The repository's statements. Each of the updates writes to the rows with
the given ids and asks nothing about their state, the redrive apart. -/

namespace Outbox

def update (t : Outbox) (chosen : OutboxEvent → Bool) (f : OutboxEvent → OutboxEvent)
    (keeps : ∀ row, (f row).toOutboxContent = row.toOutboxContent) : Outbox :=
  t.mapRows (fun row => if chosen row then f row else row) (fun row => by
    split
    · exact congrArg OutboxContent.id (keeps row)
    · rfl)

/-- The rows to claim, oldest first. Rows that another transaction has locked
are skipped. -/
def selected (t : Outbox) (now : Instant) (limit : Nat) (locked : UUID → Bool) : List OutboxEvent :=
  ((t.rows.filter fun row => row.claimable now && !locked row.id).insertionSort
    fun first second => first.createdAt ≤ second.createdAt).take limit

def claimUnpublished (t : Outbox) (now : Instant) (limit : Nat) (leaseUntil : Instant) (locked : UUID → Bool) :
    Outbox × List OutboxEvent :=
  let rows := t.selected now limit locked
  (t.update (fun row => row.id ∈ rows.map (·.id)) (·.leased leaseUntil) (·.leased_content leaseUntil),
    rows.map (·.leased leaseUntil))

def markPublished (t : Outbox) (ids : List UUID) (now : Instant) : Outbox :=
  t.update (fun row => row.id ∈ ids) (·.markPublished now) (·.markPublished_content now)

def markFailed (t : Outbox) (id : UUID) (error : String) (nextAttemptAt : Instant) : Outbox :=
  t.update (fun row => row.id = id) (·.markFailed error nextAttemptAt)
    (·.markFailed_content nextAttemptAt error)

def markDeadLettered (t : Outbox) (id : UUID) (error : String) (now : Instant) : Outbox :=
  t.update (fun row => row.id = id) (·.markDeadLettered error now) (·.markDeadLettered_content now error)

def redriveDeadLettered (t : Outbox) (ids : List UUID) (now : Instant) : Outbox :=
  t.update (fun row => row.id ∈ ids && row.deadLetteredAt.isSome && row.publishedAt.isNone) (·.redriven now)
    (·.redriven_content now)

def purgePublishedBefore (t : Outbox) (cutoff : Instant) : Outbox :=
  t.filterRows fun row => !(row.publishedAt.any (· < cutoff))

theorem get_id {t : Outbox} {id : UUID} {row : OutboxEvent} (stored : t.get id = some row) : row.id = id :=
  @Table.get_key _ _ (fun event : OutboxEvent => event.id) _ t id row stored

theorem get_update (t : Outbox) (chosen : OutboxEvent → Bool) (f : OutboxEvent → OutboxEvent)
    (keeps : ∀ row, (f row).toOutboxContent = row.toOutboxContent) (id : UUID) :
    (t.update chosen f keeps).get id = (t.get id).map fun row => if chosen row then f row else row :=
  t.get_mapRows _ _ id

theorem mem_selected {t : Outbox} {now : Instant} {limit : Nat} {locked : UUID → Bool} {row : OutboxEvent}
    (member : row ∈ t.selected now limit locked) : t.get row.id = some row ∧ row.claimable now = true := by
  have sorted := List.mem_of_mem_take member
  rw [List.mem_insertionSort, List.mem_filter, Bool.and_eq_true] at sorted
  exact ⟨Table.mem_rows_iff.mp sorted.1, sorted.2.1⟩

theorem selected_nodup (t : Outbox) (now : Instant) (limit : Nat) (locked : UUID → Bool) :
    ((t.selected now limit locked).map (·.id)).Nodup := by
  have filtered : ((t.rows.filter fun row => row.claimable now && !locked row.id).map (·.id)).Nodup :=
    t.unique.sublist (List.filter_sublist.map _)
  have sorted := ((List.perm_insertionSort (fun first second : OutboxEvent => first.createdAt ≤ second.createdAt)
    _).map (·.id)).nodup_iff.mpr filtered
  exact sorted.sublist ((List.take_sublist ..).map _)

end Outbox

structure OutboxSettings where
  outboxBatchSize : Nat
  outboxMaxAttempts : Nat
  outboxRetryBaseSeconds : Rat
  outboxClaimLeaseSeconds : Rat
  outboxRetentionHours : Nat
  topicPrefix : String
  batch_pos : 1 ≤ outboxBatchSize
  attempts_pos : 1 ≤ outboxMaxAttempts
  base_pos : 0 < outboxRetryBaseSeconds
  lease_pos : 0 < outboxClaimLeaseSeconds
  retention_pos : 1 ≤ outboxRetentionHours

namespace OutboxSettings

def topicFor (settings : OutboxSettings) (eventType : String) : String :=
  let parts := eventType.splitOn "."
  if parts.length < 3 then settings.topicPrefix ++ "." ++ eventType else ".".intercalate (parts.take 2)

def maxRetryDelaySeconds : Rat := 300

/-- Exponential, bounded backoff after a publication failure. -/
def nextAttemptAt (settings : OutboxSettings) (now : Instant) (event : OutboxEvent) : Instant :=
  let attempt := min (event.attemptCount + 1) settings.outboxMaxAttempts
  let delay := min (settings.outboxRetryBaseSeconds * 2 ^ (attempt - 1)) maxRetryDelaySeconds
  now + RetryPolicy.microseconds delay

def leaseUntil (settings : OutboxSettings) (now : Instant) : Instant :=
  now + RetryPolicy.microseconds settings.outboxClaimLeaseSeconds

end OutboxSettings

/-- How far the publication of a claimed batch has come: each event was
published, failed, or is still to be tried. -/
structure Publication where
  events : List OutboxEvent
  published : List OutboxEvent
  failures : List (OutboxEvent × String)
  rest : List OutboxEvent
  covers : (published ++ failures.map Prod.fst ++ rest).Perm events

namespace Publication

/-- The batch went through as a whole. -/
def all (events : List OutboxEvent) : Publication where
  events := events
  published := events
  failures := []
  rest := []
  covers := by simp

/-- Before the first of the events is tried on its own. -/
def oneByOne (events : List OutboxEvent) : Publication where
  events := events
  published := []
  failures := []
  rest := events
  covers := by simp

/-- The next event went through. -/
def accept (p : Publication) : Publication :=
  match remaining : p.rest with
  | [] => p
  | event :: rest => { p with
      published := p.published ++ [event], rest := rest
      covers := by
        refine List.Perm.trans ?_ (remaining ▸ p.covers)
        rw [List.append_assoc, List.append_assoc, List.append_assoc]
        have moved : (event :: (p.failures.map Prod.fst ++ rest)).Perm (p.failures.map Prod.fst ++ event :: rest) :=
          List.perm_middle.symm
        exact moved.append_left _ }

/-- The next event did not go through. -/
def refuse (p : Publication) (reason : String) : Publication :=
  match remaining : p.rest with
  | [] => p
  | event :: rest => { p with
      failures := p.failures ++ [(event, reason)], rest := rest
      covers := by
        refine List.Perm.trans ?_ (remaining ▸ p.covers)
        simp }

end Publication

/-- The two places that call `publish_batch`: with the whole batch, and with
the next event alone. -/
inductive PublishCall where
  | batch (events : List OutboxEvent)
  | single (progress : Publication)

namespace PublishCall

def envelopes : PublishCall → List OutboxEvent
  | .batch events => events
  | .single p => p.rest.take 1

def events : PublishCall → List OutboxEvent
  | .batch events => events
  | .single p => p.events

def published : PublishCall → List OutboxEvent
  | .batch _ => []
  | .single p => p.published

def failures : PublishCall → List (OutboxEvent × String)
  | .batch _ => []
  | .single p => p.failures

/-- `publish_batch` returned. -/
def returned : PublishCall → Publication
  | .batch events => .all events
  | .single p => p.accept

/-- `publish_batch` raised an `EventPublicationError`. -/
def refused : PublishCall → String → Publication
  | .batch events, _ => .oneByOne events
  | .single p, reason => p.refuse reason

end PublishCall

/-- The units of work of the publisher, of the redrive command, and of the
rest of the system, which stages rows while the clock goes on. -/
inductive OutboxFrame where
  | wait (clock : Instant)
  | stage (content : OutboxContent)
  | redrive (ids : List UUID)
  | runOnce
  | claim (now : Instant)
  | purge
  | publishBatch (caller : PublishCall)
  | handOver (caller : PublishCall) (sent : Nat)
  | awaitAcks (caller : PublishCall) (acked : Nat)
  | settle (p : Publication)

structure KafkaRecord where
  topic : String
  key : String
  value : EventEnvelope

/-- What is known of the broker about a row: a record was handed over for it,
the broker acknowledged one, or its publication was given up with an error. -/
inductive BrokerEvent where
  | handedOver (row : UUID) (record : KafkaRecord)
  | acknowledged (row : UUID) (eventId : UUID)
  | failed (row : UUID)

/-- What the broker does with a record: a `KafkaError` is raised while its
acknowledgement is awaited, or something is raised that nobody translates. -/
inductive Delivery where
  | accepted
  | rejected (error : String)
  | raised
  deriving DecidableEq

structure OutboxInput where
  started : Bool := true
  broker : OutboxEvent → Delivery := fun _ => .accepted
  locked : UUID → Bool := fun _ => false

inductive OutboxExn where
  | integrity
  | kafka

/-- The table, the clock all processes read, what happened at the broker, and
every content that was ever staged. -/
structure OutboxState where
  outbox : Outbox := .empty
  clock : Instant
  log : List BrokerEvent := []
  staged : List OutboxContent := []

namespace OutboxState

def logs (s : OutboxState) (event : BrokerEvent) : OutboxState := { s with log := s.log ++ [event] }

end OutboxState

/-- `_publish` goes on with the next event, or is done. -/
def Publication.next (p : Publication) : OutboxFrame :=
  if p.rest = [] then .settle p else .publishBatch (.single p)

namespace PublishCall

/-- What a failed call leaves in the log: the event that it was about. -/
def failedEvents : PublishCall → List BrokerEvent
  | .batch _ => []
  | .single p => (p.rest.take 1).map fun event => .failed event.id

/-- The caller catches the `EventPublicationError`. -/
def catches (caller : PublishCall) (reason : String) (s : OutboxState) : OutboxState × List OutboxFrame :=
  ({ s with log := s.log ++ caller.failedEvents }, [(caller.refused reason).next])

end PublishCall

namespace OutboxFrame

def settleFailure (settings : OutboxSettings) (now : Instant) (t : Outbox) (failure : OutboxEvent × String) : Outbox :=
  if settings.outboxMaxAttempts ≤ failure.1.attemptCount + 1 then t.markDeadLettered failure.1.id failure.2 now
  else t.markFailed failure.1.id failure.2 (settings.nextAttemptAt now failure.1)

/-- The transaction that records the outcome of a batch. -/
def settled (settings : OutboxSettings) (now : Instant) (p : Publication) (t : Outbox) : Outbox :=
  p.failures.foldl (settleFailure settings now) (t.markPublished (p.published.map (·.id)) now)

def hand (settings : OutboxSettings) (event : OutboxEvent) : KafkaRecord where
  topic := settings.topicFor event.eventType
  key := event.aggregateId
  value := event.toEnvelope

def exec (settings : OutboxSettings) (frame : OutboxFrame) (input : OutboxInput) (s : OutboxState) :
    Except OutboxExn (OutboxState × List OutboxFrame) :=
  match frame with
  | .wait clock => .ok ({ s with clock := max s.clock clock }, [])
  | .stage content =>
    if content.id ∈ s.staged.map (·.id) then .error .integrity
    else .ok ({ s with outbox := s.outbox.put { content with }, staged := s.staged ++ [content] }, [])
  | .redrive ids => .ok ({ s with outbox := s.outbox.redriveDeadLettered ids s.clock }, [])
  | .runOnce => .ok (s, [.claim s.clock])
  | .claim now =>
    -- The clock was read before the transaction began.
    let (outbox, events) :=
      s.outbox.claimUnpublished now settings.outboxBatchSize (settings.leaseUntil now) input.locked
    .ok ({ s with outbox := outbox }, [if events = [] then .purge else .publishBatch (.batch events)])
  | .purge =>
    let cutoff := s.clock - settings.outboxRetentionHours * 3600000000
    .ok ({ s with outbox := s.outbox.purgePublishedBefore cutoff }, [])
  | .publishBatch caller =>
    if caller.envelopes = [] then .ok (s, [caller.returned.next])
    else if input.started then .ok (s, [.handOver caller 0])
    else .ok (caller.catches "the kafka producer has not been started" s)
  | .handOver caller sent =>
    match caller.envelopes[sent]? with
    | none => .ok (s, [.awaitAcks caller 0])
    | some event =>
      -- Nothing is translated while the records are handed over.
      if input.broker event = .raised then .error .kafka
      else .ok (s.logs (.handedOver event.id (hand settings event)), [.handOver caller (sent + 1)])
  | .awaitAcks caller acked =>
    match caller.envelopes[acked]? with
    | none => .ok (s, [caller.returned.next])
    | some event =>
      match input.broker event with
      | .accepted => .ok (s.logs (.acknowledged event.id event.eventId), [.awaitAcks caller (acked + 1)])
      | .rejected error => .ok (caller.catches ("kafka rejected the publication: " ++ error) s)
      | .raised => .error .kafka
  | .settle p => .ok ({ s with outbox := settled settings s.clock p s.outbox }, [])

def isEntry : OutboxFrame → Bool
  | .wait _ | .stage _ | .redrive _ | .runOnce => true
  | _ => false

end OutboxFrame

/-- Any number of replicas next to everything else that writes the outbox. An
exception that leaves `run_once` ends the run; the worker's loop logs it. -/
def publisher (settings : OutboxSettings) : TaskPool.Program OutboxState OutboxFrame OutboxInput OutboxExn where
  exec := OutboxFrame.exec settings
  entry := OutboxFrame.isEntry
  catches := fun _ => false

namespace Publisher

abbrev Config := TaskPool.Config OutboxState OutboxFrame
abbrev Action := TaskPool.Action OutboxFrame OutboxInput

/-- The runs from an empty outbox whose every action is allowed. -/
def ReachableUnder (settings : OutboxSettings) (allowed : Config → Action → Prop) (c : Config) : Prop :=
  ∃ clock, (publisher settings).Reach allowed { state := { clock := clock }, tasks := [] } c

abbrev Reachable (settings : OutboxSettings) : Config → Prop := ReachableUnder settings fun _ _ => True

theorem reachableUnder_replay (settings : OutboxSettings) (allowed : Config → Action → Prop)
    [∀ c a, Decidable (allowed c a)] (actions : List Action) (test : Config → Prop)
    (passes : ∃ c, (publisher settings).replay (fun c a => decide (allowed c a))
      { state := { clock := 0 }, tasks := [] } actions = some c ∧ test c) :
    ∃ c, ReachableUnder settings allowed c ∧ test c := by
  obtain ⟨c, replayed, passed⟩ := passes
  exact ⟨c, ⟨0, .of_replay (fun _ _ ok => of_decide_eq_true ok) replayed⟩, passed⟩

/-! ### The defaults -/

def Sample.outbox : OutboxSettings where
  outboxBatchSize := 100
  outboxMaxAttempts := 10
  outboxRetryBaseSeconds := 2
  outboxClaimLeaseSeconds := 60
  outboxRetentionHours := 168
  topicPrefix := "integration"
  batch_pos := by decide
  attempts_pos := by decide
  base_pos := by decide +kernel
  lease_pos := by decide +kernel
  retention_pos := by decide

theorem Sample.firstVersion_pos : (1 : Int) ≤ 1 := le_rfl

def Sample.content (id : UUID) : OutboxContent where
  id := id
  eventId := 100 + id
  eventType := "integration.request.received.v1"
  eventVersion := 1
  aggregateType := "integration_request"
  aggregateId := "1"
  payload := []
  correlationId := "correlation-1"
  createdAt := 0
  version_pos := Sample.firstVersion_pos

end Publisher

end IntegrationOrchestrator
