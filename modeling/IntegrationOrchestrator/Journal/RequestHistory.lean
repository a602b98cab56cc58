import IntegrationOrchestrator.Creation.Projection
import IntegrationOrchestrator.Domain.Events
import IntegrationOrchestrator.System.Journal

namespace IntegrationOrchestrator

variable {settings : Settings} {s s' : State} {frame : Frame} {q : IntegrationRequest}
  {row : RequestRecord} {rows more : List RequestRecord} {c : Config} {requestId : UUID} {times : List Instant}
  {readings : WorkflowOrchestrator.Readings}

/-- The part of an outbox event that tells which change it announces. -/
structure RequestEvent where
  aggregateId : UUID
  eventType : String
  status : RequestStatus
  previousStatus : Option RequestStatus
  createdAt : Instant
  deriving DecidableEq

/-- The outbox row written beside an audit row. -/
def RequestRecord.event (row : RequestRecord) : RequestEvent :=
  { aggregateId := row.requestId, eventType := eventTypeForStatus row.new, status := row.new
    previousStatus := row.previous, createdAt := row.occurredAt }

namespace Database

/-- The audit rows of a request that record a status change, in commit order. -/
def statusChanges (db : Database) (requestId : UUID) : List RequestRecord :=
  db.requestRecords.filter fun row => row.requestId = requestId && row.changes

/-- Every outbox event ever written about a request. The outbox keeps an event
until it was published. -/
def requestEvents (db : Database) (requestId : UUID) : List RequestEvent :=
  (db.requestRecords.filter fun row => row.requestId = requestId && row.published).map RequestRecord.event

/-- The history of a request is a path from `received` to its status, and the
outbox announced its creation and every change but the one to `validating`. -/
def FaithfulHistory (db : Database) (q : IntegrationRequest) : Prop :=
  ∃ birth links, db.statusChanges q.id = birth :: links ∧ birth.previous = none ∧ birth.new = .received ∧
    RequestPath .received links q.status ∧
    db.requestEvents q.id = (birth :: links.filter (·.new ≠ .validating)).map RequestRecord.event

end Database

/-- The rows about every stored request tell its life, and no row is about
anything else. -/
structure State.Chronicled (s : State) : Prop where
  announced : ∀ row ∈ s.db.requestRecords, row.Announced
  stored : ∀ row ∈ s.db.requestRecords, row.changes = true → ∃ q, s.db.requests.get row.requestId = some q
  path : ∀ requestId q, s.db.requests.get requestId = some q → ∃ birth links,
    s.db.statusChanges requestId = birth :: links ∧ birth.previous = none ∧ birth.new = .received ∧
      RequestPath .received links q.status

/-- The status changes among the rows of one transaction. -/
def changesOf (requestId : UUID) (rows : List RequestRecord) : List RequestRecord :=
  rows.filter fun row => row.requestId = requestId && row.changes

theorem statusChanges_append (records : s'.db.requestRecords = s.db.requestRecords ++ rows) :
    s'.db.statusChanges requestId = s.db.statusChanges requestId ++ changesOf requestId rows := by
  simp only [Database.statusChanges, changesOf, records, List.filter_append]

theorem changesOf_silent (silent : ∀ row ∈ rows, row.changes = false) : changesOf requestId rows = [] := by
  refine List.filter_eq_nil_iff.mpr fun row member => ?_
  simp [silent row member]

theorem changesOf_same (about : ∀ row ∈ rows, row.requestId = requestId) :
    changesOf requestId rows = rows.filter (·.changes) := by
  refine List.filter_congr fun row member => ?_
  simp [about row member]

theorem changesOf_other (about : ∀ row ∈ rows, row.requestId = q.id) (other : requestId ≠ q.id) :
    changesOf requestId rows = [] := by
  refine List.filter_eq_nil_iff.mpr fun row member => ?_
  simp [about row member, other.symm]

theorem creationRecord_changes (q : IntegrationRequest) (actor : Actor) : (creationRecord q actor).changes = true := by
  simp [RequestRecord.changes, creationRecord]

namespace State.Chronicled

/-- No row is about a request that is not stored yet. -/
theorem unborn (held : s.Chronicled) (fresh : s.db.requests.get requestId = none) :
    s.db.statusChanges requestId = [] := by
  refine List.filter_eq_nil_iff.mpr fun row member => ?_
  simp only [Bool.and_eq_true, decide_eq_true_eq, not_and]
  rintro rfl changes
  obtain ⟨q, found⟩ := held.stored row member changes
  simp [fresh] at found

theorem noted (held : s.Chronicled) (requests : s'.db.requests = s.db.requests)
    (records : s'.db.requestRecords = s.db.requestRecords ++ rows)
    (silent : ∀ row ∈ rows, row.changes = false ∧ row.Announced) : s'.Chronicled where
  announced := by
    rw [records]
    exact List.forall_mem_append.mpr ⟨held.announced, fun row member => (silent row member).2⟩
  stored := by
    rw [records, requests]
    refine List.forall_mem_append.mpr ⟨held.stored, fun row member changes => ?_⟩
    simp [(silent row member).1] at changes
  path := by
    intro requestId q found
    rw [statusChanges_append records, changesOf_silent fun row member => (silent row member).1, List.append_nil]
    exact held.path requestId q (requests ▸ found)

theorem born {actor : Actor} (held : s.Chronicled) (fresh : s.db.requests.get q.id = none)
    (received : q.status = .received) (requests : s'.db.requests = s.db.requests.put q)
    (records : s'.db.requestRecords = s.db.requestRecords ++ creationRecord q actor :: rows)
    (silent : ∀ row ∈ rows, row.changes = false ∧ row.Announced) : s'.Chronicled where
  announced := by
    rw [records]
    refine List.forall_mem_append.mpr ⟨held.announced, List.forall_mem_cons.mpr ⟨?_, ?_⟩⟩
    · rw [RequestRecord.Announced, creationRecord_changes]
      simp [creationRecord, received]
    · exact fun row member => (silent row member).2
  stored := by
    rw [records, requests]
    refine List.forall_mem_append.mpr ⟨fun row member changes => ?_, List.forall_mem_cons.mpr ⟨fun _ => ?_, ?_⟩⟩
    · obtain ⟨old, found⟩ := held.stored row member changes
      rw [Table.get_put]
      split
      · exact ⟨q, rfl⟩
      · exact ⟨old, found⟩
    · exact ⟨q, Table.get_put_self _ _⟩
    · intro row member changes
      simp [(silent row member).1] at changes
  path := by
    intro requestId other found
    have later : changesOf requestId rows = [] := changesOf_silent fun row member => (silent row member).1
    have about : (creationRecord q actor).requestId = q.id := rfl
    rw [requests, Table.get_put] at found
    rw [statusChanges_append records]
    unfold changesOf at later ⊢
    by_cases same : requestId = q.id
    · rw [if_pos same] at found
      cases found
      subst same
      rw [held.unborn fresh, List.filter_cons_of_pos (by simp [about, creationRecord_changes]), later]
      exact ⟨creationRecord q actor, [], rfl, rfl, received, received.symm⟩
    · rw [if_neg same] at found
      rw [List.filter_cons_of_neg (by simp [about, Ne.symm same]), later, List.append_nil]
      exact held.path requestId other found

theorem wrote {q' : IntegrationRequest} (held : s.Chronicled) (stored : s.db.requests.get q.id = some q)
    (journals : Journals times q q' rows) (requests : s'.db.requests = s.db.requests.put q')
    (records : s'.db.requestRecords = s.db.requestRecords ++ rows) : s'.Chronicled where
  announced := by
    rw [records]
    exact List.forall_mem_append.mpr ⟨held.announced, journals.announced⟩
  stored := by
    rw [records, requests]
    have present : ∀ requestId old, s.db.requests.get requestId = some old →
        ∃ q, (s.db.requests.put q').get requestId = some q := by
      intro requestId old found
      rw [Table.get_put]
      split
      · exact ⟨q', rfl⟩
      · exact ⟨old, found⟩
    refine List.forall_mem_append.mpr ⟨fun row member changes => ?_, fun row member changes => ?_⟩
    · obtain ⟨old, found⟩ := held.stored row member changes
      exact present _ _ found
    · rw [journals.about row member]
      exact present _ _ stored
  path := by
    intro requestId other found
    rw [requests, Table.get_put, journals.id] at found
    rw [statusChanges_append records]
    by_cases same : requestId = q.id
    · rw [if_pos same] at found
      cases found
      subst same
      obtain ⟨birth, links, changes, first, new, path⟩ := held.path _ q stored
      rw [changes, changesOf_same journals.about]
      exact ⟨birth, links ++ rows.filter (·.changes), rfl, first, new, path.append journals.path⟩
    · rw [if_neg same] at found
      rw [changesOf_other journals.about same, List.append_nil]
      exact held.path requestId other found

theorem keep (held : s.Chronicled) (journaled : Journaled readings frame s s') : s'.Chronicled := by
  cases journaled with
  | noted requests records silent => exact held.noted requests records silent
  | born fresh received _ _ _ requests records silent => exact held.born fresh received requests records silent
  | wrote stored journals _ requests records => exact held.wrote stored journals requests records

/-- The outbox events are those of the status changes, `validating` apart. -/
theorem events (held : s.Chronicled) (requestId : UUID) : s.db.requestEvents requestId =
    ((s.db.statusChanges requestId).filter (·.new ≠ .validating)).map RequestRecord.event := by
  unfold Database.requestEvents Database.statusChanges
  rw [List.filter_filter]
  congr 1
  refine List.filter_congr fun row member => ?_
  rw [held.announced row member]
  cases row.changes <;> cases decide (row.requestId = requestId) <;> cases decide (row.new ≠ .validating) <;> rfl

theorem faithful (held : s.Chronicled) (found : s.db.requests.get q.id = some q) : s.db.FaithfulHistory q := by
  obtain ⟨birth, links, changes, first, new, path⟩ := held.path q.id q found
  refine ⟨birth, links, changes, first, new, path, ?_⟩
  rw [held.events, changes, List.filter_cons_of_pos (by simp [new])]

end State.Chronicled

theorem reachable_chronicled (reach : Reachable settings c) : c.state.Chronicled := by
  refine reach.state_invariant State.Chronicled ?_ ?_
  · exact ⟨by simp [Config.initial], by simp [Config.initial], by simp [Config.initial]⟩
  · intro c task input frame rest state pushed _ held _ atTask ran
    exact held.keep (Frame.journaled ran)

/-- At every committed state of every run, whoever creates, dispatches,
retries, cancels, reconciles or reports, the history of every stored request
is faithful. -/
theorem request_history_faithful {settings : CreationSettings} {c : CreationConfig}
    (reach : CreationReachable settings c) :
    ∀ q ∈ c.state.core.db.requests.rows, c.state.core.db.FaithfulHistory q := by
  intro q member
  obtain ⟨c', reached, same⟩ := reach.core
  have held := reachable_chronicled reached
  rw [same] at held
  exact held.faithful (Table.mem_rows_iff.mp member)

/-- The first attempt times out and the retry worker's succeeds. -/
def Sample.createdAndRetried : List CreationAction :=
  created ++ creationWork 0 2 0 2 ++ .run 0 (input 3 0 (.lost .timeout)) :: creationWork 0 4 0 2 ++
    .spawn (.core (.claimRetry 200)) :: creationWork 1 100000000 0 1 ++
    .run 1 (input 100000000 0 (answered .succeeded "op-1")) :: creationWork 1 100000000 0 1

theorem request_history_faithful_retried :
    ∃ c q, CreationReachable Sample.creationSettings c ∧ c.state.core.db.requests.get 200 = some q ∧
      (c.state.core.db.statusChanges 200).map RequestRecord.new =
        [.received, .validating, .dispatching, .retryScheduled, .dispatching, .succeeded] ∧
      c.state.core.db.FaithfulHistory q := by
  obtain ⟨c, reach, found⟩ := creation_replay Sample.creationSettings Sample.createdAndRetried
    (fun c => (c.state.core.db.requests.get 200).isSome && (c.state.core.db.statusChanges 200).map RequestRecord.new =
      [.received, .validating, .dispatching, .retryScheduled, .dispatching, .succeeded]) (by decide +kernel)
  simp only [Bool.and_eq_true, decide_eq_true_eq, Option.isSome_iff_exists] at found
  obtain ⟨⟨q, stored⟩, changes⟩ := found
  exact ⟨c, q, reach, stored, changes, request_history_faithful reach q (Table.mem_of_get stored)⟩

end IntegrationOrchestrator
