import IntegrationOrchestrator.Api.Ownership
import IntegrationOrchestrator.Creation.Projection
import IntegrationOrchestrator.Saga.Links
import IntegrationOrchestrator.System.Journal
import IntegrationOrchestrator.System.Succession

namespace IntegrationOrchestrator

open TaskPool (spawning)

variable {settings : Settings} {s s' : State} {frame : Frame} {q : IntegrationRequest} {c : Config}
  {subject : String} {requestId executionId : UUID} {times : List Instant} {readings : WorkflowOrchestrator.Readings}

/-- Who an API call acts for. -/
def Principal.actor (principal : Principal) : Actor := { type := .apiClient, id := some principal.subject }

/-- The endpoints that take the id of a request. -/
inductive RequestCall where
  | read
  | retry
  | cancel (reason : Option String)

/-- The check all of them begin with. -/
def openRequest (enforce : Bool) (principal : Principal) (requestId : UUID) (s : State) :
    Except Exn IntegrationRequest := do
  let q ← s.request requestId
  assertOwnerAccess principal q.ownerSubject enforce "integration request"
  return q

/-- An endpoint hands the request out, or goes on to the use case. -/
def requestEndpoint (enforce : Bool) (principal : Principal) (requestId : UUID) (call : RequestCall) (s : State) :
    Except Exn (IntegrationRequest × List Frame) := do
  let q ← openRequest enforce principal requestId s
  match call with
  | .read => return (q, [])
  | .retry => return (q, [.retryRequest requestId principal.actor])
  | .cancel reason => return (q, [.cancelRequest requestId reason principal.actor])

namespace State

/-- The row about the creation of the request names the client. -/
def CreatedBy (s : State) (subject : String) (requestId : UUID) : Prop :=
  ∃ row ∈ s.db.requestRecords, row.requestId = requestId ∧ row.previous = none ∧
    row.actor = { type := .apiClient, id := some subject }

/-- The request was created for a step of the execution. -/
def CreatedFor (s : State) (requestId executionId : UUID) : Prop :=
  ∃ role stepId, Event.created role executionId stepId requestId ∈ s.history

/-- The row about the start of the execution names the client. -/
def StartedBy (s : State) (subject : String) (executionId : UUID) : Prop :=
  ∃ row ∈ s.db.workflowRecords, row.executionId = executionId ∧ row.action = .workflowStarted ∧
    row.actor = { type := .apiClient, id := some subject }

/-- The client's own requests: those it created, and those created on behalf
of an execution it started. -/
def OwnWork (s : State) (subject : String) (requestId : UUID) : Prop :=
  s.CreatedBy subject requestId ∨ ∃ executionId, s.CreatedFor requestId executionId ∧ s.StartedBy subject executionId

end State

/-- A command to create or start something comes from an authenticated
client. -/
def Frame.FromClient : Frame → Prop
  | .createRequest command => ∃ subject, command.actor = { type := .apiClient, id := some subject }
  | .startWorkflow command | .createExecution command =>
    ∃ subject, command.actor = { type := .apiClient, id := some subject }
  | _ => True

/-- The owner of a stored request is the client that created it, and the
requests of workflow steps have none. -/
structure State.Owned (s : State) : Prop where
  origin : ∀ requestId q, s.db.requests.get requestId = some q →
    (∃ subject, q.ownerSubject = some subject ∧ s.CreatedBy subject requestId) ∨
      (q.ownerSubject = none ∧ ∃ executionId, s.CreatedFor requestId executionId)
  created : ∀ subject requestId, s.CreatedBy subject requestId →
    ∃ q, s.db.requests.get requestId = some q ∧ q.ownerSubject = some subject
  steps : ∀ requestId executionId, s.CreatedFor requestId executionId →
    ∃ q, s.db.requests.get requestId = some q ∧ q.ownerSubject = none

theorem Journals.previous {q' : IntegrationRequest} {rows : List RequestRecord} (journals : Journals times q q' rows) :
    ∀ row ∈ rows, row.previous ≠ none := by
  intro row member none
  cases changes : row.changes with
  | false => simp [RequestRecord.changes, none] at changes
  | true =>
    obtain ⟨status, some⟩ := journals.path.starts (List.mem_filter.mpr ⟨member, changes⟩)
    simp [none] at some

theorem silent_previous {row : RequestRecord} (silent : row.changes = false) : row.previous ≠ none := by
  intro none
  simp [RequestRecord.changes, none] at silent

namespace State.Owned

/-- Rows about later events leave the creations as they are. -/
theorem later {rows : List RequestRecord} (records : s'.db.requestRecords = s.db.requestRecords ++ rows)
    (later : ∀ row ∈ rows, row.previous ≠ none) : s'.CreatedBy subject requestId ↔ s.CreatedBy subject requestId := by
  simp only [State.CreatedBy, records, List.mem_append]
  constructor
  · rintro ⟨row, before | after, about, first, actor⟩
    · exact ⟨row, before, about, first, actor⟩
    · exact absurd first (later row after)
  · rintro ⟨row, before, rest⟩
    exact ⟨row, Or.inl before, rest⟩

theorem sameSteps (same : s.SameCreations s') :
    s'.CreatedFor requestId executionId ↔ s.CreatedFor requestId executionId := by
  simp only [State.CreatedFor, same _ _ _ _]

/-- Replacing a row by one with the same owner. -/
theorem wrote {q' : IntegrationRequest} {rows : List RequestRecord} (held : s.Owned)
    (stored : s.db.requests.get q.id = some q) (journals : Journals times q q' rows)
    (requests : s'.db.requests = s.db.requests.put q') (records : s'.db.requestRecords = s.db.requestRecords ++ rows)
    (same : s.SameCreations s') : s'.Owned := by
  have owner : ∀ requestId old, s.db.requests.get requestId = some old →
      ∃ new, s'.db.requests.get requestId = some new ∧ new.ownerSubject = old.ownerSubject := by
    intro requestId old found
    rw [requests, Table.get_put, journals.id]
    split
    · rename_i here
      subst here
      cases stored.symm.trans found
      exact ⟨q', rfl, journals.owner⟩
    · exact ⟨old, found, rfl⟩
  refine ⟨fun requestId new found => ?_, fun subject requestId made => ?_, fun requestId executionId made => ?_⟩
  · have before : ∃ old, s.db.requests.get requestId = some old ∧ new.ownerSubject = old.ownerSubject := by
      rw [requests, Table.get_put, journals.id] at found
      split at found
      · rename_i here
        subst here
        cases found
        exact ⟨q, stored, journals.owner⟩
      · exact ⟨new, found, rfl⟩
    obtain ⟨old, there, sameOwner⟩ := before
    simp only [sameOwner, later records journals.previous, sameSteps same]
    exact held.origin requestId old there
  · obtain ⟨old, there, owned⟩ := held.created subject requestId ((later records journals.previous).mp made)
    obtain ⟨new, here, sameOwner⟩ := owner requestId old there
    exact ⟨new, here, sameOwner.trans owned⟩
  · obtain ⟨old, there, owned⟩ := held.steps requestId executionId ((sameSteps same).mp made)
    obtain ⟨new, here, sameOwner⟩ := owner requestId old there
    exact ⟨new, here, sameOwner.trans owned⟩

/-- Inserting a row with the row about its creation. -/
theorem born {actor : Actor} {rows : List RequestRecord} (held : s.Owned) (fresh : s.db.requests.get q.id = none)
    (origin : Born frame s s' q actor) (client : frame.FromClient) (requests : s'.db.requests = s.db.requests.put q)
    (records : s'.db.requestRecords = s.db.requestRecords ++ creationRecord q actor :: rows)
    (silent : ∀ row ∈ rows, row.changes = false ∧ row.Announced) : s'.Owned := by
  have old : ∀ requestId row, s.db.requests.get requestId = some row → requestId ≠ q.id := by
    rintro requestId row found rfl
    simp [fresh] at found
  have kept : ∀ requestId row, s.db.requests.get requestId = some row → s'.db.requests.get requestId = some row := by
    intro requestId row found
    rw [requests, Table.get_put, if_neg (old requestId row found), found]
  have here : s'.db.requests.get q.id = some q := by rw [requests, Table.get_put_self]
  have made : ∀ subject requestId, s'.CreatedBy subject requestId ↔ s.CreatedBy subject requestId ∨
      (requestId = q.id ∧ actor = { type := .apiClient, id := some subject }) := by
    intro subject requestId
    simp only [State.CreatedBy, records, List.mem_append, List.mem_cons]
    constructor
    · rintro ⟨row, before | rfl | after, about, first, named⟩
      · exact Or.inl ⟨row, before, about, first, named⟩
      · exact Or.inr ⟨about.symm, named⟩
      · exact absurd first (silent_previous (silent row after).1)
    · rintro (⟨row, before, rest⟩ | ⟨rfl, rfl⟩)
      · exact ⟨row, Or.inl before, rest⟩
      · exact ⟨creationRecord q _, Or.inr (Or.inl rfl), rfl, rfl, rfl⟩
  have cases : (∃ subject, q.ownerSubject = some subject ∧ actor = { type := .apiClient, id := some subject } ∧
        s'.history = s.history) ∨
      (q.ownerSubject = none ∧ actor = WorkflowOrchestrator.workflowActor ∧ ∃ role executionId stepId,
        s'.history = s.history ++ [.created role executionId stepId q.id]) := by
    cases origin with
    | api frame owner history =>
      subst frame
      obtain ⟨subject, named⟩ := client
      exact Or.inl ⟨subject, by rw [owner, named], named, history⟩
    | step owner history => exact Or.inr ⟨owner, rfl, _, _, _, history⟩
  have steps : ∀ requestId executionId, s.CreatedFor requestId executionId → s'.CreatedFor requestId executionId := by
    rintro requestId executionId ⟨role, stepId, event⟩
    rcases cases with ⟨_, _, _, history⟩ | ⟨_, _, _, _, _, history⟩
    · exact ⟨role, stepId, history ▸ event⟩
    · exact ⟨role, stepId, history ▸ List.mem_append_left _ event⟩
  refine ⟨fun requestId row found => ?_, fun subject requestId creation => ?_, fun requestId executionId creation => ?_⟩
  · rw [requests, Table.get_put] at found
    split at found
    · rename_i same
      subst same
      cases found
      rcases cases with ⟨subject, owner, named, _⟩ | ⟨owner, _, role, executionId, stepId, history⟩
      · exact Or.inl ⟨subject, owner, (made subject q.id).mpr (Or.inr ⟨rfl, named⟩)⟩
      · exact Or.inr ⟨owner, executionId, role, stepId, by simp [history]⟩
    · rcases held.origin requestId row found with ⟨subject, owner, creation⟩ | ⟨owner, executionId, creation⟩
      · exact Or.inl ⟨subject, owner, (made subject requestId).mpr (Or.inl creation)⟩
      · exact Or.inr ⟨owner, executionId, steps requestId executionId creation⟩
  · rcases (made subject requestId).mp creation with before | ⟨rfl, named⟩
    · obtain ⟨row, found, owner⟩ := held.created subject requestId before
      exact ⟨row, kept requestId row found, owner⟩
    · rcases cases with ⟨subject', owner, named', _⟩ | ⟨_, worker, _⟩
      · rw [named] at named'
        cases named'
        exact ⟨q, here, owner⟩
      · rw [named] at worker
        cases worker
  · obtain ⟨role, stepId, event⟩ := creation
    have before : Event.created role executionId stepId requestId ∈ s.history →
        ∃ row, s'.db.requests.get requestId = some row ∧ row.ownerSubject = none := by
      intro event
      obtain ⟨row, found, owner⟩ := held.steps requestId executionId ⟨role, stepId, event⟩
      exact ⟨row, kept requestId row found, owner⟩
    rcases cases with ⟨_, _, _, history⟩ | ⟨owner, _, _, _, _, history⟩
    · exact before (history ▸ event)
    · rw [history] at event
      rcases List.mem_append.mp event with earlier | last
      · exact before earlier
      · cases List.mem_singleton.mp last
        exact ⟨q, here, owner⟩

theorem keep (held : s.Owned) (journaled : Journaled readings frame s s') (client : frame.FromClient) : s'.Owned := by
  cases journaled with
  | @noted rows requests records silent same =>
    have later' := fun row member => silent_previous (silent row member).1
    refine ⟨fun requestId q found => ?_, fun subject requestId made => ?_, fun requestId executionId made => ?_⟩
    · simp only [later records later', sameSteps same]
      exact held.origin requestId q (requests ▸ found)
    · rw [requests]
      exact held.created subject requestId ((later records later').mp made)
    · rw [requests]
      exact held.steps requestId executionId ((sameSteps same).mp made)
  | born fresh _ _ _ origin requests records silent => exact held.born fresh origin client requests records silent
  | wrote stored journals _ requests records same => exact held.wrote stored journals requests records same

end State.Owned

/-- The runs in which clients are authenticated. -/
theorem reachable_owned (reach : ReachableUnder settings (spawning Frame.FromClient) c) : c.state.Owned := by
  refine (reach.pool_invariant_entering State.Owned (fun _ => Frame.FromClient) ⟨?_, ?_⟩ ?_ ?_).1
  · refine ⟨by simp [Config.initial], ?_, ?_⟩
    · rintro subject requestId ⟨row, member, _⟩
      cases member
    · rintro requestId executionId ⟨role, stepId, event⟩
      cases event
  · simp [Config.initial, TaskPool.Config.frames]
  · intro c frame _ client _
    exact client
  · intro c task input frame rest state pushed held clients _ atTask ran
    have client := clients frame (TaskPool.mem_frames_top atTask)
    refine ⟨held.keep (Frame.journaled ran) client, fun next member => ?_, fun _ _ client => client⟩
    cases creation : next.isCreation with
    | false => cases next <;> trivial
    | true =>
      obtain ⟨command, rfl, rfl⟩ := Frame.pushed_creation ran member creation
      exact client

theorem openRequest_ok_iff {principal : Principal} (client : principal.hasScope operationsAdmin = false)
    (stored : s.db.requests.get q.id = some q) : (∃ served, openRequest true principal q.id s = .ok served) ↔
      q.ownerSubject = none ∨ q.ownerSubject = some principal.subject := by
  have guard : assertOwnerAccess principal q.ownerSubject true "integration request" = .ok () ↔ _ :=
    assertOwnerAccess_ok_iff client
  rw [← guard]
  simp only [openRequest, State.request, stored, bind, Except.bind]
  cases assertOwnerAccess principal q.ownerSubject true "integration request" <;> simp [pure, Except.pure]

theorem requestEndpoint_ok_iff {enforce : Bool} {principal : Principal} {call : RequestCall} :
    (∃ served, requestEndpoint enforce principal requestId call s = .ok served) ↔
      ∃ served, openRequest enforce principal requestId s = .ok served := by
  unfold requestEndpoint
  cases openRequest enforce principal requestId s <;> cases call <;> simp [bind, Except.bind, pure, Except.pure]

/-- Over every run of clients and workers, a client that is no operator gets
at no request by its id but its own ones, exactly as far as the request was not
created for a step of an execution that someone else started. -/
theorem request_access_iff {settings : CreationSettings} {c : CreationConfig} (reach : (creationSystem settings).Reach
      (spawning (CreationFrame.Permitted Frame.FromClient)) CreationConfig.initial c)
    (stored : c.state.core.db.requests.get q.id = some q) (principal : Principal)
    (client : principal.hasScope operationsAdmin = false) (call : RequestCall) :
    ((∃ served, requestEndpoint true principal q.id call c.state.core = .ok served) →
      c.state.core.OwnWork principal.subject q.id) ↔
    ∀ executionId, c.state.core.CreatedFor q.id executionId → c.state.core.StartedBy principal.subject executionId := by
  have idle : (Frame.claimRetry 0).FromClient := trivial
  obtain ⟨c', reached, same⟩ := creation_projects idle rfl reach
  have owned := reachable_owned reached
  have once := (reachable_owns (reached.mono fun _ _ _ => trivial)).1
  rw [same] at owned once
  rw [requestEndpoint_ok_iff, openRequest_ok_iff client stored]
  constructor
  · intro guarded executionId madeFor
    obtain ⟨row, found, noOwner⟩ := owned.steps q.id executionId madeFor
    cases stored.symm.trans found
    rcases guarded (Or.inl noOwner) with created | ⟨other, madeForOther, started⟩
    · obtain ⟨row, found, owner⟩ := owned.created _ _ created
      cases stored.symm.trans found
      simp [noOwner] at owner
    · obtain ⟨role, stepId, event⟩ := madeFor
      obtain ⟨role', stepId', event'⟩ := madeForOther
      obtain ⟨rfl, _⟩ := once.once _ _ _ _ _ _ _ event event'
      exact started
  · intro own access
    rcases owned.origin q.id q stored with ⟨subject, owner, created⟩ | ⟨noOwner, executionId, madeFor⟩
    · rcases access with none | mine
      · simp [none] at owner
      · cases owner.symm.trans mine
        exact Or.inl created
    · exact Or.inr ⟨executionId, madeFor, own executionId madeFor⟩

/-- The runs of clients that only create requests and start workflows. -/
def clientSpawns (_ : CreationConfig) : CreationAction → Bool
  | .spawn (.create command) => command.actor.type = .apiClient && command.actor.id.isSome
  | .spawn (.core (.startWorkflow command)) => command.actor.type = .apiClient && command.actor.id.isSome
  | .spawn _ => false
  | .run _ _ => true

theorem clientSpawns_sound (c : CreationConfig) (a : CreationAction) (ok : clientSpawns c a = true) :
    spawning (CreationFrame.Permitted Frame.FromClient) c a := by
  have named : ∀ actor : Actor, (actor.type = .apiClient && actor.id.isSome) = true →
      ∃ subject, actor = { type := .apiClient, id := some subject } := by
    intro actor ok
    simp only [Bool.and_eq_true, decide_eq_true_eq, Option.isSome_iff_exists] at ok
    obtain ⟨type, subject, id⟩ := ok
    exact ⟨subject, by cases actor; simp_all⟩
  unfold clientSpawns at ok
  split at ok
  · exact named _ ok
  · exact named _ ok
  · cases ok
  · trivial

theorem client_replay (settings : CreationSettings) (actions : List CreationAction) (test : CreationConfig → Prop)
    (passes : ∃ c, (creationSystem settings).replay clientSpawns CreationConfig.initial actions = some c ∧ test c) :
    ∃ c, (creationSystem settings).Reach (spawning (CreationFrame.Permitted Frame.FromClient))
      CreationConfig.initial c ∧ test c :=
  TaskPool.Program.Reach.replayed clientSpawns_sound passes

namespace Sample

def client (subject : String) : Principal := { subject := subject, scopes := [] }

def orderBy (subject : String) : KeyedCommand := { first with actor := (client subject).actor }

def workflowBy (subject : String) : Frame :=
  .startWorkflow
    { definition := { id := 1, name := "sample", version := 1, createdAt := 0, steps := [stage "only" []] }
      inputPayload := [("size", .int 1)], correlationId := "sample", idempotencyKey := none
      actor := (client subject).actor, deadlineAt := none }

end Sample

/-- A client reads, retries or cancels the request it created. -/
theorem request_access_iff_creator : ∃ c q, (creationSystem Sample.creationSettings).Reach
      (spawning (CreationFrame.Permitted Frame.FromClient)) CreationConfig.initial c ∧
    c.state.core.db.requests.get 200 = some q ∧
    (∃ served, requestEndpoint true (Sample.client "client-a") 200 .read c.state.core = .ok served) ∧
    c.state.core.OwnWork "client-a" 200 := by
  obtain ⟨c, reach, ⟨q, stored, owner⟩, quiet⟩ := client_replay Sample.creationSettings
    (.spawn (.create (Sample.orderBy "client-a")) :: Sample.creationWork 0 1 200 5)
    (fun c => (∃ q, c.state.core.db.requests.get 200 = some q ∧ q.ownerSubject = some "client-a") ∧
      c.state.core.history = []) (by decide +kernel)
  have id : q.id = 200 := Table.get_key stored
  have here : c.state.core.db.requests.get q.id = some q := id ▸ stored
  have served : ∃ served, requestEndpoint true (Sample.client "client-a") q.id .read c.state.core = .ok served := by
    rw [requestEndpoint_ok_iff, openRequest_ok_iff rfl here]
    exact Or.inr owner
  have noSteps : ∀ executionId, c.state.core.CreatedFor q.id executionId →
      c.state.core.StartedBy "client-a" executionId := by
    rintro executionId ⟨_, _, event⟩
    simp [quiet] at event
  have own := (request_access_iff reach here (Sample.client "client-a") rfl .read).mpr noSteps served
  rw [id] at served own
  exact ⟨c, q, reach, stored, served, own⟩

/-- The request was created for a step of the execution. -/
def Sample.isStepCreation : Event → Bool
  | .created .forward 100 _ 200 => true
  | _ => false

theorem Sample.isStepCreation_iff {event : Event} (made : Sample.isStepCreation event = true) :
    ∃ stepId, event = .created .forward 100 stepId 200 := by
  unfold Sample.isStepCreation at made
  split at made
  · exact ⟨_, rfl⟩
  · cases made

/-- One client starts a workflow; another cancels the request of its step. -/
theorem step_request_open_to_everybody : ∃ c q, (creationSystem Sample.creationSettings).Reach
      (spawning (CreationFrame.Permitted Frame.FromClient)) CreationConfig.initial c ∧
    c.state.core.db.requests.get 200 = some q ∧ c.state.core.CreatedFor 200 100 ∧
    c.state.core.StartedBy "client-a" 100 ∧
    (∃ served, requestEndpoint true (Sample.client "client-b") 200 (.cancel none) c.state.core = .ok served) ∧
    ¬ c.state.core.OwnWork "client-b" 200 := by
  obtain ⟨c, reach, ⟨q, stored, noOwner⟩, ⟨event, member, made⟩, started, noRequest, noStart⟩ :=
    client_replay Sample.creationSettings
      (.spawn (.core (Sample.workflowBy "client-a")) :: Sample.creationWork 0 1 100 2 ++ Sample.creationWork 0 2 200 2)
      (fun c => (∃ q, c.state.core.db.requests.get 200 = some q ∧ q.ownerSubject = none) ∧
        (∃ event ∈ c.state.core.history, Sample.isStepCreation event = true) ∧
        (∃ row ∈ c.state.core.db.workflowRecords, row.executionId = 100 ∧ row.action = .workflowStarted ∧
          row.actor = (Sample.client "client-a").actor) ∧
        (∀ row ∈ c.state.core.db.requestRecords, row.actor ≠ (Sample.client "client-b").actor) ∧
        ∀ row ∈ c.state.core.db.workflowRecords, row.actor ≠ (Sample.client "client-b").actor) (by decide +kernel)
  have id : q.id = 200 := Table.get_key stored
  refine ⟨c, q, reach, stored, ?_, started, ?_, ?_⟩
  · obtain ⟨stepId, rfl⟩ := Sample.isStepCreation_iff made
    exact ⟨_, _, member⟩
  · rw [requestEndpoint_ok_iff, ← id, openRequest_ok_iff rfl (id ▸ stored)]
    exact Or.inl noOwner
  · rintro (⟨row, member, _, _, named⟩ | ⟨_, _, row, member, _, _, named⟩)
    · exact noRequest row member named
    · exact noStart row member named

end IntegrationOrchestrator
