import IntegrationOrchestrator.System.Program

namespace IntegrationOrchestrator

/-- A creation command that carries an idempotency key. -/
structure KeyedCommand extends CreateCommand where
  key : String

/-- The stored outcome of a previously handled creation request. -/
structure IdempotencyRecord where
  key : String
  fingerprint : String
  requestId : UUID
  responseStatus : Nat
  createdAt : Instant

def IdempotencyRecord.matches (record : IdempotencyRecord) (fingerprint : String) : Bool :=
  record.fingerprint = fingerprint

structure CreationSettings where
  core : Settings
  /-- `RequestFingerprint.of`. -/
  fingerprint : CreateCommand → String

/-- What the commands for a key did that the tables do not tell. -/
inductive CreationEvent where
  | dispatched (key : String) (requestId : UUID)
  | returned (key : String) (requestId : UUID) (replayed : Bool)
  deriving DecidableEq

/-- The orchestrator's database with the idempotency keys of the requests and
the idempotency records. `flushed` are the keys of the requests that open
transactions have inserted and not committed. -/
structure CreationState where
  core : State := {}
  keys : List (String × UUID) := []
  records : Table IdempotencyRecord.key := .empty
  flushed : List (String × UUID) := []
  log : List CreationEvent := []

/-- The units of work of keyed creation, beside those of the orchestrator.
One transaction reads, inserts the request, inserts the record and commits;
`abort` is the end of a transaction whose owner crashed or lost its
connection. -/
inductive CreationFrame where
  | core (frame : Frame)
  | create (command : KeyedCommand)
  | replayIfSeen (command : KeyedCommand)
  | flushRequest (command : KeyedCommand) (request : IntegrationRequest)
  | flushRecord (command : KeyedCommand) (request : IntegrationRequest)
  | commitCreation (command : KeyedCommand) (request : IntegrationRequest)
  | replayAfterRace (command : KeyedCommand)
  | startDispatch (command : KeyedCommand) (requestId : UUID)
  | returnCreated (key : String) (requestId : UUID)
  | abort (key : String) (requestId : UUID)

inductive CreationExn where
  | core (e : Exn)
  | idempotencyConflict (key : String)
  deriving DecidableEq

abbrev CreationStep := Except CreationExn (CreationState × List CreationFrame)

namespace CreationState

/-- The commit: the request with its key, its audit rows and the record. -/
def commit (s : CreationState) (command : KeyedCommand) (request : IntegrationRequest) (fingerprint : String)
    (db : Database) : CreationState :=
  { s with
    core := { s.core with db := db }
    keys := s.keys ++ [(command.key, request.id)]
    records := s.records.put
      { key := command.key, fingerprint := fingerprint, requestId := request.id, responseStatus := 201
        createdAt := request.createdAt }
    flushed := s.flushed.erase (command.key, request.id) }

def logged (s : CreationState) (event : CreationEvent) : CreationState := { s with log := s.log ++ [event] }

def rollback (s : CreationState) (key : String) (requestId : UUID) : CreationState :=
  { s with flushed := s.flushed.erase (key, requestId) }

end CreationState

namespace CreationFrame

open RequestDispatcher

variable (settings : CreationSettings)

/-- `_validate_provider_support`. -/
def execCreate (command : KeyedCommand) (s : CreationState) : CreationStep :=
  match settings.core.descriptor command.provider with
  | none => .error (.core (.providerNotConfigured command.provider.value))
  | some descriptor =>
    if command.operationType ∉ descriptor.supportedOperations then
      .error (.core (.unsupportedOperation ("provider '" ++ command.provider.value ++
        "' does not support the operation '" ++ command.operationType.value ++ "'")))
    else .ok (s, [.replayIfSeen command])

/-- `_replay_if_seen`: the result to replay, when the key was seen. -/
def replayed (command : KeyedCommand) (s : CreationState) : Except CreationExn (Option UUID) :=
  match s.records.get command.key with
  | none => .ok none
  | some record =>
    if ¬ record.matches (settings.fingerprint command.toCreateCommand) then
      .error (.idempotencyConflict command.key)
    else match s.core.db.requests.get record.requestId with
      | none => .error (.core (.notFound "the request referenced by this idempotency key no longer exists"))
      | some request => .ok (some request.id)

def execReplayIfSeen (command : KeyedCommand) (input : Input) (s : CreationState) : CreationStep :=
  match replayed settings command s with
  | .error e => .error e
  | .ok (some requestId) => .ok (s.logged (.returned command.key requestId true), [])
  | .ok none =>
    let request := IntegrationRequest.create (input.newId 0) command.provider command.operationType
      command.externalReference command.payload command.correlationId input.readings.now command.actor.id
    .ok (s, [.flushRequest command request])

/-- The insert of the request. It waits for an open transaction that inserted
the key or the id, and fails if a committed row has them. -/
def execFlushRequest (command : KeyedCommand) (request : IntegrationRequest) (s : CreationState) : CreationStep :=
  if (s.core.db.requests.get request.id).isSome ∨ command.key ∈ s.keys.map Prod.fst then
    .ok (s, [.replayAfterRace command])
  else if s.flushed.any (fun other => other.1 = command.key || other.2 = request.id) then
    .ok (s, [.flushRequest command request])
  else
    .ok ({ s with flushed := s.flushed ++ [(command.key, request.id)] }, [.flushRecord command request])

/-- The insert of the idempotency record. -/
def execFlushRecord (command : KeyedCommand) (request : IntegrationRequest) (s : CreationState) : CreationStep :=
  if (s.records.get command.key).isSome then
    .ok (s.rollback command.key request.id, [.replayAfterRace command])
  else .ok (s, [.commitCreation command request])

def execCommitCreation (command : KeyedCommand) (request : IntegrationRequest) (input : Input)
    (s : CreationState) : CreationStep :=
  if (command.key, request.id) ∉ s.flushed then .error (.core .unexpected)
  else match s.core.db.addRequest request with
    | .error e => .error (.core e)
    | .ok db =>
      let db := db.recordRequest [creationRecord request command.actor,
        actionRecord request .providerSelected { type := .system } input.readings.recordedAt]
      .ok (s.commit command request (settings.fingerprint command.toCreateCommand) db,
        [.startDispatch command request.id])

/-- The loser of the insert race reads the winner's record. -/
def execReplayAfterRace (command : KeyedCommand) (s : CreationState) : CreationStep :=
  match replayed settings command s with
  | .error e => .error e
  | .ok (some requestId) => .ok (s.logged (.returned command.key requestId true), [])
  | .ok none => .error (.core (.conflict "a concurrent request is still being created; retry shortly"))

/-- A unit of the orchestrator's own work. -/
def execCore (frame : Frame) (input : Input) (s : CreationState) : CreationStep :=
  match Frame.exec settings.core frame input s.core with
  | .error e => .error (.core e)
  | .ok (orchestrated, next) => .ok ({ s with core := orchestrated }, next.map .core)

def exec : CreationFrame → Input → CreationState → CreationStep
  | .core frame, input, s => execCore settings frame input s
  | .create command, _, s => execCreate settings command s
  | .replayIfSeen command, input, s => execReplayIfSeen settings command input s
  | .flushRequest command request, _, s => execFlushRequest command request s
  | .flushRecord command request, _, s => execFlushRecord command request s
  | .commitCreation command request, input, s => execCommitCreation settings command request input s
  | .replayAfterRace command, _, s => execReplayAfterRace settings command s
  | .startDispatch command requestId, _, s =>
    .ok (s.logged (.dispatched command.key requestId),
      [.core (.dispatch requestId (.api command.actor)), .returnCreated command.key requestId])
  | .returnCreated key requestId, _, s => .ok (s.logged (.returned key requestId false), [])
  | .abort key requestId, _, s => .ok (s.rollback key requestId, [])

def isEntry : CreationFrame → Bool
  | .core frame => frame.isEntry
  | .create _ | .abort _ _ => true
  | _ => false

def isGuard : CreationFrame → Bool
  | .core frame => frame.isGuard
  | _ => false

end CreationFrame

/-- The orchestrator with keyed creation. -/
def creationSystem (settings : CreationSettings) :
    TaskPool.Program CreationState CreationFrame Input CreationExn :=
  { exec := CreationFrame.exec settings, entry := CreationFrame.isEntry, catches := CreationFrame.isGuard }

abbrev CreationConfig := TaskPool.Config CreationState CreationFrame

abbrev CreationAction := TaskPool.Action CreationFrame Input

def CreationConfig.initial : CreationConfig := { state := {}, tasks := [] }

/-- Every interleaving of the commands' reads, flushes, commits and aborts,
and of everything else the orchestrator does. -/
abbrev CreationReachable (settings : CreationSettings) : CreationConfig → Prop :=
  (creationSystem settings).Reach (fun _ _ => True) CreationConfig.initial

theorem creation_replay (settings : CreationSettings) (actions : List CreationAction) (test : CreationConfig → Prop)
    (passes : ∃ c, (creationSystem settings).replay (fun _ _ => true) CreationConfig.initial actions = some c ∧ test c) :
    ∃ c, CreationReachable settings c ∧ test c :=
  TaskPool.Program.Reach.replayed (fun _ _ _ => trivial) passes

namespace Sample

def creationSettings : CreationSettings where
  core := Sample.settings
  fingerprint command := command.externalReference.value

def keyed (reference : ExternalReference) (operation : OperationType) : KeyedCommand :=
  { provider := provider, operationType := operation, externalReference := reference
    payload := [("size", .int 1)], correlationId := correlationId, actor := { type := .apiClient }
    key := "key-1" }

def first : KeyedCommand := keyed order .resourceProvision

def creationWork (task : Nat) (now : Instant) (id : UUID) (count : Nat) : List CreationAction :=
  List.replicate count (.run task (Sample.input now id .crashed))

/-- A command up to its commit. -/
def created : List CreationAction := .spawn (.create first) :: creationWork 0 1 200 5

end Sample

end IntegrationOrchestrator
