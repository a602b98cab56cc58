import IntegrationOrchestrator.Creation.Idempotency

namespace IntegrationOrchestrator

open TaskPool (Matches spawning)

variable {settings : CreationSettings} {s : CreationState} {frame : CreationFrame}
  {rest : List CreationFrame} {stack : List Frame} {command : CreateCommand} {q : IntegrationRequest}

/-- `q` is what the command creates, whatever id and time it is given. -/
def CreateCommand.Makes (command : CreateCommand) (q : IntegrationRequest) : Prop :=
  ∃ id now, q = .create id command.provider command.operationType command.externalReference command.payload
    command.correlationId now command.actor.id

def CreateCommand.Supported (settings : Settings) (command : CreateCommand) : Prop :=
  ∃ descriptor, settings.descriptor command.provider = some descriptor ∧
    command.operationType ∈ descriptor.supportedOperations

/-- The frame belongs to a creation that has not committed. -/
inductive CreationFrame.Prepares (settings : Settings) : CreationFrame → CreateCommand → Prop
  | create (command : KeyedCommand) : Prepares settings (.create command) command.toCreateCommand
  | replayIfSeen {command : KeyedCommand} : command.Supported settings →
      Prepares settings (.replayIfSeen command) command.toCreateCommand
  | flushRequest {command : KeyedCommand} {q : IntegrationRequest} : command.Supported settings → command.Makes q →
      Prepares settings (.flushRequest command q) command.toCreateCommand
  | flushRecord {command : KeyedCommand} {q : IntegrationRequest} : command.Supported settings → command.Makes q →
      Prepares settings (.flushRecord command q) command.toCreateCommand
  | commitCreation {command : KeyedCommand} {q : IntegrationRequest} : command.Supported settings →
      command.Makes q → Prepares settings (.commitCreation command q) command.toCreateCommand
  | replayAfterRace (command : KeyedCommand) : Prepares settings (.replayAfterRace command) command.toCreateCommand

/-- The orchestrator's view of a task: a creation that has not committed is a
creation to come, and one that replays an earlier result never comes. -/
inductive Shadows (settings : Settings) (stack : List CreationFrame) (shadow : List Frame) : Prop
  | prepares {frame : CreationFrame} {command : CreateCommand} : frame.Prepares settings command → stack = [frame] →
      shadow = [.createRequest command] → Shadows settings stack shadow
  | dispatches {command : KeyedCommand} {requestId : UUID} : stack = [.startDispatch command requestId] →
      shadow = [.dispatch requestId (.api command.actor)] → Shadows settings stack shadow
  | core {tail : List CreationFrame} : (tail = [] ∨ ∃ key requestId, tail = [.returnCreated key requestId]) →
      stack = shadow.map .core ++ tail → Shadows settings stack shadow
  | finished : stack = [] ∨ (∃ key requestId, stack = [.abort key requestId]) → Shadows settings stack shadow

theorem Shadows.ended (settings : Settings) (shadow : List Frame) : Shadows settings [] shadow := .finished (Or.inl rfl)

/-- The transaction that commits a keyed creation is, for the orchestrator's
tables, the one that creates a request without a key. -/
theorem createRequest_made (input : Input) {descriptor : ProviderDescriptor} {db : Database} {core : State} {id : UUID}
    {now recordedAt : Instant} (known : settings.core.descriptor command.provider = some descriptor)
    (supported : command.operationType ∈ descriptor.supportedOperations)
    (made : q = .create id command.provider command.operationType command.externalReference command.payload
      command.correlationId now command.actor.id)
    (added : core.db.addRequest q = .ok db) :
    Frame.exec settings.core (.createRequest command)
      { input with readings := ⟨now, now, recordedAt⟩, newId := fun _ => id } core =
      .ok ({ core with db := db.recordRequest [creationRecord q command.actor,
          actionRecord q .providerSelected { type := .system } recordedAt] },
        [.dispatch q.id (.api command.actor)]) := by
  subst made
  simp only [Frame.exec, Frame.execCreateRequest, known, not_not.mpr supported, if_false, added, bind, Except.bind,
    pure, Except.pure]

theorem prepares_matches (input : Input) (prepares : frame.Prepares settings.core command) :
    Matches (creationSystem settings) (orchestrator settings.core) CreationState.core (Shadows settings.core) s []
      [.createRequest command] (CreationFrame.exec settings frame input s) := by
  have pending : ∀ {frame}, CreationFrame.Prepares settings.core frame command →
      Shadows settings.core [frame] [.createRequest command] := fun next => .prepares next rfl rfl
  have ended := Shadows.ended settings.core [.createRequest command]
  cases prepares with
  | create command =>
    simp only [CreationFrame.exec, CreationFrame.execCreate]
    split
    · exact Or.inl ended
    · rename_i descriptor known
      split
      · exact Or.inl ended
      · rename_i supported
        exact Or.inl ⟨rfl, pending (.replayIfSeen ⟨descriptor, known, not_not.mp supported⟩)⟩
  | replayIfSeen supported =>
    simp only [CreationFrame.exec, CreationFrame.execReplayIfSeen]
    split
    · exact Or.inl ended
    · exact Or.inl ⟨rfl, ended⟩
    · exact Or.inl ⟨rfl, pending (.flushRequest supported ⟨_, _, rfl⟩)⟩
  | @flushRequest command q supported made =>
    simp only [CreationFrame.exec, CreationFrame.execFlushRequest]
    split
    · exact Or.inl ⟨rfl, pending (.replayAfterRace command)⟩
    · split
      · exact Or.inl ⟨rfl, pending (.flushRequest supported made)⟩
      · exact Or.inl ⟨rfl, pending (.flushRecord supported made)⟩
  | @flushRecord command q supported made =>
    simp only [CreationFrame.exec, CreationFrame.execFlushRecord]
    split
    · exact Or.inl ⟨rfl, pending (.replayAfterRace command)⟩
    · exact Or.inl ⟨rfl, pending (.commitCreation supported made)⟩
  | @commitCreation command q supported made =>
    simp only [CreationFrame.exec, CreationFrame.execCommitCreation]
    split
    · exact Or.inl ended
    · split
      · exact Or.inl ended
      · rename_i db added
        obtain ⟨descriptor, known, supported⟩ := supported
        obtain ⟨id, now, made⟩ := made
        exact Or.inr ⟨_, _, _, _, rfl, createRequest_made input known supported made added, .dispatches rfl rfl⟩
  | replayAfterRace command =>
    simp only [CreationFrame.exec, CreationFrame.execReplayAfterRace]
    split
    · exact Or.inl ended
    · exact Or.inl ⟨rfl, ended⟩
    · exact Or.inl ended

/-- An exception ends the same frames in both systems, and the return to the
caller with them if nothing catches it. -/
theorem unwind_core (frames : List Frame) {tail : List CreationFrame}
    (shape : tail = [] ∨ ∃ key requestId, tail = [.returnCreated key requestId]) :
    Shadows settings.core ((creationSystem settings).unwind (frames.map .core ++ tail))
      ((orchestrator settings.core).unwind frames) := by
  induction frames with
  | nil =>
    refine .finished (Or.inl ?_)
    rcases shape with rfl | ⟨_, _, rfl⟩ <;> rfl
  | cons frame frames ih =>
    have caught : (creationSystem settings).catches (.core frame) = (orchestrator settings.core).catches frame := rfl
    simp only [List.map_cons, List.cons_append, TaskPool.Program.unwind, caught]
    split
    · exact .core shape rfl
    · exact ih

theorem shadows_matches (input : Input) (shadows : Shadows settings.core (frame :: rest) stack) :
    Matches (creationSystem settings) (orchestrator settings.core) CreationState.core (Shadows settings.core) s rest
      stack (CreationFrame.exec settings frame input s) := by
  cases shadows with
  | prepares prepares here shadow =>
    cases here
    subst shadow
    exact prepares_matches input prepares
  | dispatches here shadow =>
    cases here
    subst shadow
    exact Or.inl ⟨rfl, .core (Or.inr ⟨_, _, rfl⟩) rfl⟩
  | @core tail shape here =>
    cases stack with
    | nil =>
      rcases shape with rfl | ⟨key, requestId, rfl⟩
      · cases here
      · cases here
        exact Or.inl ⟨rfl, .ended ..⟩
    | cons top below =>
      cases here
      simp only [CreationFrame.exec, CreationFrame.execCore]
      cases ran : Frame.exec settings.core top input s.core with
      | error e => exact Or.inr ⟨top, below, input, e, rfl, ran, unwind_core below shape⟩
      | ok after =>
        refine Or.inr ⟨top, below, input, after.2, rfl, ran, .core shape ?_⟩
        rw [List.map_append, List.append_assoc]
        rfl
  | finished here =>
    rcases here with none | ⟨key, requestId, here⟩
    · cases none
    · cases here
      exact Or.inl ⟨rfl, .ended ..⟩

/-- The clients' commands and the other tasks a run may start. -/
def CreationFrame.Permitted (permitted : Frame → Prop) : CreationFrame → Prop
  | .core frame => permitted frame
  | .create command => permitted (.createRequest command.toCreateCommand)
  | _ => True

/-- Whatever keyed creations do to the orchestrator's tables, creations
without a key do too. -/
theorem creation_projects {permitted : Frame → Prop} {idle : Frame} (some : permitted idle) (entry : idle.isEntry = true)
    {c : CreationConfig} (reach : (creationSystem settings).Reach
      (spawning (CreationFrame.Permitted permitted)) CreationConfig.initial c) :
    ∃ c', ReachableUnder settings.core (spawning permitted) c' ∧ c'.state = c.state.core := by
  have enter : ∀ frame, CreationFrame.Permitted permitted frame → (creationSystem settings).entry frame = true →
      ∃ frame', permitted frame' ∧ (orchestrator settings.core).entry frame' = true ∧
        Shadows settings.core [frame] [frame'] := by
    intro frame ok entered
    cases frame with
    | core frame => exact ⟨frame, ok, entered, .core (Or.inl rfl) rfl⟩
    | create command => exact ⟨_, ok, rfl, .prepares (.create command) rfl rfl⟩
    | abort key requestId => exact ⟨idle, some, entry, .finished (Or.inr ⟨key, requestId, rfl⟩)⟩
    | _ => cases entered
  have base : Config.initial.state = CreationState.core CreationConfig.initial.state ∧
      List.Forall₂ (Shadows settings.core) CreationConfig.initial.tasks Config.initial.tasks := ⟨rfl, .nil⟩
  obtain ⟨c', reached, same, _⟩ := reach.simulated CreationState.core (Shadows settings.core) base enter
    fun _ input _ _ _ => shadows_matches input
  exact ⟨c', reached, same⟩

theorem CreationReachable.core {c : CreationConfig} (reach : CreationReachable settings c) :
    ∃ c', Reachable settings.core c' ∧ c'.state = c.state.core := by
  have anyone : (creationSystem settings).Reach (spawning (CreationFrame.Permitted fun _ => True))
      CreationConfig.initial c := by
    refine reach.mono fun _ a _ => ?_
    rcases a with ⟨frame⟩ | _
    · cases frame <;> trivial
    · trivial
  have idle : (Frame.claimRetry 0).isEntry = true := rfl
  obtain ⟨c', reached, same⟩ := creation_projects trivial idle anyone
  exact ⟨c', reached.mono fun _ _ _ => trivial, same⟩

end IntegrationOrchestrator
