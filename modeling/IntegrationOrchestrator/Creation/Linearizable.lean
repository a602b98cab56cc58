import IntegrationOrchestrator.Creation.Idempotency
import IntegrationOrchestrator.Dispatch.Selection

namespace IntegrationOrchestrator

/-- The key whose creation a frame completes. -/
def CreationFrame.completes : CreationFrame → Option (String × UUID)
  | .startDispatch command requestId => some (command.key, requestId)
  | .returnCreated key requestId => some (key, requestId)
  | _ => none

/-- Everything a unit of work can do to the keys, the records and the log. -/
inductive CreationEffect (settings : CreationSettings) (s : CreationState) :
    CreationFrame → CreationState → List CreationFrame → Prop
  | quiet {frame : CreationFrame} {s' : CreationState} {pushed : List CreationFrame} : frame.completes = none →
      s'.keys = s.keys → s'.records = s.records → s'.flushed.Sublist s.flushed → s'.log = s.log →
      (∀ next ∈ pushed, next.completes = none) → CreationEffect settings s frame s' pushed
  | flush {command : KeyedCommand} {request : IntegrationRequest} : command.key ∉ s.keys.map Prod.fst →
      command.key ∉ s.flushed.map Prod.fst →
      CreationEffect settings s (.flushRequest command request)
        { s with flushed := s.flushed ++ [(command.key, request.id)] } [.flushRecord command request]
  | commit {command : KeyedCommand} {request : IntegrationRequest} {db : Database} :
      (command.key, request.id) ∈ s.flushed →
      CreationEffect settings s (.commitCreation command request)
        (s.commit command request (settings.fingerprint command.toCreateCommand) db)
        [.startDispatch command request.id]
  | replay {frame : CreationFrame} {command : KeyedCommand} {record : IdempotencyRecord} :
      frame.completes = none → s.records.get command.key = some record →
      record.matches (settings.fingerprint command.toCreateCommand) = true →
      CreationEffect settings s frame (s.logged (.returned command.key record.requestId true)) []
  | dispatch {command : KeyedCommand} {requestId : UUID} :
      CreationEffect settings s (.startDispatch command requestId) (s.logged (.dispatched command.key requestId))
        [.core (.dispatch requestId (.api command.actor)), .returnCreated command.key requestId]
  | finish {key : String} {requestId : UUID} :
      CreationEffect settings s (.returnCreated key requestId) (s.logged (.returned key requestId false)) []

variable {settings : CreationSettings} {s s' : CreationState} {input : Input} {pushed : List CreationFrame}

theorem replayed_some {command : KeyedCommand} {requestId : UUID}
    (run : CreationFrame.replayed settings command s = .ok (some requestId)) :
    ∃ record, s.records.get command.key = some record ∧ record.requestId = requestId ∧
      record.matches (settings.fingerprint command.toCreateCommand) = true := by
  unfold CreationFrame.replayed at run
  split at run
  · cases run
  · rename_i record found
    split at run
    · cases run
    · rename_i matched
      split at run
      · cases run
      · rename_i request stored
        cases run
        exact ⟨record, found, (Table.get_key stored).symm, by simpa using matched⟩

theorem CreationFrame.effect {frame : CreationFrame}
    (run : CreationFrame.exec settings frame input s = .ok (s', pushed)) :
    CreationEffect settings s frame s' pushed := by
  cases frame with
  | core inner =>
    simp only [CreationFrame.exec, CreationFrame.execCore] at run
    split at run
    · cases run
    · rename_i orchestrated next ran
      cases run
      refine .quiet rfl rfl rfl (List.Sublist.refl _) rfl fun frame member => ?_
      obtain ⟨inner, -, rfl⟩ := List.mem_map.mp member
      rfl
  | create command =>
    simp only [CreationFrame.exec, CreationFrame.execCreate] at run
    split at run
    · cases run
    · split at run
      · cases run
      · cases run
        exact .quiet rfl rfl rfl (List.Sublist.refl _) rfl (by simp [CreationFrame.completes])
  | replayIfSeen command =>
    simp only [CreationFrame.exec, CreationFrame.execReplayIfSeen] at run
    split at run
    · cases run
    · rename_i requestId seen
      cases run
      obtain ⟨record, found, rfl, matched⟩ := replayed_some seen
      exact .replay rfl found matched
    · cases run
      exact .quiet rfl rfl rfl (List.Sublist.refl _) rfl (by simp [CreationFrame.completes])
  | flushRequest command request =>
    simp only [CreationFrame.exec, CreationFrame.execFlushRequest] at run
    split at run
    · cases run
      exact .quiet rfl rfl rfl (List.Sublist.refl _) rfl (by simp [CreationFrame.completes])
    · rename_i fresh
      split at run
      · cases run
        exact .quiet rfl rfl rfl (List.Sublist.refl _) rfl (by simp [CreationFrame.completes])
      · rename_i alone
        cases run
        refine .flush (fun member => fresh (.inr member)) fun member => alone ?_
        obtain ⟨other, inside, same⟩ := List.mem_map.mp member
        exact List.any_eq_true.mpr ⟨other, inside, by simp [same]⟩
  | flushRecord command request =>
    simp only [CreationFrame.exec, CreationFrame.execFlushRecord] at run
    split at run
    · cases run
      exact .quiet rfl rfl rfl (List.erase_sublist ..) rfl (by simp [CreationFrame.completes])
    · cases run
      exact .quiet rfl rfl rfl (List.Sublist.refl _) rfl (by simp [CreationFrame.completes])
  | commitCreation command request =>
    simp only [CreationFrame.exec, CreationFrame.execCommitCreation] at run
    split at run
    · cases run
    · rename_i held
      split at run
      · cases run
      · cases run
        exact .commit (not_not.mp held)
  | replayAfterRace command =>
    simp only [CreationFrame.exec, CreationFrame.execReplayAfterRace] at run
    split at run
    · cases run
    · rename_i requestId seen
      cases run
      obtain ⟨record, found, rfl, matched⟩ := replayed_some seen
      exact .replay rfl found matched
    · cases run
  | startDispatch command requestId =>
    cases run
    exact .dispatch
  | returnCreated key requestId =>
    cases run
    exact .finish
  | abort key requestId =>
    cases run
    exact .quiet rfl rfl rfl (List.erase_sublist ..) rfl (List.forall_mem_nil _)

/-- One committed request and one record a key, and no open transaction for a
committed key. -/
structure CreationState.Good (s : CreationState) : Prop where
  keysOnce : (s.keys.map Prod.fst).Nodup
  flushedOnce : (s.flushed.map Prod.fst).Nodup
  apart : ∀ key ∈ s.flushed.map Prod.fst, key ∉ s.keys.map Prod.fst
  recorded : ∀ key requestId, (key, requestId) ∈ s.keys ↔
    ∃ record, s.records.get key = some record ∧ record.requestId = requestId
  answered : ∀ key requestId replayed, .returned key requestId replayed ∈ s.log → (key, requestId) ∈ s.keys

/-- What a frame completes is committed. -/
def CreationFrame.Asserts (s : CreationState) (frame : CreationFrame) : Prop :=
  ∀ key requestId, frame.completes = some (key, requestId) → (key, requestId) ∈ s.keys

theorem CreationEffect.keys_grow {frame : CreationFrame} (effect : CreationEffect settings s frame s' pushed)
    {entry : String × UUID} (member : entry ∈ s.keys) : entry ∈ s'.keys := by
  cases effect with
  | quiet _ same => exact same ▸ member
  | commit => exact List.mem_append_left _ member
  | flush | replay | dispatch | finish => exact member

theorem CreationState.Good.logged (good : s.Good) {event : CreationEvent}
    (answer : ∀ key requestId replayed, event = .returned key requestId replayed → (key, requestId) ∈ s.keys) :
    (s.logged event).Good where
  keysOnce := good.keysOnce
  flushedOnce := good.flushedOnce
  apart := good.apart
  recorded := good.recorded
  answered key requestId replayed member := by
    rcases List.mem_append.mp member with old | new
    · exact good.answered key requestId replayed old
    · exact answer key requestId replayed (List.mem_singleton.mp new).symm

theorem CreationState.Good.commit (good : s.Good) {command : KeyedCommand} {request : IntegrationRequest}
    {fingerprint : String} {db : Database} (held : (command.key, request.id) ∈ s.flushed) :
    (s.commit command request fingerprint db).Good := by
  have fresh : command.key ∉ s.keys.map Prod.fst := good.apart _ (List.mem_map.mpr ⟨_, held, rfl⟩)
  have once := (((List.perm_cons_erase held).map Prod.fst).nodup_iff.mp good.flushedOnce)
  rw [List.map_cons, List.nodup_cons] at once
  have smaller : ∀ key ∈ (s.flushed.erase (command.key, request.id)).map Prod.fst, key ∈ s.flushed.map Prod.fst :=
    fun key member => ((List.erase_sublist ..).map Prod.fst).subset member
  refine ⟨?_, once.2, fun key member => ?_, fun key requestId => ?_, fun key requestId replayed member => ?_⟩
  · simp only [CreationState.commit, List.map_append, List.map_cons, List.map_nil]
    exact good.keysOnce.append (List.nodup_singleton _) (by simpa using fresh)
  · simp only [CreationState.commit, List.map_append, List.map_cons, List.map_nil, List.mem_append,
      List.mem_singleton]
    rintro (old | rfl)
    · exact good.apart key (smaller key member) old
    · exact once.1 member
  · simp only [CreationState.commit, List.mem_append, List.mem_singleton, Table.get_put, Prod.mk.injEq]
    by_cases same : key = command.key
    · subst same
      have absent : ¬ (command.key, requestId) ∈ s.keys := fun old => fresh (List.mem_map.mpr ⟨_, old, rfl⟩)
      simp [absent, eq_comm]
    · simp [same, good.recorded key requestId]
  · exact List.mem_append_left _ (good.answered key requestId replayed member)

theorem CreationEffect.good {frame : CreationFrame} (effect : CreationEffect settings s frame s' pushed)
    (good : s.Good) (asserted : frame.Asserts s) : s'.Good := by
  cases effect with
  | quiet _ sameKeys sameRecords fewer sameLog _ =>
    refine ⟨sameKeys ▸ good.keysOnce, good.flushedOnce.sublist (fewer.map _), fun key member => ?_, ?_, ?_⟩
    · rw [sameKeys]
      exact good.apart key ((fewer.map _).subset member)
    · rw [sameKeys, sameRecords]
      exact good.recorded
    · rw [sameKeys, sameLog]
      exact good.answered
  | @flush command request fresh alone =>
    refine ⟨good.keysOnce, ?_, fun key member => ?_, good.recorded, good.answered⟩
    · simp only [List.map_append, List.map_cons, List.map_nil]
      exact good.flushedOnce.append (List.nodup_singleton _) (by simpa using alone)
    · simp only [List.map_append, List.map_cons, List.map_nil, List.mem_append, List.mem_singleton] at member
      rcases member with old | rfl
      · exact good.apart key old
      · exact fresh
  | commit held => exact good.commit held
  | @replay _ command record _ found matched =>
    refine good.logged fun key requestId replayed same => ?_
    cases same
    exact (good.recorded command.key record.requestId).mpr ⟨record, found, rfl⟩
  | dispatch => exact good.logged nofun
  | @finish key requestId =>
    refine good.logged fun key' requestId' replayed same => ?_
    cases same
    exact asserted key requestId rfl

theorem CreationEffect.asserts {frame : CreationFrame} (effect : CreationEffect settings s frame s' pushed)
    (asserted : frame.Asserts s) : ∀ next ∈ pushed, next.Asserts s' := by
  intro next member key requestId completes
  cases effect with
  | quiet _ _ _ _ _ none =>
    rw [none next member] at completes
    cases completes
  | flush =>
    cases List.mem_singleton.mp member
    cases completes
  | commit held =>
    cases List.mem_singleton.mp member
    cases completes
    exact List.mem_append_right _ (List.mem_singleton.mpr rfl)
  | replay => cases member
  | @dispatch command requestId =>
    simp only [List.mem_cons, List.not_mem_nil, or_false] at member
    rcases member with rfl | rfl
    · cases completes
    · cases completes
      exact asserted command.key requestId rfl
  | finish => cases member

theorem creation_good {c : CreationConfig} (reach : CreationReachable settings c) :
    c.state.Good ∧ ∀ frame ∈ c.frames, frame.Asserts c.state := by
  refine reach.pool_invariant CreationState.Good CreationFrame.Asserts ⟨?_, List.forall_mem_nil _⟩ ?_ ?_
  · refine ⟨List.nodup_nil, List.nodup_nil, List.forall_mem_nil _, ?_, ?_⟩ <;>
      simp [CreationConfig.initial]
  · intro state frame _ entry key requestId completes
    cases frame with
    | startDispatch _ _ | returnCreated _ _ => exact absurd entry Bool.false_ne_true
    | core _ | create _ | replayIfSeen _ | flushRequest _ _ | flushRecord _ _ | commitCreation _ _
    | replayAfterRace _ | abort _ _ => cases completes
  · intro c task input frame rest state pushed good asserted _ atTask ran
    have effect := CreationFrame.effect ran
    have here := asserted frame (TaskPool.mem_frames_top atTask)
    refine ⟨effect.good good here, effect.asserts here, fun other _ before key requestId completes => ?_⟩
    exact effect.keys_grow (before key requestId completes)

section counts

/-- The tokens of a key: one until its request is committed, then one for
each event of a kind that followed. -/
def CreationState.tokens (key : String) (counted : CreationEvent → Bool) (s : CreationState) : Nat :=
  (if key ∈ s.keys.map Prod.fst then 0 else 1) + s.log.countP counted

def isDispatchOf (key : String) : CreationEvent → Bool
  | .dispatched other _ => other = key
  | _ => false

def isResultOf (key : String) : CreationEvent → Bool
  | .returned other _ replayed => other = key && !replayed
  | _ => false

/-- The frames that have yet to dispatch for the key. -/
def CreationFrame.dispatches (key : String) : CreationFrame → Nat
  | .startDispatch command _ => if command.key = key then 1 else 0
  | _ => 0

/-- The frames that have yet to return the key's result. -/
def CreationFrame.returns (key : String) (frame : CreationFrame) : Nat :=
  if frame.completes.any (·.1 = key) then 1 else 0

theorem tokens_same {key : String} {counted : CreationEvent → Bool} (sameKeys : s'.keys = s.keys)
    (sameLog : s'.log = s.log) : s'.tokens key counted = s.tokens key counted := by
  rw [CreationState.tokens, CreationState.tokens, sameKeys, sameLog]

theorem tokens_logged {key : String} {counted : CreationEvent → Bool} {event : CreationEvent} :
    (s.logged event).tokens key counted = s.tokens key counted + if counted event then 1 else 0 := by
  simp only [CreationState.tokens, CreationState.logged, List.countP_append, List.countP_singleton]
  exact (Nat.add_assoc ..).symm

/-- A commit spends the token of its key. -/
theorem tokens_commit (key : String) (counted : CreationEvent → Bool) {command : KeyedCommand}
    (request : IntegrationRequest) (fingerprint : String) (db : Database)
    (fresh : command.key ∉ s.keys.map Prod.fst) :
    (s.commit command request fingerprint db).tokens key counted + (if command.key = key then 1 else 0) =
      s.tokens key counted := by
  by_cases same : command.key = key
  · subst same
    simp [CreationState.tokens, CreationState.commit, fresh]
    omega
  · have other : ¬ key = command.key := fun equal => same equal.symm
    simp only [CreationState.tokens, CreationState.commit, List.map_append, List.map_cons, List.map_nil,
      List.mem_append, List.mem_singleton, other, or_false, if_neg same, Nat.add_zero]

/-- No unit of work makes tokens of the key. -/
theorem CreationEffect.tokens {frame : CreationFrame} (effect : CreationEffect settings s frame s' pushed)
    (good : s.Good) (key : String) :
    s'.tokens key (isDispatchOf key) + (pushed.map (CreationFrame.dispatches key)).sum ≤
        s.tokens key (isDispatchOf key) + frame.dispatches key ∧
      s'.tokens key (isResultOf key) + (pushed.map (CreationFrame.returns key)).sum ≤
        s.tokens key (isResultOf key) + frame.returns key := by
  have quietDispatch : ∀ next : CreationFrame, next.completes = none → next.dispatches key = 0 := by
    intro next none
    cases next <;> first | rfl | cases none
  have quietReturn : ∀ next : CreationFrame, next.completes = none → next.returns key = 0 := by
    intro next none
    simp [CreationFrame.returns, none]
  cases effect with
  | quiet none sameKeys sameRecords fewer sameLog others =>
    have noDispatch : (pushed.map (CreationFrame.dispatches key)).sum = 0 :=
      List.sum_eq_zero fun value member => by
        obtain ⟨next, inside, rfl⟩ := List.mem_map.mp member
        exact quietDispatch next (others next inside)
    have noReturn : (pushed.map (CreationFrame.returns key)).sum = 0 :=
      List.sum_eq_zero fun value member => by
        obtain ⟨next, inside, rfl⟩ := List.mem_map.mp member
        exact quietReturn next (others next inside)
    rw [tokens_same sameKeys sameLog, tokens_same sameKeys sameLog, noDispatch, noReturn]
    omega
  | flush =>
    exact ⟨Nat.le_refl _, Nat.le_refl _⟩
  | @commit command request db held =>
    have fresh : command.key ∉ s.keys.map Prod.fst := good.apart _ (List.mem_map.mpr ⟨_, held, rfl⟩)
    have spent := tokens_commit key (isDispatchOf key) request (settings.fingerprint command.toCreateCommand) db fresh
    have spent' := tokens_commit key (isResultOf key) request (settings.fingerprint command.toCreateCommand) db fresh
    refine ⟨?_, ?_⟩
    · simp only [List.map_cons, List.map_nil, List.sum_cons, List.sum_nil, CreationFrame.dispatches]
      omega
    · simp only [List.map_cons, List.map_nil, List.sum_cons, List.sum_nil, CreationFrame.returns,
        CreationFrame.completes, Option.any_some, Option.any_none, decide_eq_true_eq]
      simp only [Bool.false_eq_true, if_false]
      omega
  | replay none found matched =>
    rw [tokens_logged, tokens_logged]
    simp [isDispatchOf, isResultOf]
  | @dispatch command requestId =>
    rw [tokens_logged, tokens_logged]
    simp [isDispatchOf, isResultOf, CreationFrame.dispatches, CreationFrame.returns, CreationFrame.completes]
  | @finish other requestId =>
    rw [tokens_logged, tokens_logged]
    simp [isDispatchOf, isResultOf, CreationFrame.returns, CreationFrame.completes]

theorem creation_counts {c : CreationConfig} (reach : CreationReachable settings c) (key : String) :
    c.state.log.countP (isDispatchOf key) ≤ 1 ∧ c.state.log.countP (isResultOf key) ≤ 1 := by
  have entries : ∀ frame : CreationFrame, frame.isEntry = true → frame.completes = none := by
    intro frame entry
    cases frame with
    | startDispatch _ _ | returnCreated _ _ => exact absurd entry Bool.false_ne_true
    | core _ | create _ | replayIfSeen _ | flushRequest _ _ | flushRecord _ _ | commitCreation _ _
    | replayAfterRace _ | abort _ _ => rfl
  have dispatched := reach.load_invariant (CreationFrame.dispatches key)
    (CreationState.tokens key (isDispatchOf key)) 1 (by exact Nat.le_refl 1) ?_ ?_
  have returned := reach.load_invariant (CreationFrame.returns key)
    (CreationState.tokens key (isResultOf key)) 1 (by exact Nat.le_refl 1) ?_ ?_
  · simp only [CreationState.tokens] at dispatched returned
    omega
  · intro frame entry
    simp [CreationFrame.returns, entries frame entry]
  · intro c task input frame rest state pushed reached _ _ ran held
    have tokens := ((CreationFrame.effect ran).tokens (creation_good reached).1 key).2
    omega
  · intro frame entry
    have none := entries frame entry
    cases frame <;> first | rfl | cases none
  · intro c task input frame rest state pushed reached _ _ ran held
    have tokens := ((CreationFrame.effect ran).tokens (creation_good reached).1 key).1
    omega

end counts

section conflict

variable {command : KeyedCommand} {record : IdempotencyRecord}

theorem replayed_conflict (found : s.records.get command.key = some record)
    (differs : record.matches (settings.fingerprint command.toCreateCommand) = false) :
    CreationFrame.replayed settings command s = .error (.idempotencyConflict command.key) := by
  simp [CreationFrame.replayed, found, differs]

theorem CreationState.Good.committed (good : s.Good) (found : s.records.get command.key = some record) :
    command.key ∈ s.keys.map Prod.fst ∧ ∀ requestId, (command.key, requestId) ∉ s.flushed := by
  have stored : command.key ∈ s.keys.map Prod.fst :=
    List.mem_map.mpr ⟨(command.key, record.requestId), (good.recorded _ _).mpr ⟨record, found, rfl⟩, rfl⟩
  exact ⟨stored, fun requestId open' => good.apart _ (List.mem_map.mpr ⟨_, open', rfl⟩) stored⟩

/-- The provider is configured and knows the operation. -/
def CreationSettings.supports (settings : CreationSettings) (command : KeyedCommand) : Bool :=
  (settings.core.descriptor command.provider).any fun descriptor =>
    command.operationType ∈ descriptor.supportedOperations

/-- No unit of work of the command writes anything, and those that read the
record raise `IdempotencyConflictError`. A command that is past its flushes
lost its transaction and raises at the commit. -/
structure Refused (settings : CreationSettings) (command : KeyedCommand) (s : CreationState) : Prop where
  create : ∀ input, settings.supports command = true →
    CreationFrame.exec settings (.create command) input s = .ok (s, [.replayIfSeen command])
  replayIfSeen : ∀ input, CreationFrame.exec settings (.replayIfSeen command) input s =
    .error (.idempotencyConflict command.key)
  flushRequest : ∀ input request, CreationFrame.exec settings (.flushRequest command request) input s =
    .ok (s, [.replayAfterRace command])
  flushRecord : ∀ input request, CreationFrame.exec settings (.flushRecord command request) input s =
    .ok (s, [.replayAfterRace command])
  commit : ∀ input request, CreationFrame.exec settings (.commitCreation command request) input s =
    .error (.core .unexpected)
  replayAfterRace : ∀ input, CreationFrame.exec settings (.replayAfterRace command) input s =
    .error (.idempotencyConflict command.key)

theorem refused (good : s.Good) (found : s.records.get command.key = some record)
    (differs : record.matches (settings.fingerprint command.toCreateCommand) = false) :
    Refused settings command s := by
  obtain ⟨stored, released⟩ := good.committed found
  have conflict := replayed_conflict found differs
  refine ⟨fun input supported => ?_, fun input => ?_, fun input request => ?_, fun input request => ?_,
    fun input request => ?_, fun input => ?_⟩
  · obtain ⟨descriptor, known, listed⟩ := (Option.any_eq_true ..).mp supported
    simp only [decide_eq_true_eq] at listed
    simp [CreationFrame.exec, CreationFrame.execCreate, known, listed]
  · simp only [CreationFrame.exec, CreationFrame.execReplayIfSeen, conflict]
  · simp only [CreationFrame.exec, CreationFrame.execFlushRequest, stored, or_true, if_true]
  · simp only [CreationFrame.exec, CreationFrame.execFlushRecord, found, Option.isSome_some, if_true,
      CreationState.rollback, List.erase_of_not_mem (released request.id)]
  · simp only [CreationFrame.exec, CreationFrame.execCommitCreation, released request.id, not_false_eq_true, if_true]
  · simp only [CreationFrame.exec, CreationFrame.execReplayAfterRace, conflict]

end conflict

/-- Keyed creation is linearizable: of the commands with one key at most one
commits a request and a record and starts a dispatch; all results name that
request, at most one of them as not replayed; and a command with another
fingerprint is refused. -/
theorem creation_linearizable {c : CreationConfig} (reach : CreationReachable settings c) (key : String) :
    c.state.keys.countP (fun entry => entry.1 = key) ≤ 1 ∧
      c.state.records.rows.countP (fun record => record.key = key) ≤ 1 ∧
      c.state.log.countP (isDispatchOf key) ≤ 1 ∧
      (∀ requestId replayed, .returned key requestId replayed ∈ c.state.log → (key, requestId) ∈ c.state.keys) ∧
      c.state.log.countP (isResultOf key) ≤ 1 ∧
      ∀ command record, command.key = key → c.state.records.get key = some record →
        record.matches (settings.fingerprint command.toCreateCommand) = false →
        Refused settings command c.state := by
  have good := (creation_good reach).1
  obtain ⟨dispatched, returned⟩ := creation_counts reach key
  refine ⟨?_, ?_, dispatched, fun requestId replayed member => good.answered key requestId replayed member, returned,
    fun command record same found differs => ?_⟩
  · have once := List.nodup_iff_count_le_one.mp good.keysOnce key
    rw [List.count, List.countP_map] at once
    exact once
  · have once := List.nodup_iff_count_le_one.mp c.state.records.unique key
    rw [List.count, List.countP_map] at once
    exact once
  · subst same
    exact refused good found differs

namespace Sample

/-- The same key for another order, and for an operation no one supports. -/
def second : KeyedCommand := keyed ⟨"order-2", by decide⟩ .resourceProvision

def unsupported : KeyedCommand := keyed ⟨"order-2", by decide⟩ .resourceUpdate

/-- The request is cancelled before its dispatch, which raises; a second
command with the key and the same body follows. -/
def creatorFails : List CreationAction :=
  created ++ .spawn (.core (.cancelRequest 200 none { type := .apiClient })) :: creationWork 1 2 0 1 ++
    creationWork 0 3 0 2 ++ .spawn (.create first) :: creationWork 2 4 0 2

/-- The transaction of one command is aborted after its flushes, and another
commits. -/
def aborted : List CreationAction :=
  .spawn (.create second) :: creationWork 0 1 300 4 ++ .spawn (.abort "key-1" 300) :: creationWork 1 2 0 1 ++
    .spawn (.create first) :: creationWork 2 3 200 5

/-- The first command is about to commit rows that are gone, beside the record
of another command with its key. -/
def commitsLost (c : CreationConfig) : Bool := match c.tasks[0]? with
  | some [CreationFrame.commitCreation command request] => command.key = "key-1" &&
    !c.state.flushed.contains (command.key, request.id) && (c.state.records.get "key-1").any fun record =>
      !record.matches (creationSettings.fingerprint command.toCreateCommand)
  | _ => false

end Sample

/-- No result need be a first one: the dispatch of the command that created
the request may raise. And a command with another fingerprint may raise
something else: when its operation is not supported, or when its own
transaction was aborted. -/
theorem creation_without_first_result :
    (∃ c, CreationReachable Sample.creationSettings c ∧ c.frames = [] ∧
      .returned "key-1" 200 true ∈ c.state.log ∧ c.state.log.countP (isResultOf "key-1") = 0) ∧
    (∃ c record, CreationReachable Sample.creationSettings c ∧ c.state.records.get "key-1" = some record ∧
      record.matches (Sample.creationSettings.fingerprint Sample.unsupported.toCreateCommand) = false ∧
      ∃ message, CreationFrame.exec Sample.creationSettings (.create Sample.unsupported)
        (Sample.input 2 0 .crashed) c.state = .error (.core (.unsupportedOperation message))) ∧
    ∃ c record command request, CreationReachable Sample.creationSettings c ∧
      c.tasks[0]? = some [.commitCreation command request] ∧ command.key = "key-1" ∧
      c.state.records.get "key-1" = some record ∧
      record.matches (Sample.creationSettings.fingerprint command.toCreateCommand) = false ∧
      CreationFrame.exec Sample.creationSettings (.commitCreation command request) (Sample.input 4 0 .crashed)
        c.state = .error (.core .unexpected) := by
  refine ⟨creation_replay Sample.creationSettings Sample.creatorFails _ (by decide +kernel), ?_, ?_⟩
  · obtain ⟨c, reach, record, stored, differs⟩ := creation_replay Sample.creationSettings Sample.created
      (fun c => ∃ record, c.state.records.get "key-1" = some record ∧
        record.matches (Sample.creationSettings.fingerprint Sample.unsupported.toCreateCommand) = false)
      (by decide +kernel)
    exact ⟨c, record, reach, stored, differs, _, rfl⟩
  · obtain ⟨c, reach, found⟩ := creation_replay Sample.creationSettings Sample.aborted
      (fun c => Sample.commitsLost c = true) (by decide +kernel)
    unfold Sample.commitsLost at found
    split at found
    · rename_i command request atTask
      simp only [Bool.and_eq_true, decide_eq_true_eq, Option.any_eq_true] at found
      obtain ⟨⟨key, lost⟩, record, stored, differs⟩ := found
      exact ⟨c, record, command, request, reach, atTask, key, stored, by simpa using differs, if_pos (by simpa using lost)⟩
    · cases found

theorem creation_linearizable_raced :
    ∃ c, CreationReachable Sample.creationSettings c ∧ c.state.keys = [("key-1", 200)] ∧
      (∀ requestId replayed, .returned "key-1" requestId replayed ∈ c.state.log → requestId = 200) ∧
      Refused Sample.creationSettings Sample.second c.state := by
  obtain ⟨c, reach, keys, record, stored, differs⟩ := creation_replay Sample.creationSettings Sample.creatorFails
    (fun c => c.state.keys = [("key-1", 200)] ∧ ∃ record, c.state.records.get "key-1" = some record ∧
      record.matches (Sample.creationSettings.fingerprint Sample.second.toCreateCommand) = false) (by decide +kernel)
  obtain ⟨-, -, -, answered, -, conflict⟩ := creation_linearizable reach "key-1"
  refine ⟨c, reach, keys, fun requestId replayed member => ?_, conflict Sample.second record rfl stored differs⟩
  simpa [keys] using answered requestId replayed member

end IntegrationOrchestrator
