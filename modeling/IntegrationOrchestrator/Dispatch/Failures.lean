import IntegrationOrchestrator.Dispatch.AttemptIdentity
import IntegrationOrchestrator.Dispatch.ProviderEffects

namespace IntegrationOrchestrator

open IntegrationRequest RequestDispatcher

variable {settings : Settings} {input : Input} {s s' : State} {frame : Frame} {pushed : List Frame}
  {q : IntegrationRequest} {requestId : UUID} {c c' : Config}

/-- The request whose attempt the frame has under way. -/
def Frame.underWay (frame : Frame) : Option UUID := frame.attempt.map (·.id)

/-- The runs in which no create call that the provider carried out ends in an
error, and an attempt of a request begins only if none is under way and the
provider carried out none. No frame reads what a provider carried out, so it
may stand for all that a provider may have carried out. -/
abbrev NoGuess (settings : Settings) : Restriction := .frames fun c input frame => match frame with
  | .callProvider q _ => (settings.descriptor q.provider).all fun descriptor =>
      let outcome := createOperation descriptor input.weather
      outcome.performed = 0 || match providerAnswer outcome.result with
        | .ok result => result.accepted
        | .error _ => true
  | _ => frame.beginsAttempt.all fun requestId => c.state.performedCount requestId = 0 &&
      c.frames.all fun other => other.underWay ≠ some requestId

/-- The attempt is one that may still fail, and the provider has carried out
nothing for its request. -/
def Frame.Unspent (s : State) : Frame → Prop
  | .callProvider q _ => s.performedCount q.id = 0
  | .settleAttempt q result _ => result.accepted = false → s.performedCount q.id = 0
  | _ => True

theorem Frame.underWay_of_idle (idle : frame.attempts = none) : frame.underWay = none := by
  cases frame <;> first | rfl | cases idle

theorem Frame.unspent_of_idle (idle : frame.attempts = none) : frame.Unspent s := by
  cases frame <;> trivial

theorem Frame.Unspent.keep (unspent : frame.Unspent s)
    (same : ∀ requestId, frame.underWay = some requestId → s'.performedCount requestId = s.performedCount requestId) :
    frame.Unspent s' := by
  cases frame with
  | callProvider q caller => exact (same q.id rfl).trans unspent
  | settleAttempt q result caller => exact fun rejected => (same q.id rfl).trans (unspent rejected)
  | _ => trivial

/-- What the restriction says of a call. -/
theorem NoGuess.call {caller : Caller} {descriptor : ProviderDescriptor} {task : Nat} {rest : List Frame}
    {result : ProviderOperationResult} (ok : NoGuess settings c (.run task input))
    (atTask : c.tasks[task]? = some (.callProvider q caller :: rest))
    (known : settings.descriptor q.provider = some descriptor)
    (answered : providerAnswer (createOperation descriptor input.weather).result = .ok result)
    (rejected : result.accepted = false) : (createOperation descriptor input.weather).performed = 0 := by
  have checked := Restriction.frames_run ok atTask
  simp only [known, Option.all_some, answered, rejected, Bool.or_false, decide_eq_true_eq] at checked
  exact checked

/-- What the restriction says of the beginning of an attempt. -/
theorem NoGuess.begins {task : Nat} {rest : List Frame} (ok : NoGuess settings c (.run task input))
    (atTask : c.tasks[task]? = some (frame :: rest)) (begun : frame.beginsAttempt = some requestId) :
    c.state.performedCount requestId = 0 ∧ ∀ other ∈ c.frames, other.underWay ≠ some requestId := by
  have checked := Restriction.frames_run ok atTask
  cases frame <;> cases begun <;>
    simpa only [Frame.beginsAttempt, Option.all_some, Bool.and_eq_true, List.all_eq_true, decide_eq_true_eq] using checked

theorem Idle.underWay (idle : Idle pushed) : pushed.filterMap Frame.underWay = [] :=
  List.filterMap_eq_nil_iff.mpr fun next member => Frame.underWay_of_idle (idle next member)

/-- Every attempt under way that may still fail is one of a request for which
the provider has carried out nothing. -/
theorem reachable_unspent (reach : ReachableUnder settings (NoGuess settings) c) :
    ∀ frame ∈ c.frames, frame.Unspent c.state := by
  refine (reach.holder_invariant Frame.underWay (fun _ => True) Frame.Unspent ⟨trivial, rfl⟩ ?_ ?_).2.1
  · intro state frame _ entry
    have idle : frame.attempts = none := by cases frame <;> first | rfl | cases entry
    exact ⟨Frame.underWay_of_idle idle, Frame.unspent_of_idle idle⟩
  · intro c task input frame rest state pushed others _ unspent distinct ok atTask perm ran
    have step : RequestStep settings input frame c.state state pushed := Frame.requestStep ran
    have top := unspent frame (List.mem_cons_self ..)
    have alone : (others.filterMap Frame.underWay).Nodup :=
      ((List.sublist_cons_self frame others).filterMap _).nodup distinct
    -- the call is of a request that no other frame has under way
    have kept : ∀ other ∈ others, other.Unspent state := by
      intro other member
      refine (unspent other (List.mem_cons_of_mem _ member)).keep fun id mine => ?_
      refine step.performedCount_same fun q caller here same => ?_
      subst here
      have apart : (q.id :: others.filterMap Frame.underWay).Nodup := distinct
      exact (List.nodup_cons.mp apart).1 (List.mem_filterMap.mpr ⟨other, member, same ▸ mine⟩)
    have idles : Idle pushed → True ∧ (∀ other ∈ pushed ++ others, other.Unspent state) ∧
        ((pushed ++ others).filterMap Frame.underWay).Nodup := by
      intro idle
      refine ⟨trivial, fun other member => ?_, ?_⟩
      · rcases List.mem_append.mp member with new | old
        · exact Frame.unspent_of_idle (idle other new)
        · exact kept other old
      · rw [List.filterMap_append, idle.underWay]
        exact alone
    have attempts (next : Frame) (only : pushed = [next]) (unspent : next.Unspent state)
        (fresh : ∀ other ∈ others, ∀ id, next.underWay = some id → other.underWay ≠ some id) :
        True ∧ (∀ other ∈ pushed ++ others, other.Unspent state) ∧
          ((pushed ++ others).filterMap Frame.underWay).Nodup := by
      subst only
      refine ⟨trivial, ?_, ?_⟩
      · rintro other (_ | ⟨_, old⟩)
        · exact unspent
        · exact kept other old
      · cases mine : next.underWay with
        | none => simpa [mine] using alone
        | some id => simpa [mine] using ⟨fun other member => fresh other member id mine, alone⟩
    cases step with
    | quiet _ _ _ idle => exact idles idle
    | creates => exact attempts _ rfl trivial fun _ _ id none => by cases none
    | @claims old new caller begun _ wrote history =>
      have begins : frame.beginsAttempt = some old.id := by rcases begun with rfl | ⟨rfl, _⟩ <;> rfl
      obtain ⟨nothing, apart⟩ := ok.begins atTask begins
      have count : state.performedCount new.id = 0 := by rw [State.performedCount_same history, wrote.id, nothing]
      refine attempts _ rfl count fun other member id mine same => ?_
      cases mine
      exact apart other (perm.mem_iff.mpr (List.mem_cons_of_mem _ member)) (wrote.id ▸ same)
    | @calls q caller descriptor _ here known requests history next =>
      subst here
      have before : c.state.performedCount q.id = 0 := top
      rcases next with ⟨e, rfl⟩ | ⟨result, rfl, answered⟩
      · exact idles (by simp [Idle, Frame.attempts])
      · refine attempts _ rfl (fun rejected => ?_) fun other member id mine same => ?_
        · rw [State.performedCount_append q.id history, ok.call atTask known answered rejected, before]
          simp [Event.operations]
        · have apart : (q.id :: others.filterMap Frame.underWay).Nodup := distinct
          cases mine
          exact (List.nodup_cons.mp apart).1 (List.mem_filterMap.mpr ⟨other, member, same⟩)
    | settles => exact idles (idle_afterAttempt _ _ _)
    | retries => exact idles (by simp [Idle])
    | reports _ _ _ _ _ idle => exact idles idle

/-- A settlement that fails a request applies an answer that was not accepted. -/
theorem RequestDispatcher.settle_failed {policy : RetryPolicy} {result : ProviderOperationResult} {actor : Actor}
    {now : Instant} {jitter : Rat} {settled : IntegrationRequest} {records : List RequestRecord}
    (run : settle policy q result actor now jitter = .ok (settled, records)) (before : q.status ≠ .failed)
    (failed : settled.status = .failed) : result.accepted = false := by
  unfold settle at run
  split at run
  · exact absurd ((recordSuperseded_kept run).status.symm.trans failed) before
  · split at run
    · obtain ⟨target, member, moved⟩ := applyAcceptance_moved run
      rw [← moved.status, failed] at member
      simp at member
    · rename_i rejected
      simpa using rejected

/-- Failure is no guess, over every run that leaves none: an attempt whose
settlement moves its request to `failed` is one of a request for which the
provider carried nothing out. -/
theorem failure_without_operation (reach : ReachableUnder settings (NoGuess settings) c) {task : Nat}
    {rest : List Frame} {result : ProviderOperationResult} {caller : Caller} {current settled : IntegrationRequest}
    (settles : c.tasks[task]? = some (.settleAttempt q result caller :: rest))
    (next : (orchestrator settings).next c (.run task input) = some c')
    (before : c.state.db.requests.get q.id = some current) (unfailed : current.status ≠ .failed)
    (after : c'.state.db.requests.get q.id = some settled) (failed : settled.status = .failed) :
    c.state.performedCount q.id = 0 := by
  have unspent := reachable_unspent reach _ (TaskPool.mem_frames_of_task settles (List.mem_cons_self ..))
  refine unspent ?_
  have unchanged : c'.state.db.requests = c.state.db.requests → result.accepted = false := by
    intro same
    rw [same, before] at after
    cases after
    exact absurd failed unfailed
  rcases TaskPool.next_cases next with ⟨_, spawns, _⟩ |
    ⟨_, _, frame, _, state, pushed, same, atTask, ran, rfl⟩ | ⟨_, _, _, _, _, _, _, _, rfl⟩
  · cases spawns
  · cases same
    cases settles.symm.trans atTask
    obtain ⟨row, found, run⟩ := Rows.bind_eq_ok.mp ran
    obtain ⟨stored, id⟩ := State.request_ok found
    cases before.symm.trans stored
    obtain ⟨⟨written, records⟩, outcome, run⟩ := Rows.bind_eq_ok.mp run
    obtain ⟨saved, wrote, done⟩ := Rows.bind_eq_ok.mp run
    cases done
    unfold Frame.savedSettlement at wrote
    split at wrote
    · have same : written.id = current.id := by
        rcases settle_cases outcome with ⟨_, kept⟩ | ⟨_, _, _, moved, _⟩
        · exact kept.id
        · exact moved.id
      obtain ⟨wrote, _⟩ := State.savedRequest_ok wrote (id.symm ▸ stored) same
      rw [wrote.get, if_pos id.symm] at after
      cases after
      exact settle_failed outcome unfailed failed
    · cases wrote
      exact unchanged rfl
  · exact unchanged rfl

namespace Sample

/-- The provider call of `task` ends so, whether or not it was carried out. -/
def ends (task : Nat) (now : Instant) (performed : Bool) (outcome : AdapterOutcome) : Action :=
  .run task { Sample.input now 0 outcome with weather := { call := fun _ => ⟨performed, outcome⟩ } }

/-- The provider rejects the request. -/
def rejection : AdapterOutcome := .refused
  { code := "provider_rejected_request", message := "the provider rejected the request"
    category := .providerValidation, retryable := false }

/-- A success whose body is not JSON. -/
def malformed : AdapterOutcome := .refused
  { code := "provider_response_malformed", message := "the provider returned a body that is not valid JSON"
    category := .providerUnavailable, retryable := false }

/-- A workflow of one step, up to its first provider call, which ends so. -/
def firstCall (performed : Bool) (outcome : AdapterOutcome) : List Action :=
  .spawn (start [stage "only" []] none) :: work 0 1 100 2 ++ work 0 2 200 3 ++ [ends 0 3 performed outcome]

/-- The next step of `task` settles an attempt and fails its request, for
which the provider carried out so many operations. -/
def failsNext (task count : Nat) (c : Config) : Bool := match c.tasks[task]? with
  | some (Frame.settleAttempt q _ _ :: _) => c.state.performedCount q.id = count &&
    (c.state.db.requests.get q.id).any (·.status ≠ .failed) &&
    ((orchestrator Sample.settings).next c (.run task (Sample.input 200000000 0 .crashed))).any fun (c' : Config) =>
      (c'.state.db.requests.get q.id).any (·.status = .failed)
  | _ => false

/-- A reachable attempt that fails its request so. -/
def Fails (allowed : Restriction) (task count : Nat) : Prop :=
  ∃ c c' q result caller rest current settled, ReachableUnder Sample.settings allowed c ∧
    c.tasks[task]? = some (.settleAttempt q result caller :: rest) ∧
    (orchestrator Sample.settings).next c (.run task (Sample.input 200000000 0 .crashed)) = some c' ∧
    c.state.db.requests.get q.id = some current ∧ current.status ≠ .failed ∧
    c'.state.db.requests.get q.id = some settled ∧ settled.status = .failed ∧ c.state.performedCount q.id = count

theorem fails_of_replay (allowed : Restriction) [∀ c a, Decidable (allowed c a)] (actions : List Action)
    (task count : Nat) (passes : ∃ c, (orchestrator Sample.settings).replay (fun c a => decide (allowed c a))
      Config.initial actions = some c ∧ failsNext task count c = true) : Fails allowed task count := by
  obtain ⟨c, reach, found⟩ := reachableUnder_replay Sample.settings allowed actions _ passes
  unfold failsNext at found
  split at found
  · rename_i q result caller rest atTask
    simp only [Option.any_eq_true, Bool.and_eq_true, decide_eq_true_eq] at found
    obtain ⟨⟨counted, current, before, unfailed⟩, c', next, settled, after, failed⟩ := found
    exact ⟨c, c', q, result, caller, rest, current, settled, reach, atTask, next, before, unfailed, after, failed, counted⟩
  · cases found

end Sample

/-- A timeout after which the provider carried the operation out is followed
by a rejection of the second attempt; and a first attempt is answered with a
success that cannot be read. Both fail a request that has an operation. -/
theorem failure_is_guessed : Sample.Fails (fun _ _ => True) 1 1 ∧ Sample.Fails (fun _ _ => True) 0 1 := by
  refine ⟨Sample.fails_of_replay _ (Sample.firstCall true (.lost .timeout) ++ Sample.work 0 4 300 3 ++
    .spawn (.claimRetry 200) :: Sample.work 1 100000000 0 1 ++
    [Sample.ends 1 100000000 false Sample.rejection]) 1 1 ?_,
    Sample.fails_of_replay _ (Sample.firstCall true Sample.malformed) 0 1 ?_⟩ <;> decide +kernel

/-- A rejected first attempt. -/
theorem failure_without_operation_rejected : Sample.Fails (NoGuess Sample.settings) 0 0 := by
  obtain ⟨c, c', q, result, caller, rest, current, settled, reach, atTask, next, before, unfailed, after, failed, _⟩ :=
    Sample.fails_of_replay (NoGuess Sample.settings) (Sample.firstCall false Sample.rejection) 0 0 (by decide +kernel)
  exact ⟨c, c', q, result, caller, rest, current, settled, reach, atTask, next, before, unfailed, after, failed,
    failure_without_operation reach atTask next before unfailed after failed⟩

end IntegrationOrchestrator
