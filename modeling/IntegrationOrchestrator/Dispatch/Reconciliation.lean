import IntegrationOrchestrator.Dispatch.LateSuccess
import IntegrationOrchestrator.System.Succession

namespace IntegrationOrchestrator

open IntegrationRequest RequestDispatcher

variable {settings : Settings} {input : Input} {s s' : State} {frame : Frame} {pushed : List Frame}
  {q q' : IntegrationRequest} {c c' : Config}

/-- The snapshot of the request the frame decides about, or has decided about. -/
def Frame.observes : Frame → Option IntegrationRequest
  | .reconcile q | .applyProviderState q _ | .escalateRequest q _ => some q
  | _ => none

/-- What the reconciliation bases its decision on, with the attempt it saw. -/
def IntegrationRequest.observed (q : IntegrationRequest) : RequestStatus × Option String × Int :=
  (q.status, q.providerReference, q.attemptCount)

/-- The step leaves what can be observed of the request, or ends it. -/
def State.leavesOrEnds (s s' : State) (requestId : UUID) : Bool :=
  (s'.db.requests.get requestId).map (·.observed) = (s.db.requests.get requestId).map (·.observed) ||
    (s'.db.requests.get requestId).any (·.status.isTerminal)

/-- The runs in which, from the snapshot to the locked write of a
reconciliation, no other unit of work changes the request but to end it. -/
def Undisturbed (settings : Settings) : Restriction := fun c a => match a with
  | .spawn _ => true
  | .run task input => (c.scheduled (.run task input)).all fun next =>
      match next.1.exec settings next.2 c.state with
      | .ok (s', _) => (c.others task).all fun other => other.observes.all fun q => c.state.leavesOrEnds s' q.id
      | .error _ => true

instance (settings : Settings) (c : Config) (a : Action) : Decidable (Undisturbed settings c a) := by
  unfold Undisturbed
  split <;> infer_instance

/-- The stored request is still what was observed, or has ended. -/
def IntegrationRequest.HeldIn (q : IntegrationRequest) (s : State) : Prop :=
  ∃ current, s.db.requests.get q.id = some current ∧
    (current.status.isTerminal = true ∨ current.observed = q.observed ∧ q.status ∈ reconcilableStatuses)

theorem IntegrationRequest.HeldIn.keep (held : q.HeldIn s) (leaves : s.leavesOrEnds s' q.id = true)
    (run : frame.exec settings input s = .ok (s', pushed)) : q.HeldIn s' := by
  obtain ⟨current, stored, state⟩ := held
  rw [State.leavesOrEnds, Bool.or_eq_true, Option.any_eq_true] at leaves
  rcases leaves with same | ⟨after, stored', ended⟩
  · rcases state with ended | ⟨observed, inFlight⟩
    · obtain ⟨after, stored', ended⟩ := (Frame.requestStep run).terminal stored ended
      exact ⟨after, stored', .inl ended⟩
    · rw [stored, Option.map_some, decide_eq_true_eq, Option.map_eq_some_iff] at same
      obtain ⟨after, stored', unchanged⟩ := same
      exact ⟨after, stored', .inr ⟨unchanged.trans observed, inFlight⟩⟩
  · exact ⟨after, stored', .inl ended⟩

theorem Frame.observes_of_isPlain (plain : frame.isPlain = true) : frame.observes = none := by
  cases frame <;> first | rfl | cases plain

theorem Frame.observes_of_entry (entry : frame.isEntry = true) : frame.observes = none := by
  cases frame <;> first | rfl | cases entry

/-- A pending decision is about a row found in flight, or goes back to one that is. -/
theorem Frame.pushed_observes (run : frame.exec settings input s = .ok (s', pushed)) {next : Frame}
    (member : next ∈ pushed) (observes : next.observes = some q) :
    s' = s ∧ (frame.observes = some q ∨ s.db.requests.get q.id = some q ∧ q.status ∈ reconcilableStatuses) := by
  cases leads run member with
  | plain plain =>
    rw [observes_of_isPlain plain] at observes
    cases observes
  | finds =>
    cases observes
    cases reportStep rfl run with
    | finds stored stale => cases List.mem_singleton.mp member; exact ⟨rfl, .inr ⟨stored, stale⟩⟩
    | rests | cancelled => cases member
    | noted raises => obtain ⟨_, same⟩ := raises _ member; cases same
  | applies | escalates =>
    cases observes
    exact ⟨execReconcile_state run, .inl rfl⟩
  | _ => cases observes

/-- Whatever a reconciliation has in hand is still so in the store, unless the
request has ended. -/
theorem reachable_observed (reach : ReachableUnder settings (Undisturbed settings) c) :
    ∀ frame ∈ c.frames, ∀ q, frame.observes = some q → q.HeldIn c.state := by
  refine reach.beside_invariant (fun s frame => ∀ q, frame.observes = some q → q.HeldIn s) ?_ ?_ ?_
  · intro frame member
    cases member
  · intro s frame entry q observes
    rw [Frame.observes_of_entry entry] at observes
    cases observes
  · intro c task input frame rest s' pushed held allowed atTask run
    refine ⟨fun next member q observes => ?_, fun other beside q observes => ?_⟩
    · obtain ⟨rfl, again | ⟨stored, inFlight⟩⟩ := Frame.pushed_observes run member observes
      · exact held frame (TaskPool.mem_frames_top atTask) q again
      · exact ⟨q, stored, .inr ⟨rfl, inFlight⟩⟩
    · refine (held other (TaskPool.mem_others atTask beside) q observes).keep ?_ run
      have run : frame.exec settings input c.state = .ok (s', pushed) := run
      simp only [Undisturbed, TaskPool.Config.scheduled, atTask, Option.all_some, run, List.all_eq_true] at allowed
      simpa [observes] using allowed other beside

theorem applyNormalizedStatus_terminal {status : NormalizedStatus} {now : Instant} {reference : Option String}
    {failure : Option FailureDetail} (ended : q.status.isTerminal = true) :
    Mutator.call (applyNormalizedStatus status now reference failure) q = .ok (none, q) := by
  simp only [applyNormalizedStatus, Mutator.call_bind, Mutator.call_get, Except.bind]
  split
  · simp
  · rename_i target _
    have blocked : isForwardProgress q.status target = false := by
      simp [isForwardProgress, ended]
    simp [blocked]

/-- The reconciliation changes no request that has ended. -/
theorem Frame.observes_ended (run : frame.exec settings input s = .ok (s', pushed)) (observes : frame.observes = some q)
    (stored : s.db.requests.get q.id = some q') (ended : q'.status.isTerminal = true) :
    s'.db.requests = s.db.requests := by
  cases frame <;> cases observes
  case reconcile => rw [execReconcile_state run]
  case applyProviderState result =>
    obtain ⟨current, found, run⟩ := Rows.bind_eq_ok.mp run
    obtain ⟨here, _⟩ := State.request_ok found
    cases stored.symm.trans here
    obtain ⟨⟨made, _⟩, applied, run⟩ := Rows.bind_eq_ok.mp run
    rw [applyNormalizedStatus_terminal ended] at applied
    cases applied
    cases run
    rfl
  case escalateRequest reason =>
    obtain ⟨current, found, run⟩ := Rows.bind_eq_ok.mp run
    obtain ⟨here, _⟩ := State.request_ok found
    cases stored.symm.trans here
    rw [ended, Bool.or_true, if_pos rfl] at run
    cases run
    rfl

/-- The reconciliation acts only on what it observed, in these runs: when it
changes a request, the stored one is in flight and has the status, the
reference and the attempt of the snapshot. -/
theorem reconciliation_acts_on_observed {task : Nat} {rest : List Frame}
    (reach : ReachableUnder settings (Undisturbed settings) c) (atTask : c.tasks[task]? = some (frame :: rest))
    (observes : frame.observes = some q) (next : (orchestrator settings).next c (.run task input) = some c')
    (changed : c'.state.db.requests ≠ c.state.db.requests) :
    ∃ current, c.state.db.requests.get q.id = some current ∧ current.status ∈ reconcilableStatuses ∧
      current.status = q.status ∧ current.providerReference = q.providerReference ∧
      current.attemptCount = q.attemptCount := by
  rcases TaskPool.next_cases next with ⟨_, other, _⟩ | ⟨_, _, _, _, s', pushed, same, here, run, rfl⟩ |
    ⟨_, _, _, _, _, same, _, _, rfl⟩
  · cases other
  · cases same
    cases atTask.symm.trans here
    have member := TaskPool.mem_frames_of_task atTask (List.mem_cons_self ..)
    obtain ⟨current, stored, ended | ⟨observed, inFlight⟩⟩ := reachable_observed reach frame member q observes
    · exact absurd (Frame.observes_ended run observes stored ended) changed
    · simp only [IntegrationRequest.observed, Prod.mk.injEq] at observed
      obtain ⟨status, reference, attempt⟩ := observed
      exact ⟨current, stored, status ▸ inFlight, status, reference, attempt⟩
  · exact absurd rfl changed

namespace Sample

/-- A client's request is dispatched, and the reconciliation finds it in flight
without a reference for too long. -/
def foundStale : List Action :=
  .spawn create :: work 0 1 200 2 ++ .spawn (.findStale 200) :: work 1 100000000 0 2

/-- The attempt then ends in a timeout and is scheduled for another try. -/
def rescheduledMeanwhile : List Action :=
  foundStale ++ answer 0 100000001 (.lost .timeout) :: work 0 100000002 0 1

/-- The attempt then ends with the provider's acceptance. -/
def linkedMeanwhile : List Action :=
  foundStale ++ answer 0 100000001 (answered .pending "op-1") :: work 0 100000002 0 1

/-- The second task holds a decision about a request seen in dispatch without a reference. -/
def decided (c : Config) : Bool := match c.tasks[1]? with
  | some (frame :: _) => frame.observes.any fun q =>
      q.id = 200 && q.status = .dispatching && q.providerReference = none
  | _ => false

theorem decided_iff (found : decided c = true) :
    ∃ frame rest q, c.tasks[1]? = some (frame :: rest) ∧ frame.observes = some q ∧ q.id = 200 ∧
      q.status = .dispatching ∧ q.providerReference = none := by
  unfold decided at found
  split at found
  · rename_i frame rest atTask
    simp only [Option.any_eq_true, Bool.and_eq_true, decide_eq_true_eq] at found
    obtain ⟨q, observes, ⟨id, status⟩, reference⟩ := found
    exact ⟨frame, rest, q, atTask, observes, id, status, reference⟩
  · cases found

end Sample

/-- The reconciliation escalates a request that has meanwhile been scheduled
for a retry, and one that has meanwhile been given its reference. -/
theorem stale_decision_applied :
    (∃ c c', Reachable Sample.settings c ∧
      (∃ frame rest q, c.tasks[1]? = some (frame :: rest) ∧ frame.observes = some q ∧ q.id = 200 ∧
        q.status = .dispatching ∧ q.providerReference = none) ∧
      (∃ current, c.state.db.requests.get 200 = some current ∧ current.status = .retryScheduled) ∧
      (orchestrator Sample.settings).next c (.run 1 (Sample.input 100000003 0 .crashed)) = some c' ∧
      ∃ current, c'.state.db.requests.get 200 = some current ∧ current.status = .manualReview) ∧
    ∃ c c', Reachable Sample.settings c ∧
      (∃ frame rest q, c.tasks[1]? = some (frame :: rest) ∧ frame.observes = some q ∧ q.id = 200 ∧
        q.status = .dispatching ∧ q.providerReference = none) ∧
      (∃ current, c.state.db.requests.get 200 = some current ∧ current.status = .pending ∧
        current.providerReference = some "op-1") ∧
      (orchestrator Sample.settings).next c (.run 1 (Sample.input 100000003 0 .crashed)) = some c' ∧
      ∃ current, c'.state.db.requests.get 200 = some current ∧ current.status = .manualReview := by
  constructor
  · obtain ⟨c, reach, decided, before, c', next, after⟩ := reachable_replay Sample.settings
      Sample.rescheduledMeanwhile (fun (c : Config) => Sample.decided c = true ∧
        (∃ current, c.state.db.requests.get 200 = some current ∧ current.status = .retryScheduled) ∧
        ∃ c', (orchestrator Sample.settings).next c (.run 1 (Sample.input 100000003 0 .crashed)) = some c' ∧
          ∃ current, c'.state.db.requests.get 200 = some current ∧ current.status = .manualReview) (by decide +kernel)
    exact ⟨c, c', reach, Sample.decided_iff decided, before, next, after⟩
  · obtain ⟨c, reach, decided, before, c', next, after⟩ := reachable_replay Sample.settings
      Sample.linkedMeanwhile (fun (c : Config) => Sample.decided c = true ∧
        (∃ current, c.state.db.requests.get 200 = some current ∧ current.status = .pending ∧
          current.providerReference = some "op-1") ∧
        ∃ c', (orchestrator Sample.settings).next c (.run 1 (Sample.input 100000003 0 .crashed)) = some c' ∧
          ∃ current, c'.state.db.requests.get 200 = some current ∧ current.status = .manualReview) (by decide +kernel)
    exact ⟨c, c', reach, Sample.decided_iff decided, before, next, after⟩

theorem reconciliation_acts_on_observed_stale :
    ∃ c c' current, ReachableUnder Sample.settings (Undisturbed Sample.settings) c ∧
      (orchestrator Sample.settings).next c (.run 1 (Sample.input 100000003 0 .crashed)) = some c' ∧
      (∃ current, c'.state.db.requests.get 200 = some current ∧ current.status = .manualReview) ∧
      c.state.db.requests.get 200 = some current ∧ current.status ∈ reconcilableStatuses ∧
      current.providerReference = none := by
  obtain ⟨c, reach, decided, ⟨before, stored, dispatching⟩, c', next, after, stored', review⟩ :=
    reachableUnder_replay Sample.settings (Undisturbed Sample.settings) Sample.foundStale
      (fun (c : Config) => Sample.decided c = true ∧
        (∃ before, c.state.db.requests.get 200 = some before ∧ before.status = .dispatching) ∧
        ∃ c', (orchestrator Sample.settings).next c (.run 1 (Sample.input 100000003 0 .crashed)) = some c' ∧
          ∃ after, c'.state.db.requests.get 200 = some after ∧ after.status = .manualReview) (by decide +kernel)
  obtain ⟨frame, rest, q, atTask, observes, id, _, reference⟩ := Sample.decided_iff decided
  have changed : c'.state.db.requests ≠ c.state.db.requests := by
    intro same
    rw [same, stored] at stored'
    cases stored'
    rw [dispatching] at review
    cases review
  obtain ⟨current, here, inFlight, _, linked, _⟩ :=
    reconciliation_acts_on_observed reach atTask observes next changed
  exact ⟨c, c', current, reach, next, ⟨after, stored', review⟩, id ▸ here, inFlight, linked.trans reference⟩

end IntegrationOrchestrator
