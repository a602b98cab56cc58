import IntegrationOrchestrator.Dispatch.AttemptIdentity
import IntegrationOrchestrator.Dispatch.LateSuccess
import IntegrationOrchestrator.System.Journal
import IntegrationOrchestrator.System.Succession

namespace IntegrationOrchestrator

open IntegrationRequest RequestDispatcher

variable {settings : Settings} {input : Input} {s s' : State} {frame : Frame} {pushed : List Frame}
  {q q' : IntegrationRequest} {requestId : UUID} {c c' : Config} {readings : WorkflowOrchestrator.Readings}

/-- The cancellation the provider has answered and the frame is to settle: the
request and the reference that was cancelled. -/
def Frame.cancels : Frame → Option (UUID × Option String)
  | .settleCancellation requestId reference _ _ _ => some (requestId, reference)
  | _ => none

/-- The runs in which a cancellation starts only when no create call of the
request is in flight, and no attempt of the request begins before the
cancellation is settled. -/
abbrev CancelsApart : Restriction := .frames fun c _ frame => match frame with
  | .cancelRequest requestId _ _ => c.frames.all fun other => ¬ other.calls requestId
  | frame => frame.beginsAttempt.all fun requestId =>
      c.frames.all fun other => other.cancels.all (·.1 ≠ requestId)

/-- No stored reference is empty. -/
def State.Named (s : State) : Prop :=
  ∀ requestId q, s.db.requests.get requestId = some q → q.providerReference ≠ some ""

/-- What becomes of one row's links. -/
theorem Journaled.links (journaled : Journaled readings frame s s') (stored : s.db.requests.get requestId = some q) :
    ∃ q', s'.db.requests.get requestId = some q' ∧ KeepsLinks q q' := by
  cases journaled with
  | noted requests => exact ⟨q, requests ▸ stored, .of_eq rfl rfl⟩
  | @born new _ _ fresh _ _ _ _ requests =>
    refine ⟨q, ?_, .of_eq rfl rfl⟩
    rw [requests, Table.get_put, if_neg, stored]
    rintro rfl
    rw [fresh] at stored
    cases stored
  | @wrote old new _ _ held journals _ requests =>
    rw [requests, Table.get_put, journals.id]
    split
    · rename_i same
      rw [same, held] at stored
      cases stored
      exact ⟨new, rfl, journals.toKeepsLinks⟩
    · exact ⟨q, stored, .of_eq rfl rfl⟩

theorem Journaled.named (journaled : Journaled readings frame s s') (named : s.Named) : s'.Named := by
  intro requestId q' stored'
  cases found : s.db.requests.get requestId with
  | some q =>
    obtain ⟨_, after, links⟩ := journaled.links found
    cases after.symm.trans stored'
    exact links.named (named requestId q found)
  | none =>
    rw [journaled.unlinked found stored']
    nofun

theorem State.Wrote.undispatched {old new : IntegrationRequest} (wrote : s.Wrote s' old new)
    (kept : old.status ≠ .dispatching → new.status ≠ .dispatching)
    (stored : s.db.requests.get requestId = some q) (idle : q.status ≠ .dispatching) :
    ∃ q', s'.db.requests.get requestId = some q' ∧ q'.status ≠ .dispatching := by
  rw [wrote.get]
  split
  · rename_i same
    subst same
    cases wrote.stored.symm.trans stored
    exact ⟨new, rfl, kept idle⟩
  · exact ⟨q, stored, idle⟩

/-- Nothing but the beginning of an attempt puts a request into dispatch. -/
theorem RequestStep.undispatched (step : RequestStep settings input frame s s' pushed)
    (stored : s.db.requests.get requestId = some q) (idle : q.status ≠ .dispatching)
    (apart : frame.beginsAttempt ≠ some requestId) :
    ∃ q', s'.db.requests.get requestId = some q' ∧ q'.status ≠ .dispatching := by
  cases step with
  | quiet _ same => exact ⟨q, same ▸ stored, idle⟩
  | creates _ fresh _ _ requests =>
    refine ⟨q, ?_, idle⟩
    rw [requests, Table.get_put, if_neg, stored]
    rintro rfl
    rw [fresh] at stored
    cases stored
  | @claims old new caller begun _ wrote =>
    have other : requestId ≠ old.id := by
      rintro rfl
      rcases begun with rfl | ⟨rfl, _⟩ <;> exact apart rfl
    refine ⟨q, ?_, idle⟩
    rw [wrote.get, if_neg other, stored]
  | calls _ _ same => exact ⟨q, same ▸ stored, idle⟩
  | settles _ _ _ _ _ written outcome =>
    rcases written with quiet | wrote
    · exact ⟨q, quiet.requests ▸ stored, idle⟩
    · refine wrote.undispatched (fun outside => ?_) stored idle
      rcases outcome with ⟨_, kept⟩ | ⟨attempt, _⟩
      · rw [kept.status]
        exact outside
      · exact absurd attempt outside
  | retries _ wrote moved =>
    refine wrote.undispatched (fun _ => ?_) stored idle
    rw [moved.status]
    nofun
  | reports _ wrote _ reported moved =>
    refine wrote.undispatched (fun _ => ?_) stored idle
    rw [moved.status]
    rintro rfl
    simp [Frame.reportedStatuses] at reported

/-- The row the frame is to cancel is not in dispatch, and its reference is
still the cancelled one, unless it has ended. -/
def Frame.CancelsStored (s : State) (frame : Frame) : Prop :=
  ∀ requestId reference, frame.cancels = some (requestId, reference) →
    truthy reference = true ∧ ∃ q, s.db.requests.get requestId = some q ∧
      (q.status.isTerminal = true ∨ q.status ≠ .dispatching ∧ q.providerReference = reference)

theorem Frame.CancelsStored.of_not_cancels (other : frame.cancels = none) : frame.CancelsStored s := by
  intro requestId reference cancels
  rw [other] at cancels
  cases cancels

theorem Frame.CancelsStored.keep {next : Frame} (holds : next.CancelsStored s)
    (run : frame.exec settings input s = .ok (s', pushed))
    (apart : ∀ requestId reference, next.cancels = some (requestId, reference) →
      frame.beginsAttempt ≠ some requestId) : next.CancelsStored s' := by
  intro requestId reference cancels
  obtain ⟨given, q, stored, held⟩ := holds requestId reference cancels
  have step := Frame.requestStep run
  refine ⟨given, ?_⟩
  rcases held with ended | ⟨idle, linked⟩
  · obtain ⟨q', after, ended⟩ := step.terminal stored ended
    exact ⟨q', after, .inl ended⟩
  · obtain ⟨q', after, idle'⟩ := step.undispatched stored idle (apart requestId reference cancels)
    obtain ⟨_, again, links⟩ := (Frame.journaled run).links stored
    cases after.symm.trans again
    refine ⟨q', after, ?_⟩
    rcases links.reference with same | unnamed | dispatching | succeeded
    · exact .inr ⟨idle', same.trans linked⟩
    · rw [linked, given] at unnamed
      cases unnamed
    · exact absurd dispatching idle
    · exact .inl (by rw [succeeded]; rfl)

theorem Frame.cancels_of_isPlain (plain : frame.isPlain = true) : frame.cancels = none := by
  cases frame <;> first | rfl | cases plain

theorem Frame.cancels_of_entry (entry : frame.isEntry = true) : frame.cancels = none := by
  cases frame <;> first | rfl | cases entry

theorem Frame.calls_of_cancels {other : UUID} {reference : Option String}
    (cancels : frame.cancels = some (requestId, reference)) : frame.calls other = false := by
  cases frame <;> first | rfl | cases cancels

/-- Only the cancel use case, once the provider has answered, leaves a
cancellation to settle. -/
theorem Frame.pushed_cancels (run : frame.exec settings input s = .ok (s', pushed)) {next : Frame}
    (member : next ∈ pushed) {reference : Option String} (cancels : next.cancels = some (requestId, reference)) :
    ∃ reason actor, frame = .cancelRequest requestId reason actor ∧ pushed = [next] ∧ s' = s ∧
      ∃ q, s.db.requests.get requestId = some q ∧ q.status ∈ cancellableStatuses ∧
        q.providerReference = reference ∧ reference ≠ none := by
  cases leads run member with
  | plain plain =>
    rw [cancels_of_isPlain plain] at cancels
    cases cancels
  | @cancels _ _ reason actor result =>
    cases cancels
    refine ⟨reason, actor, rfl, ?_⟩
    obtain ⟨q, found, run⟩ := Rows.bind_eq_ok.mp run
    obtain ⟨stored, _⟩ := State.request_ok found
    split at run
    · cases run
    · rename_i cancellable
      split at run
      · cases run
      · split at run
        · cases run
        · split at run
          · obtain ⟨_, _, run⟩ := Rows.bind_eq_ok.mp run
            obtain ⟨_, _, done⟩ := Rows.bind_eq_ok.mp run
            cases done
            cases member
          · rename_i known
            obtain ⟨_, _, done⟩ := Rows.bind_eq_ok.mp run
            cases done
            cases List.mem_singleton.mp member
            exact ⟨rfl, rfl, q, stored, not_not.mp cancellable, rfl, by simpa using known⟩
  | _ => cases cancels

theorem cancellable_undispatched (cancellable : q.status ∈ cancellableStatuses) : q.status ≠ .dispatching := by
  intro dispatching
  simp [dispatching, cancellableStatuses] at cancellable

/-- Every pending cancellation is of the row it read, unless the row has ended. -/
theorem reachable_cancelsStored (reach : ReachableUnder settings CancelsApart c) :
    c.state.Named ∧ ∀ frame ∈ c.frames, frame.CancelsStored c.state := by
  refine reach.pool_invariant State.Named (fun s frame => frame.CancelsStored s) ⟨?_, ?_⟩ ?_ ?_
  · intro requestId q stored
    cases stored
  · intro frame member
    cases member
  · intro s frame _ entry
    exact .of_not_cancels (Frame.cancels_of_entry entry)
  · intro c task input frame rest s' pushed named _ allowed atTask run
    refine ⟨(Frame.journaled run).named named, ?_, ?_⟩
    · intro next member requestId reference cancels
      obtain ⟨_, _, rfl, _, rfl, q, stored, cancellable, rfl, known⟩ := Frame.pushed_cancels run member cancels
      obtain ⟨text, given⟩ := Option.ne_none_iff_exists'.mp known
      have nonempty : text ≠ "" := by
        rintro rfl
        exact named requestId q stored given
      exact ⟨by simp [given, truthy, nonempty], q, stored, .inr ⟨cancellable_undispatched cancellable, rfl⟩⟩
    · intro other member holds
      refine holds.keep run fun requestId reference cancels begins => ?_
      have apart := Restriction.frames_run allowed atTask
      cases frame <;> cases begins
      all_goals
        simp only [Frame.beginsAttempt, Option.all_some, List.all_eq_true] at apart
        simpa [cancels] using apart other member

/-- No create call of a request is in flight while its cancellation is pending. -/
theorem reachable_cancelsApart (reach : ReachableUnder settings CancelsApart c) :
    ∀ first ∈ c.frames, ∀ second ∈ c.frames, ∀ requestId reference,
      first.cancels = some (requestId, reference) → second.calls requestId = false := by
  refine reach.pairs_invariant (fun first second => ∀ requestId reference,
    first.cancels = some (requestId, reference) → second.calls requestId = false) ?_ ?_ ?_
  · intro first member
    cases member
  · intro frame entry other
    refine ⟨fun requestId reference cancels => ?_, fun requestId _ _ => ?_⟩
    · rw [Frame.cancels_of_entry entry] at cancels
      cases cancels
    · cases frame <;> first | rfl | cases entry
  · intro c task input frame rest s' pushed _ allowed atTask run new member
    have apart := Restriction.frames_run allowed atTask
    refine ⟨fun other here => ⟨?_, ?_⟩, ?_⟩
    · intro requestId reference cancels
      obtain ⟨_, _, rfl, _⟩ := Frame.pushed_cancels run member cancels
      simpa using List.all_eq_true.mp apart other here
    · intro requestId reference cancels
      cases Frame.leads run member with
      | plain plain => cases new <;> first | rfl | cases plain
      | claims | retries =>
        simp only [Frame.beginsAttempt, Option.all_some, List.all_eq_true] at apart
        have other := apart other here
        simp only [cancels, Option.all_some, decide_eq_true_eq] at other
        simpa [Frame.calls] using Ne.symm other
      | _ => rfl
    · intro other here requestId reference cancels
      obtain ⟨_, _, _, rfl, _⟩ := Frame.pushed_cancels run member cancels
      cases List.mem_singleton.mp here
      exact Frame.calls_of_cancels cancels

theorem settleCancellation_ended {reason : Option String} {actor : Actor} {result : ProviderOperationResult}
    (run : Frame.execSettleCancellation requestId reason actor result input s = .ok (s', pushed))
    (stored : s.db.requests.get requestId = some q) (ended : q.status.isTerminal = true) :
    s'.db.requests = s.db.requests := by
  obtain ⟨current, found, run⟩ := Rows.bind_eq_ok.mp run
  obtain ⟨here, _⟩ := State.request_ok found
  cases stored.symm.trans here
  rw [if_pos ended] at run
  cases run
  rfl

/-- Cancellation and dispatch exclude each other in these runs: a request is
marked cancelled after the provider was contacted only while no create call of
it is in flight, and the reference that was cancelled is the stored one. -/
theorem cancellation_excludes_dispatch {task : Nat} {reference reason : Option String} {actor : Actor}
    {result : ProviderOperationResult} {rest : List Frame} (reach : ReachableUnder settings CancelsApart c)
    (atTask : c.tasks[task]? = some (.settleCancellation requestId reference reason actor result :: rest))
    (next : (orchestrator settings).next c (.run task input) = some c')
    (stored : c.state.db.requests.get requestId = some q) (unmarked : q.status ≠ .cancelled)
    (stored' : c'.state.db.requests.get requestId = some q') (marked : q'.status = .cancelled) :
    (∀ frame ∈ c.frames, frame.calls requestId = false) ∧ q.providerReference = reference ∧
      q'.providerReference = reference := by
  have member := TaskPool.mem_frames_of_task atTask (List.mem_cons_self ..)
  refine ⟨fun frame here => reachable_cancelsApart reach _ member frame here requestId reference rfl, ?_⟩
  have changed : c'.state.db.requests ≠ c.state.db.requests := by
    intro same
    rw [same, stored] at stored'
    cases stored'
    exact unmarked marked
  rcases TaskPool.next_cases next with ⟨_, other, _⟩ | ⟨_, _, frame, _, s', pushed, same, here, run, rfl⟩ |
    ⟨_, _, _, _, _, same, _, _, rfl⟩
  · cases other
  · cases same
    cases atTask.symm.trans here
    have run : Frame.exec settings (.settleCancellation requestId reference reason actor result) input c.state =
      .ok (s', pushed) := run
    obtain ⟨given, _, again, held⟩ := (reachable_cancelsStored reach).2 _ member requestId reference rfl
    cases stored.symm.trans again
    rcases held with ended | ⟨idle, linked⟩
    · exact absurd (settleCancellation_ended run stored ended) changed
    · obtain ⟨_, after, links⟩ := (Frame.journaled run).links stored
      cases after.symm.trans stored'
      refine ⟨linked, ?_⟩
      rcases links.reference with same | unnamed | dispatching | succeeded
      · exact same.trans linked
      · rw [linked, given] at unnamed
        cases unnamed
      · exact absurd dispatching idle
      · rw [succeeded] at marked
        cases marked
  · exact absurd rfl changed

namespace Sample

/-- An accepted operation is reported failed; a client cancels the request, and
the provider answers that it cancelled the operation. -/
def cancelling : List Action :=
  accepted ++ .spawn (report .failed "op-1") :: work 1 4 0 3 ++
    [.spawn (.cancelRequest 200 none { type := .apiClient }), answer 2 5 (answered .cancelled "op-1")]

/-- Before the cancellation is settled, an operator retries the request and the
retry worker claims it. -/
def retriedMeanwhile : List Action :=
  cancelling ++ .spawn (.retryRequest 200 { type := .apiClient }) :: work 3 6 0 1 ++
    .spawn (.claimRetry 200) :: work 4 7 0 1

/-- The second attempt is accepted under a new reference. -/
def acceptedMeanwhile : List Action :=
  retriedMeanwhile ++ answer 4 8 (answered .pending "op-2") :: work 4 9 0 1

/-- The pending cancellation of the request by the third task is of this reference. -/
def cancelsReference (c : Config) (reference : String) : Bool := match c.tasks[2]? with
  | some (frame :: _) => frame.cancels = some (200, some reference)
  | _ => false

theorem cancelsReference_iff {reference : String} (cancelling : cancelsReference c reference = true) :
    ∃ reason actor result rest,
      c.tasks[2]? = some (.settleCancellation 200 (some reference) reason actor result :: rest) := by
  unfold cancelsReference at cancelling
  split at cancelling
  · rename_i frame rest atTask
    rw [atTask]
    cases frame <;> simp_all [Frame.cancels]
  · cases cancelling

end Sample

/-- A request is marked cancelled while a create call of it is in flight, and
one after the operation that was cancelled has been replaced by another. -/
theorem cancelled_while_dispatched :
    (∃ c c', Reachable Sample.settings c ∧
      (∃ reason actor result rest,
        c.tasks[2]? = some (.settleCancellation 200 (some "op-1") reason actor result :: rest)) ∧
      (∃ frame ∈ c.frames, frame.calls 200 = true) ∧
      (orchestrator Sample.settings).next c (.run 2 (Sample.input 10 0 .crashed)) = some c' ∧
      (∃ q, c.state.db.requests.get 200 = some q ∧ q.status = .dispatching) ∧
      ∃ q', c'.state.db.requests.get 200 = some q' ∧ q'.status = .cancelled) ∧
    ∃ c c', Reachable Sample.settings c ∧
      (∃ reason actor result rest,
        c.tasks[2]? = some (.settleCancellation 200 (some "op-1") reason actor result :: rest)) ∧
      (orchestrator Sample.settings).next c (.run 2 (Sample.input 10 0 .crashed)) = some c' ∧
      (∃ q, c.state.db.requests.get 200 = some q ∧ q.status = .pending) ∧
      ∃ q', c'.state.db.requests.get 200 = some q' ∧ q'.status = .cancelled ∧
        q'.providerReference = some "op-2" := by
  constructor
  · obtain ⟨c, reach, cancelling, calling, before, c', next, after⟩ := reachable_replay Sample.settings
      Sample.retriedMeanwhile (fun (c : Config) => Sample.cancelsReference c "op-1" = true ∧
        (∃ frame ∈ c.frames, frame.calls 200 = true) ∧
        (∃ q, c.state.db.requests.get 200 = some q ∧ q.status = .dispatching) ∧
        ∃ c', (orchestrator Sample.settings).next c (.run 2 (Sample.input 10 0 .crashed)) = some c' ∧
          ∃ q', c'.state.db.requests.get 200 = some q' ∧ q'.status = .cancelled) (by decide +kernel)
    exact ⟨c, c', reach, Sample.cancelsReference_iff cancelling, calling, next, before, after⟩
  · obtain ⟨c, reach, cancelling, before, c', next, after⟩ := reachable_replay Sample.settings
      Sample.acceptedMeanwhile (fun (c : Config) => Sample.cancelsReference c "op-1" = true ∧
        (∃ q, c.state.db.requests.get 200 = some q ∧ q.status = .pending) ∧
        ∃ c', (orchestrator Sample.settings).next c (.run 2 (Sample.input 10 0 .crashed)) = some c' ∧
          ∃ q', c'.state.db.requests.get 200 = some q' ∧ q'.status = .cancelled ∧
            q'.providerReference = some "op-2") (by decide +kernel)
    exact ⟨c, c', reach, Sample.cancelsReference_iff cancelling, next, before, after⟩

/-- A client cancels an operation that failed, and nobody retries it meanwhile. -/
theorem cancellation_excludes_dispatch_failed :
    ∃ c c' q, ReachableUnder Sample.settings CancelsApart c ∧
      (orchestrator Sample.settings).next c (.run 2 (Sample.input 10 0 .crashed)) = some c' ∧
      c'.state.db.requests.get 200 = some q ∧ q.status = .cancelled ∧ q.providerReference = some "op-1" ∧
      ∀ frame ∈ c.frames, frame.calls 200 = false := by
  obtain ⟨c, reach, cancelling, ⟨q, stored, unmarked⟩, c', next, q', stored', marked⟩ := reachableUnder_replay
    Sample.settings CancelsApart Sample.cancelling (fun (c : Config) => Sample.cancelsReference c "op-1" = true ∧
      (∃ q, c.state.db.requests.get 200 = some q ∧ q.status ≠ .cancelled) ∧
      ∃ c', (orchestrator Sample.settings).next c (.run 2 (Sample.input 10 0 .crashed)) = some c' ∧
        ∃ q', c'.state.db.requests.get 200 = some q' ∧ q'.status = .cancelled) (by decide +kernel)
  obtain ⟨reason, actor, result, rest, atTask⟩ := Sample.cancelsReference_iff cancelling
  obtain ⟨uncalled, _, linked⟩ :=
    cancellation_excludes_dispatch reach atTask next stored unmarked stored' marked
  exact ⟨c, c', q', reach, next, stored', marked, linked, uncalled⟩

end IntegrationOrchestrator
