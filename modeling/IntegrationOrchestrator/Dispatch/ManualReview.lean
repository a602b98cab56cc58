import IntegrationOrchestrator.Dispatch.Reconciliation
import IntegrationOrchestrator.Dispatch.RetryBound
import IntegrationOrchestrator.Entities.ProviderReports

namespace IntegrationOrchestrator

open IntegrationRequest RequestDispatcher

variable {settings : Settings} {input : Input} {s s' : State} {frame : Frame} {pushed : List Frame}
  {q q' : IntegrationRequest} {requestId : UUID} {c c' : Config}

/-! ### Who writes a row from outside an attempt -/

/-- The request that the frame reports about, and what it reports. -/
def Frame.reports (s : State) : Frame → Option (UUID × NormalizedStatus)
  | .applyProviderState request result => some (request.id, result.normalizedStatus)
  | .processWebhook event =>
    if truthy event.providerReference then
      (s.db.requestByProviderReference event.provider (event.providerReference.getD "")).map fun q =>
        (q.id, event.normalizedStatus)
    else none
  | _ => none

/-- The frame reports an outcome of the request's operation. -/
def Frame.tells (s : State) (requestId : UUID) (frame : Frame) : Bool :=
  (frame.reports s).any fun report => report.1 = requestId && report.2.isFinal

/-- Why a report frame writes the row `q`, and the status it writes. -/
inductive ReportWrite (frame : Frame) (s : State) (q q' : IntegrationRequest) : RequestStatus → Prop
  | commanded : frame.commands q.id = true → q'.providerReference = q.providerReference →
      ReportWrite frame s q q' .cancelled
  | polled {request status target} : frame.observes = some request → request.id = q.id →
      frame.reports s = some (q.id, status) → projectNormalizedStatus status = some target →
      ReportWrite frame s q q' target
  | delivered {status target} : q.providerReference ≠ none → frame.reports s = some (q.id, status) →
      projectNormalizedStatus status = some target → ReportWrite frame s q q' target
  | escalated {request} : frame.observes = some request → request.id = q.id → q.status ≠ .manualReview →
      ReportWrite frame s q q' .manualReview

theorem Frame.commands_of_reports {report : UUID × NormalizedStatus} (reports : frame.reports s = some report) :
    frame.commands requestId = false := by
  cases frame <;> first | rfl | cases reports

theorem cancelled_reference {reason : Option String} {actor : Actor} {records : List RequestRecord} {now : Instant}
    (run : RequestDispatcher.recorded q (markCancelled now reason) .requestCancelled actor true = .ok (q', records)) :
    Moved q q' .cancelled ∧ q'.providerReference = q.providerReference := by
  obtain ⟨_, called⟩ := recorded_ok run
  refine ⟨moved_of_transitionThen called fun _ => ⟨rfl, rfl, rfl, rfl⟩, ?_⟩
  rw [markCancelled, call_transitionThen] at called
  split at called
  · cases called
    rfl
  · cases called

theorem requestByProviderReference_linked {provider : ProviderSlug} {reference : String}
    (found : s.db.requestByProviderReference provider reference = some q) : q.providerReference = some reference := by
  have test := List.find?_some found
  simp only [Bool.and_eq_true, decide_eq_true_eq] at test
  exact test.2

/-- Everything that writes a row through a report frame. -/
theorem Frame.report_writes (report : frame.isReport = true) (run : frame.exec settings input s = .ok (s', pushed)) :
    s'.db.requests = s.db.requests ∨ ∃ q q' target, s.Wrote s' q q' ∧ Moved q q' target ∧
      ReportWrite frame s q q' target := by
  cases reportStep report run with
  | cancelled commanded stored moved saved =>
    obtain ⟨moved, reference⟩ := cancelled_reference moved
    exact Or.inr ⟨_, _, _, (State.savedRequest_ok saved stored moved.id).1, moved, .commanded commanded reference⟩
  | escalated id stored open' moved saved =>
    have moved := escalate_moved moved
    exact Or.inr ⟨_, _, _, (State.savedRequest_ok saved stored moved.id).1, moved, .escalated rfl id open'⟩
  | polled id stored applied saved =>
    obtain ⟨target, projected, moved⟩ := moved_of_applyNormalizedStatus applied
    exact Or.inr ⟨_, _, _, (State.savedRequest_ok saved stored moved.id).1, moved,
      .polled rfl id (by rw [← id]; rfl) projected⟩
  | @delivered event q _ _ _ named found applied saved =>
    obtain ⟨target, projected, moved⟩ := moved_of_applyNormalizedStatus applied
    have stored := Database.requestByProviderReference_some found
    have linked : q.providerReference ≠ none := by simp [requestByProviderReference_linked found]
    have reported : (Frame.processWebhook event).reports s = some (q.id, event.normalizedStatus) := by
      rw [reports, if_pos named, found]
      rfl
    exact Or.inr ⟨_, _, _, (State.savedRequest_ok saved stored moved.id).1, moved, .delivered linked reported projected⟩
  | _ => exact Or.inl rfl

/-! ### Requests before their first attempt -/

/-- A request that has begun no attempt is new or cancelled, and its provider
does not know it. -/
structure IntegrationRequest.Accounted (q : IntegrationRequest) : Prop where
  nonneg : 0 ≤ q.attemptCount
  untried : q.attemptCount = 0 → (q.status = .received ∨ q.status = .cancelled) ∧ q.providerReference = none

def State.Accounted (s : State) : Prop := ∀ requestId q, s.db.requests.get requestId = some q → q.Accounted

/-- The frame carries a request that has begun an attempt: it acts for that
attempt, or on what the reconciliation saw in flight. -/
def Frame.Engaged (s : State) (frame : Frame) : Prop :=
  ∀ q, frame.attempt = some q ∨ frame.observes = some q →
    ∃ current, s.db.requests.get q.id = some current ∧ 1 ≤ current.attemptCount

theorem IntegrationRequest.Accounted.of_tried (tried : 1 ≤ q.attemptCount) : q.Accounted :=
  ⟨by omega, fun untried => by omega⟩

/-- Where only new and cancelled requests are without attempts, the others have
begun one. -/
theorem IntegrationRequest.Accounted.tried (held : q.Accounted) (new : q.status ≠ .received)
    (cancelled : q.status ≠ .cancelled) : 1 ≤ q.attemptCount := by
  have nonneg := held.nonneg
  by_contra none
  have untried : q.attemptCount = 0 := by omega
  exact (held.untried untried).1.elim new cancelled

theorem State.Accounted.same (held : s.Accounted) (requests : s'.db.requests = s.db.requests) : s'.Accounted := by
  intro requestId q stored
  exact held requestId q (requests ▸ stored)

theorem State.Accounted.wrote (held : s.Accounted) (wrote : s.Wrote s' q q') (kept : q.Accounted → q'.Accounted) :
    s'.Accounted := by
  intro requestId row stored
  rw [wrote.get] at stored
  split at stored
  · cases stored
    exact kept (held q.id q wrote.stored)
  · exact held requestId row stored

/-- A report leaves a request without attempts as it is, or cancels it on an
operator's command. -/
theorem ReportWrite.accounted {target : RequestStatus} (write : ReportWrite frame s q q' target)
    (moved : Moved q q' target) (stored : s.db.requests.get q.id = some q) (engaged : frame.Engaged s)
    (held : q.Accounted) : q'.Accounted := by
  have seen : ∀ request, frame.observes = some request → request.id = q.id → q'.Accounted := by
    intro request observes id
    obtain ⟨current, here, tried⟩ := engaged request (Or.inr observes)
    rw [id, stored] at here
    cases here
    exact .of_tried (moved.attemptCount ▸ tried)
  cases write with
  | commanded _ reference =>
    refine ⟨moved.attemptCount ▸ held.nonneg, fun untried => ⟨Or.inr moved.status, ?_⟩⟩
    exact reference.trans (held.untried (moved.attemptCount ▸ untried)).2
  | polled observes id => exact seen _ observes id
  | delivered linked =>
    refine ⟨moved.attemptCount ▸ held.nonneg, fun untried => ?_⟩
    exact absurd (held.untried (moved.attemptCount ▸ untried)).2 linked
  | escalated observes id => exact seen _ observes id

theorem State.Accounted.keep (held : s.Accounted) (engaged : frame.Engaged s)
    (run : frame.exec settings input s = .ok (s', pushed)) : s'.Accounted := by
  have step := Frame.requestStep run
  cases step with
  | quiet _ requests => exact held.same requests
  | @creates new caller extra _ fresh received unattempted requests =>
    intro requestId row stored
    by_cases here : requestId = new.id
    · have unlinked := (Frame.journaled run).unlinked (here ▸ fresh) stored
      rw [requests, Table.get_put, if_pos here] at stored
      cases stored
      exact ⟨unattempted.ge, fun _ => ⟨Or.inl received, unlinked⟩⟩
    · rw [requests, Table.get_put, if_neg here] at stored
      exact held requestId row stored
  | claims _ _ wrote _ _ _ attempts =>
    refine held.wrote wrote fun before => .of_tried ?_
    have nonneg := before.nonneg
    omega
  | calls _ _ requests => exact held.same requests
  | @settles attempt result caller current settled here stored id _ _ written outcome =>
    rcases written with quiet | wrote
    · exact held.same quiet.requests
    · obtain ⟨row, there, tried⟩ := engaged attempt (Or.inl (by rw [here]; rfl))
      rw [stored] at there
      cases there
      exact held.wrote wrote fun _ => .of_tried (tried.trans (RequestStep.settled_later outcome).attemptCount)
  | retries _ wrote moved =>
    refine held.wrote wrote fun before => .of_tried (moved.attemptCount ▸ before.tried ?_ ?_) <;>
    · intro status
      have allowed := moved.allowed
      rw [status] at allowed
      cases allowed
  | reports _ _ _ _ _ _ report =>
    rcases Frame.report_writes report run with same | ⟨q, q', target, wrote, moved, write⟩
    · exact held.same same
    · exact held.wrote wrote (write.accounted moved wrote.stored engaged)

theorem RequestStep.engaged (step : RequestStep settings input frame s s' pushed) {other : Frame}
    (engaged : other.Engaged s) : other.Engaged s' := by
  intro q carried
  obtain ⟨current, before, begun⟩ := engaged q carried
  obtain ⟨current', after, later⟩ := step.stored before
  exact ⟨current', after, begun.trans later.attemptCount⟩

theorem Frame.engaged_of_entry (entry : frame.isEntry = true) : frame.Engaged s := by
  intro q carried
  have idle : frame.attempt = none ∧ frame.observes = none := by
    cases frame <;> first | exact ⟨rfl, rfl⟩ | cases entry
  simp [idle] at carried

theorem RequestStep.attempt_pushed (step : RequestStep settings input frame s s' pushed) {next : Frame}
    (member : next ∈ pushed) (attempt : next.attempt = some q) :
    frame.attempt = some q ∨ s'.db.requests.get q.id = some q ∧
      ∃ old, s.db.requests.get old.id = some old ∧ q.attemptCount = old.attemptCount + 1 := by
  have idle : ∀ frame : Frame, frame.attempts = none → frame.attempt ≠ some q := by
    intro frame outside carried
    cases frame <;> simp [Frame.attempt, Frame.attempts] at carried outside
  cases step with
  | quiet _ _ _ pushes => exact absurd attempt (idle next (pushes next member))
  | creates =>
    cases List.mem_singleton.mp member
    cases attempt
  | @claims old new caller _ _ wrote _ _ _ attempts =>
    cases List.mem_singleton.mp member
    cases attempt
    exact Or.inr ⟨by rw [wrote.get, wrote.id, if_pos rfl], old, wrote.stored, attempts⟩
  | calls here _ _ _ pushes =>
    rcases pushes with ⟨_, rfl⟩ | ⟨_, rfl, _⟩
    · cases List.mem_singleton.mp member
      cases attempt
    · cases List.mem_singleton.mp member
      cases attempt
      exact Or.inl (by rw [here]; rfl)
  | settles => exact absurd attempt (idle next (idle_afterAttempt _ _ _ next member))
  | retries => cases member
  | reports _ _ _ _ _ pushes => exact absurd attempt (idle next (pushes next member))

/-- A frame that a committed frame leads to carries a request with an attempt. -/
theorem State.Accounted.engaged_pushed (held : s.Accounted) (engaged : frame.Engaged s)
    (run : frame.exec settings input s = .ok (s', pushed)) {next : Frame} (member : next ∈ pushed) :
    next.Engaged s' := by
  have step := Frame.requestStep run
  intro q carried
  have again : frame.attempt = some q ∨ frame.observes = some q →
      ∃ current, s'.db.requests.get q.id = some current ∧ 1 ≤ current.attemptCount := step.engaged engaged q
  rcases carried with attempt | observes
  · rcases step.attempt_pushed member attempt with before | ⟨stored, old, there, attempts⟩
    · exact again (Or.inl before)
    · have nonneg := (held old.id old there).nonneg
      exact ⟨q, stored, by omega⟩
  · obtain ⟨rfl, before | ⟨stored, inFlight⟩⟩ := Frame.pushed_observes run member observes
    · exact again (Or.inr before)
    · refine ⟨q, stored, (held q.id q stored).tried ?_ ?_⟩ <;>
      · intro status
        rw [status] at inFlight
        simp [reconcilableStatuses] at inFlight

/-- Over every run, only new and cancelled requests are without attempts. -/
theorem reachable_accounted (reach : Reachable settings c) : c.state.Accounted := by
  refine (reach.pool_invariant State.Accounted Frame.Engaged ⟨?_, ?_⟩ ?_ ?_).1
  · intro requestId q stored
    cases stored
  · intro frame member
    cases member
  · intro state frame _ entry
    exact Frame.engaged_of_entry entry
  · intro c task input frame rest state pushed held engaged _ atTask ran
    have top := engaged frame (TaskPool.mem_frames_top atTask)
    exact ⟨held.keep top ran, fun next member => held.engaged_pushed top ran member,
      fun other _ => (Frame.requestStep ran).engaged⟩

/-- The dispatch that follows the creation of a request is still to come only
while the request has begun no attempt. -/
theorem load_le_untried (reach : Reachable settings c) (requestId : UUID) :
    c.load (Frame.dispatches requestId) ≤ c.state.reads requestId IntegrationRequest.untried := by
  have bounded := load_le_untried_unless requestId (fun _ => 0) (fun _ => le_rfl) (fun reached stored waits =>
    .inl ((reachable_accounted reached requestId _ stored).tried (by simp [waits]) (by simp [waits]))) reach
  omega

/-! ### Leaving manual review -/

/-- An outcome that is reported about a reviewed request is applied. -/
theorem applyReport_leaves {status : NormalizedStatus} {reference : Option String}
    {error : Option ProviderErrorInfo} {changed unchanged : AuditAction} {actor : Actor} {next : List Frame}
    (stored : s.db.requests.get q.id = some q) (review : q.status = .manualReview) (final : status.isFinal = true)
    (run : Frame.applyReport s q status reference error changed unchanged actor next input = .ok (s', pushed)) :
    ∃ q', s'.db.requests.get q.id = some q' ∧ q'.status ≠ .manualReview := by
  obtain ⟨⟨made, q'⟩, applied, run⟩ := Rows.bind_eq_ok.mp run
  cases made with
  | none =>
    simp only [applyNormalizedStatus, Mutator.call_bind, Mutator.call_get, Except.bind, review] at applied
    cases status <;> try cases final
    all_goals
      obtain ⟨_, made, _⟩ := call_some_map applied
      cases made
  | some made =>
    obtain ⟨saved, wrote, done⟩ := Rows.bind_eq_ok.mp run
    cases done
    obtain ⟨target, projected, moved⟩ := moved_of_applyNormalizedStatus applied
    have wrote := (State.savedRequest_ok wrote stored moved.id).1
    refine ⟨q', by rw [wrote.get, if_pos rfl], ?_⟩
    rw [moved.status]
    rintro rfl
    cases status <;> cases projected

theorem Frame.tells_leaves (told : frame.tells s requestId = true) (stored : s.db.requests.get requestId = some q)
    (review : q.status = .manualReview) (run : frame.exec settings input s = .ok (s', pushed)) :
    ∃ q', s'.db.requests.get requestId = some q' ∧ q'.status ≠ .manualReview := by
  simp only [tells, Option.any_eq_true, Bool.and_eq_true, decide_eq_true_eq] at told
  obtain ⟨⟨reported, status⟩, reports, same, final⟩ := told
  dsimp only at same final
  subst same
  cases frame <;> try cases reports
  case applyProviderState request result =>
    obtain ⟨current, found, run⟩ := Rows.bind_eq_ok.mp run
    obtain ⟨here, id⟩ := State.request_ok found
    cases stored.symm.trans here
    rw [← id]
    exact applyReport_leaves (id.symm ▸ stored) review final run
  case processWebhook event =>
    simp only [exec, execProcessWebhook] at run
    rw [Frame.reports] at reports
    split at reports
    · rename_i named
      rw [if_neg (not_not.mpr named)] at run
      obtain ⟨current, found, same⟩ := Option.map_eq_some_iff.mp reports
      cases same
      have here := Database.requestByProviderReference_some found
      cases stored.symm.trans here
      simp only [found] at run
      exact applyReport_leaves here review final run
    · cases reports

/-- Nothing else than a command and a reported outcome moves a request out of
manual review. -/
theorem RequestStep.review_kept (step : RequestStep settings input frame s s' pushed)
    (run : frame.exec settings input s = .ok (s', pushed)) (stored : s.db.requests.get requestId = some q)
    (review : q.status = .manualReview) (undispatched : frame.dispatches requestId = 0)
    (uncommanded : frame.commands requestId = false) (untold : frame.tells s requestId = false) :
    ∃ q', s'.db.requests.get requestId = some q' ∧ q'.status = .manualReview := by
  have unchanged : s'.db.requests = s.db.requests → ∃ q', s'.db.requests.get requestId = some q' ∧
      q'.status = .manualReview := fun same => ⟨q, same ▸ stored, review⟩
  have written : ∀ {old new : IntegrationRequest}, s.Wrote s' old new →
      (requestId = old.id → old = q → new.status = .manualReview) →
      ∃ q', s'.db.requests.get requestId = some q' ∧ q'.status = .manualReview := by
    intro old new wrote kept
    rcases wrote.seen requestId with ⟨_, same⟩ | ⟨here, before, after⟩
    · exact ⟨q, same ▸ stored, review⟩
    · exact ⟨new, after, kept here (Option.some.inj (before.symm.trans stored))⟩
  cases step with
  | quiet _ same => exact unchanged same
  | creates _ fresh _ _ requests =>
    refine ⟨q, ?_, review⟩
    rw [requests, Table.get_put, if_neg, stored]
    rintro rfl
    exact absurd (fresh.symm.trans stored) (by simp)
  | claims begun _ wrote =>
    refine written wrote fun here same => ?_
    rcases begun with rfl | ⟨_, scheduled⟩
    · simp [Frame.dispatches, here] at undispatched
    · rw [same, review] at scheduled
      cases scheduled
  | calls _ _ same => exact unchanged same
  | settles _ _ _ _ _ saved outcome =>
    rcases saved with quiet | wrote
    · exact unchanged quiet.requests
    · refine written wrote fun _ same => ?_
      subst same
      rcases outcome with ⟨_, kept⟩ | ⟨dispatching, _⟩
      · exact kept.status.trans review
      · rw [review] at dispatching
        cases dispatching
  | retries here wrote =>
    refine written wrote fun same _ => ?_
    simp [here, Frame.commands, same] at uncommanded
  | reports _ _ _ _ _ _ report =>
    rcases Frame.report_writes report run with same | ⟨old, new, target, wrote, moved, write⟩
    · exact unchanged same
    · refine written wrote fun here same => ?_
      subst here
      subst same
      have outcome : ∀ status, frame.reports s = some (old.id, status) →
          projectNormalizedStatus status = some target → new.status = .manualReview := by
        intro status reports projected
        have allowed := moved.allowed
        rw [review] at allowed
        rw [Frame.tells, reports] at untold
        cases status with
        | accepted | pending =>
          cases projected
          cases allowed
        | succeeded | failed | cancelled => simp [NormalizedStatus.isFinal] at untold
        | unknown => cases projected
      cases write with
      | commanded commands => simp [commands] at uncommanded
      | polled _ _ reports projected => exact outcome _ reports projected
      | delivered _ reports projected => exact outcome _ reports projected
      | escalated _ _ open' => exact absurd review open'

/-- In every run and at every step, a request in manual review stays there
unless an operator's retry or cancellation moves it, exactly when the step does
not commit an outcome that a webhook or the reconciliation reports about it. -/
theorem manual_review_left_iff (reach : Reachable settings c) {a : Action}
    (step : (orchestrator settings).next c a = some c') (stored : c.state.db.requests.get requestId = some q)
    (review : q.status = .manualReview) :
    ((∃ q', c'.state.db.requests.get requestId = some q' ∧ q'.status = .manualReview) ∨
        ∃ frame input, c.scheduled a = some (frame, input) ∧ frame.commands requestId = true) ↔
      ¬ ∃ frame input, c.scheduled a = some (frame, input) ∧ frame.tells c.state requestId = true ∧
        (frame.exec settings input c.state).isOk = true := by
  rcases TaskPool.next_cases step with ⟨started, rfl, entry, rfl⟩ |
    ⟨task, input, frame, rest, state, pushed, rfl, atTask, ran, rfl⟩ |
    ⟨task, input, frame, rest, e, rfl, atTask, raised, rfl⟩
  · refine iff_of_true (Or.inl ⟨q, stored, review⟩) ?_
    rintro ⟨_, _, scheduled, _⟩
    cases scheduled
  · have scheduled : c.scheduled (.run task input) = some (frame, input) := by
      simp [TaskPool.Config.scheduled, atTask]
    have ran : frame.exec settings input c.state = .ok (state, pushed) := ran
    constructor
    · rintro held ⟨other, given, here, tells, _⟩
      cases scheduled.symm.trans here
      obtain ⟨q', after, left⟩ := Frame.tells_leaves tells stored review ran
      rcases held with ⟨row, there, kept⟩ | ⟨other, given, here, commands⟩
      · cases after.symm.trans there
        exact left kept
      · cases scheduled.symm.trans here
        simp only [Frame.tells, Option.any_eq_true] at tells
        obtain ⟨report, reports, _⟩ := tells
        rw [Frame.commands_of_reports reports] at commands
        cases commands
    · intro silent
      by_cases commands : frame.commands requestId = true
      · exact Or.inr ⟨frame, input, scheduled, commands⟩
      · have untold : frame.tells c.state requestId = false := by
          by_contra told
          refine silent ⟨frame, input, scheduled, by simpa using told, ?_⟩
          rw [ran]
          rfl
        have tried := (reachable_accounted reach requestId q stored).tried (by simp [review]) (by simp [review])
        have pending := load_le_untried reach requestId
        rw [State.reads_stored stored, IntegrationRequest.untried, if_neg (by omega)] at pending
        have undispatched : frame.dispatches requestId = 0 := by
          have member := TaskPool.mem_frames_of_task atTask (List.mem_cons_self ..)
          have weight := List.single_le_sum (by simp) _ (List.mem_map_of_mem (f := Frame.dispatches requestId) member)
          exact Nat.eq_zero_of_le_zero (weight.trans pending)
        exact Or.inl ((Frame.requestStep ran).review_kept ran stored review undispatched (by simpa using commands) untold)
  · refine iff_of_true (Or.inl ⟨q, stored, review⟩) ?_
    rintro ⟨other, given, here, _, done⟩
    have scheduled : c.scheduled (.run task input) = some (frame, input) := by
      simp [TaskPool.Config.scheduled, atTask]
    cases scheduled.symm.trans here
    have raised : frame.exec settings input c.state = .error e := raised
    rw [raised] at done
    cases done

namespace Sample

/-- The reconciliation finds an accepted operation in a status that it cannot
interpret, and escalates the request. -/
def reviewed : List Action :=
  accepted ++ .spawn (.findStale 200) :: work 1 100000000 0 1 ++
    answer 1 100000001 (answered .unknown "op-1") :: work 1 100000002 0 1

/-- As in `reviewed`, while another sweep has been told that the operation
succeeded. -/
def reviewedMeanwhile : List Action :=
  accepted ++ .spawn (.findStale 200) :: .spawn (.findStale 200) :: work 1 100000000 0 1 ++ work 2 100000000 0 1 ++
    answer 2 100000001 (answered .succeeded "op-1") :: answer 1 100000001 (answered .unknown "op-1") ::
      work 1 100000002 0 1

def inReview (c : Config) : Bool := (c.state.db.requests.get 200).any (·.status = .manualReview)

/-- The task is about to apply what the reconciliation was told. -/
def appliesState (task : Nat) (c : Config) : Bool := match c.tasks[task]? with
  | some [Frame.applyProviderState _ _] => true
  | _ => false

theorem appliesState_iff {task : Nat} (found : appliesState task c = true) :
    ∃ request result, c.tasks[task]? = some [.applyProviderState request result] := by
  unfold appliesState at found
  split at found
  · exact ⟨_, _, by assumption⟩
  · cases found

end Sample

/-- A webhook moves a request out of manual review, and so does a sweep of the
reconciliation that looked at the request before it was escalated. -/
theorem manual_review_left_by_report :
    (∃ c c' event q q', Reachable Sample.settings c ∧ c.tasks[2]? = some [.processWebhook event] ∧
      c.state.db.requests.get 200 = some q ∧ q.status = .manualReview ∧
      (orchestrator Sample.settings).next c (.run 2 (Sample.input 100000003 0 .crashed)) = some c' ∧
      c'.state.db.requests.get 200 = some q' ∧ q'.status = .succeeded) ∧
    ∃ c c' request result q q', Reachable Sample.settings c ∧
      c.tasks[2]? = some [.applyProviderState request result] ∧
      c.state.db.requests.get 200 = some q ∧ q.status = .manualReview ∧
      (orchestrator Sample.settings).next c (.run 2 (Sample.input 100000003 0 .crashed)) = some c' ∧
      c'.state.db.requests.get 200 = some q' ∧ q'.status = .succeeded := by
  constructor
  · obtain ⟨c, reach, processes, ⟨q, stored, review⟩, c', next, q', after, succeeded⟩ := reachable_replay
      Sample.settings (Sample.reviewed ++ [.spawn (Sample.report .succeeded "op-1")])
      (fun (c : Config) => Sample.processesSuccess 2 (fun _ => true) c = true ∧
        (∃ q, c.state.db.requests.get 200 = some q ∧ q.status = .manualReview) ∧
        ∃ c', (orchestrator Sample.settings).next c (.run 2 (Sample.input 100000003 0 .crashed)) = some c' ∧
          ∃ q', c'.state.db.requests.get 200 = some q' ∧ q'.status = .succeeded) (by decide +kernel)
    obtain ⟨event, atTask, _⟩ := Sample.processesSuccess_iff processes
    exact ⟨c, c', event, q, q', reach, atTask, stored, review, next, after, succeeded⟩
  · obtain ⟨c, reach, applies, ⟨q, stored, review⟩, c', next, q', after, succeeded⟩ := reachable_replay
      Sample.settings Sample.reviewedMeanwhile (fun (c : Config) => Sample.appliesState 2 c = true ∧
        (∃ q, c.state.db.requests.get 200 = some q ∧ q.status = .manualReview) ∧
        ∃ c', (orchestrator Sample.settings).next c (.run 2 (Sample.input 100000003 0 .crashed)) = some c' ∧
          ∃ q', c'.state.db.requests.get 200 = some q' ∧ q'.status = .succeeded) (by decide +kernel)
    obtain ⟨request, result, atTask⟩ := Sample.appliesState_iff applies
    exact ⟨c, c', request, result, q, q', reach, atTask, stored, review, next, after, succeeded⟩

/-- A report without an outcome leaves the request where it is. -/
theorem manual_review_left_iff_pending :
    ∃ c c' q', Reachable Sample.settings c ∧ Sample.inReview c = true ∧
      (orchestrator Sample.settings).next c (.run 2 (Sample.input 100000003 0 .crashed)) = some c' ∧
      c'.state.db.requests.get 200 = some q' ∧ q'.status = .manualReview := by
  obtain ⟨c, reach, found⟩ := reachable_replay Sample.settings
    (Sample.reviewed ++ [.spawn (Sample.report .pending "op-1")])
    (fun (c : Config) => Sample.inReview c &&
      (c.scheduled (.run 2 (Sample.input 100000003 0 .crashed))).all (fun next =>
        !next.1.commands 200 && !next.1.tells c.state 200) &&
      ((orchestrator Sample.settings).next c (.run 2 (Sample.input 100000003 0 .crashed))).isSome)
    (by decide +kernel)
  simp only [Bool.and_eq_true, Option.all_eq_true, Bool.not_eq_true', Option.isSome_iff_exists] at found
  obtain ⟨⟨review, quiet⟩, c', next⟩ := found
  have here := review
  simp only [Sample.inReview, Option.any_eq_true, decide_eq_true_eq] at here
  obtain ⟨q, stored, status⟩ := here
  have held := (manual_review_left_iff reach next stored status).mpr (by
    rintro ⟨frame, input, scheduled, told, _⟩
    simp [(quiet _ scheduled).2] at told)
  rcases held with ⟨q', after, kept⟩ | ⟨frame, input, scheduled, commands⟩
  · exact ⟨c, c', q', reach, review, next, after, kept⟩
  · simp [(quiet _ scheduled).1] at commands

end IntegrationOrchestrator
