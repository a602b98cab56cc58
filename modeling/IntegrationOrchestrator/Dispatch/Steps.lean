import IntegrationOrchestrator.System.Reports
import IntegrationOrchestrator.System.WorkflowSteps

namespace IntegrationOrchestrator

open IntegrationRequest RequestDispatcher

/-- The request that the frame is carrying out. -/
def Frame.attempts : Frame → Option UUID
  | .dispatch requestId _ => some requestId
  | .callProvider q _ => some q.id
  | .settleAttempt q _ _ => some q.id
  | _ => none

/-- None of the frames carries a request out. -/
def Idle (frames : List Frame) : Prop := ∀ frame ∈ frames, frame.attempts = none

/-- Everything one committed frame can do to the requests, to the history of
what providers did, and to the attempts under way. -/
inductive RequestStep (settings : Settings) (input : Input) (frame : Frame) (s s' : State) : List Frame → Prop
  | quiet {pushed} : frame.attempts = none → s'.db.requests = s.db.requests → s'.history = s.history →
      Idle pushed → RequestStep settings input frame s s' pushed
  | creates {q caller extra} : frame.attempts = none → s.db.requests.get q.id = none → q.status = .received →
      q.attemptCount = 0 → s'.db.requests = s.db.requests.put q → s'.history = s.history ++ extra →
      (∀ event ∈ extra, ∃ role executionId stepId, event = .created role executionId stepId q.id) →
      RequestStep settings input frame s s' [.dispatch q.id caller]
  | claims {q q' caller} : frame = .dispatch q.id caller ∨
        (frame = .claimRetry q.id ∧ q.status = .retryScheduled) →
      (q.status = .received ∨ canTransition q.status .dispatching = true) → s.Wrote s' q q' →
      s'.history = s.history → q'.status = .dispatching → q'.provider = q.provider →
      q'.attemptCount = q.attemptCount + 1 → RequestStep settings input frame s s' [.callProvider q' caller]
  | calls {q caller descriptor pushed} : frame = .callProvider q caller →
      settings.descriptor q.provider = some descriptor → s'.db.requests = s.db.requests →
      s'.history = s.history ++ [.performed q.id (createOperation descriptor input.weather).performed] →
      ((∃ e, pushed = [.raise e]) ∨ ∃ result, pushed = [.settleAttempt q result caller] ∧
        providerAnswer (createOperation descriptor input.weather).result = .ok result) →
      RequestStep settings input frame s s' pushed
  | settles {q result caller current settled} : frame = .settleAttempt q result caller →
      s.db.requests.get q.id = some current → current.id = q.id → settled.id = q.id → s'.history = s.history →
      (s.Quiet s' ∨ s.Wrote s' current settled) →
      ((current.status ≠ .dispatching ∧ Kept current settled) ∨
        (current.status = .dispatching ∧ s.Wrote s' current settled ∧
          ∃ target ∈ settledStatuses, Moved current settled target ∧
            (target = .retryScheduled → result.accepted = false ∧
              (settings.retryPolicy current.provider).shouldRetry current.attemptCount
                (result.error.getD missingError).retryable = true))) →
      RequestStep settings input frame s s' (Frame.afterAttempt q.id settled caller)
  | retries {q q' actor} : frame = .retryRequest q.id actor → s.Wrote s' q q' → Moved q q' .retryScheduled →
      s'.history = s.history ++ [.retryRequested q.id] → RequestStep settings input frame s s' []
  | reports {q q' target pushed} : frame.attempts = none → s.Wrote s' q q' → s'.history = s.history →
      target ∈ Frame.reportedStatuses → Moved q q' target → Idle pushed → frame.isReport = true →
      RequestStep settings input frame s s' pushed

variable {settings : Settings} {input : Input} {s s' : State} {frame : Frame} {pushed : List Frame}

theorem idle_afterAttempt (requestId : UUID) (settled : IntegrationRequest) (caller : Caller) :
    Idle (Frame.afterAttempt requestId settled caller) := by
  intro frame member
  rcases Frame.mem_afterAttempt member with rfl | rfl | ⟨_, _, _, rfl⟩ | ⟨_, _, _, rfl⟩ <;> rfl

theorem idle_walks (walks : ∀ next ∈ pushed, next.isWalk = true) : Idle pushed := by
  intro next member
  have walk := walks next member
  cases next <;> first | rfl | cases walk

/-- A frame of a workflow starts no attempt, or creates the request of a step. -/
theorem WorkflowStep.requestStep (step : WorkflowStep input s frame s' pushed) (outside : frame.attempts = none) :
    RequestStep settings input frame s s' pushed := by
  rcases step.requests with ⟨requests, _, history, walks | ⟨_, _, rfl⟩⟩ | ⟨q, role, stepId, e, caller, new, created, rfl⟩
  · exact .quiet outside requests history (idle_walks walks)
  · exact .quiet outside requests history (by simp [Idle, Frame.attempts])
  · obtain ⟨fresh, _, requests, _, _, history⟩ := State.created_writes created
    refine .creates outside fresh new.received new.unattempted requests history fun event member => ?_
    cases List.mem_singleton.mp member
    exact ⟨role, e.id, stepId, rfl⟩

namespace Frame

theorem execReport_requests (report : frame.isReport = true)
    (run : frame.exec settings input s = .ok (s', pushed)) : RequestStep settings input frame s s' pushed := by
  obtain ⟨reported, pushes⟩ := exec_report report run
  have outside : frame.attempts = none := by
    cases frame <;> first | rfl | cases report
  have idle : Idle pushed := by
    intro next member
    rcases pushes next member with again | ⟨_, _, rfl, _⟩
    · cases next <;> first | rfl | cases again
    · rfl
  rcases reported with quiet | ⟨q, q', target, wrote, history, listed, moved⟩
  · exact .quiet outside quiet.requests quiet.history idle
  · exact .reports outside wrote history listed moved idle report

/-- Every committed frame makes one of the steps of the request life cycle. -/
theorem requestStep (run : frame.exec settings input s = .ok (s', pushed)) :
    RequestStep settings input frame s s' pushed := by
  by_cases workflow : frame.isWorkflow = true
  · refine (workflowStep workflow run).requestStep ?_
    cases frame <;> first | rfl | cases workflow
  cases frame <;> try exact absurd rfl workflow
  case createRequest =>
    obtain ⟨q, fresh, received, unattempted, _, requests, history, rfl⟩ := execCreateRequest_ok run
    have unchanged : s'.history = s.history ++ [] := by simp [history]
    exact .creates rfl fresh received unattempted requests unchanged (by simp)
  case dispatch =>
    obtain ⟨q, q', wrote, history, rfl, allowed, status, provider, attempts, rfl⟩ := execDispatch_ok run
    exact .claims (Or.inl rfl) allowed wrote history status provider attempts
  case callProvider =>
    obtain ⟨descriptor, known, rfl, next⟩ := execCallProvider_ok run
    exact .calls rfl known rfl rfl next
  case settleAttempt =>
    obtain ⟨current, settled, stored, id, settledId, rfl, history, written, outcome⟩ := execSettleAttempt_ok run
    exact .settles rfl stored id settledId history written outcome
  case claimRetry =>
    rcases execClaimRetry_ok run with ⟨rfl, rfl⟩ | ⟨q, q', wrote, history, rfl, scheduled, status, provider, attempts, rfl⟩
    · exact .quiet rfl rfl rfl (by simp [Idle])
    · exact .claims (Or.inr ⟨rfl, scheduled⟩) (Or.inr (by rw [scheduled]; rfl)) wrote history status provider attempts
  case retryRequest =>
    obtain ⟨q, q', wrote, rfl, moved, rfl, history⟩ := execRetryRequest_ok run
    exact .retries rfl wrote moved history
  all_goals exact execReport_requests rfl run

end Frame

end IntegrationOrchestrator
