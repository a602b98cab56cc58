import IntegrationOrchestrator.System.Reports
import IntegrationOrchestrator.System.WorkflowSteps

namespace IntegrationOrchestrator

namespace Frame

open IntegrationRequest RequestDispatcher

/-- The frames that carry no decision about a request over from the one that
pushed them. -/
def isPlain : Frame → Bool
  | .advance _ | .runForwardStep _ _ | .settleForward _ _ _ _ | .advanceFinish _ | .enforceDeadline _
  | .onRequestTerminal _ | .settleTerminal _ _ | .continueCompensation _ | .compensateStep _ _
  | .settleCompensation _ _ _ _ | .dispatch _ _ | .hookGuard | .raise _ => true
  | _ => false

/-- What a committed frame may lead to. -/
inductive Leads : Frame → Frame → Prop
  | plain {frame next} : next.isPlain = true → Leads frame next
  | creates {command} : Leads (.startWorkflow command) (.createExecution command)
  | claims {caller} {q : IntegrationRequest} : Leads (.dispatch q.id caller) (.callProvider q caller)
  | retries {q : IntegrationRequest} : Leads (.claimRetry q.id) (.callProvider q .retryWorker)
  | settles {q caller result} : Leads (.callProvider q caller) (.settleAttempt q result caller)
  | cancels {requestId reference reason actor result} :
      Leads (.cancelRequest requestId reason actor) (.settleCancellation requestId reference reason actor result)
  | finds {q : IntegrationRequest} : Leads (.findStale q.id) (.reconcile q)
  | applies {q result} : Leads (.reconcile q) (.applyProviderState q result)
  | escalates {q reason} : Leads (.reconcile q) (.escalateRequest q reason)

variable {settings : Settings} {input : Input} {s s' : State} {frame next : Frame} {q : IntegrationRequest}
  {pushed : List Frame}

theorem isPlain_of_isWalk (walk : frame.isWalk = true) : frame.isPlain = true := by
  cases frame <;> first | rfl | cases walk

theorem reportStep_leads (step : ReportStep input s frame s' pushed) (member : next ∈ pushed) : Leads frame next := by
  have plain : (∀ other ∈ pushed, other.isPlain = true) → Leads frame next := fun all => .plain (all next member)
  cases step with
  | rests | cancelled | escalated | polled => cases member
  | asks => cases List.mem_singleton.mp member; exact .cancels
  | finds stored =>
    cases List.mem_singleton.mp member
    rw [← Table.get_key stored]
    exact .finds
  | applies => cases List.mem_singleton.mp member; exact .applies
  | escalates => cases List.mem_singleton.mp member; exact .escalates
  | hooks | delivered => exact plain (by simp [isPlain])
  | noted raises =>
    obtain ⟨e, rfl⟩ := raises next member
    exact .plain rfl

/-- Everything a committed frame leads to. -/
theorem leads (run : frame.exec settings input s = .ok (s', pushed)) (member : next ∈ pushed) : Leads frame next := by
  have plain : (∀ other ∈ pushed, other.isPlain = true) → Leads frame next := fun all => .plain (all next member)
  by_cases workflow : frame.isWorkflow = true
  · rcases (workflowStep workflow run).requests with ⟨_, _, _, walks | ⟨command, rfl, rfl⟩⟩ | ⟨q, _, _, _, caller, _, _, rfl⟩
    · exact plain fun other member => isPlain_of_isWalk (walks other member)
    · cases List.mem_singleton.mp member
      exact .creates
    · exact plain (by simp [isPlain])
  cases frame <;> try exact absurd rfl workflow
  case createRequest command =>
    obtain ⟨q, _, _, _, _, _, _, rfl⟩ := execCreateRequest_ok run
    exact plain (by simp [isPlain])
  case dispatch requestId caller =>
    obtain ⟨q, q', wrote, _, rfl, _, _, _, _, rfl⟩ := execDispatch_ok run
    cases List.mem_singleton.mp member
    rw [← wrote.id]
    exact .claims
  case callProvider q caller =>
    obtain ⟨_, _, _, ⟨e, rfl⟩ | ⟨result, rfl, _⟩⟩ := execCallProvider_ok run
    · exact plain (by simp [isPlain])
    · cases List.mem_singleton.mp member
      exact .settles
  case settleAttempt q result caller =>
    obtain ⟨_, settled, _, _, _, rfl, _⟩ := execSettleAttempt_ok run
    refine plain fun other here => ?_
    rcases mem_afterAttempt here with rfl | rfl | ⟨_, _, _, rfl⟩ | ⟨_, _, _, rfl⟩ <;> rfl
  case claimRetry requestId =>
    rcases execClaimRetry_ok run with ⟨_, rfl⟩ | ⟨q, q', wrote, _, rfl, _, _, _, _, rfl⟩
    · cases member
    · cases List.mem_singleton.mp member
      rw [← wrote.id]
      exact .retries
  case retryRequest requestId actor =>
    obtain ⟨_, _, _, _, _, rfl, _⟩ := execRetryRequest_ok run
    cases member
  all_goals exact reportStep_leads (reportStep rfl run) member

/-- The frames that carry a client's command to create something. -/
def isCreation : Frame → Bool
  | .createRequest _ | .startWorkflow _ | .createExecution _ => true
  | _ => false

theorem isCreation_of_isPlain (plain : frame.isPlain = true) : frame.isCreation = false := by
  cases frame <;> first | rfl | cases plain

/-- Only a client's command leads to a creation. -/
theorem pushed_creation (run : frame.exec settings input s = .ok (s', pushed))
    (member : next ∈ pushed) (creation : next.isCreation = true) :
    ∃ command, frame = .startWorkflow command ∧ next = .createExecution command := by
  cases leads run member with
  | creates => exact ⟨_, rfl, rfl⟩
  | plain plain =>
    rw [isCreation_of_isPlain plain] at creation
    cases creation
  | _ => cases creation

end Frame

end IntegrationOrchestrator
