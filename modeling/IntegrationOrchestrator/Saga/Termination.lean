import IntegrationOrchestrator.Saga.StepsLeft
import IntegrationOrchestrator.System.WorkflowSteps

namespace IntegrationOrchestrator

open WorkflowExecution WorkflowOrchestrator

variable {settings : Settings} {input : Input} {s s' : State} {e e' : WorkflowExecution}
  {records : List WorkflowRecord} {executionId stepId requestId : UUID} {frame : Frame} {pushed : List Frame}
  {n : Nat}

/-! ### What a call costs -/

def State.left (s : State) (executionId : UUID) : Nat :=
  ((s.db.executions.get executionId).map WorkflowExecution.left).getD 0

theorem State.left_stored (stored : s.db.executions.get executionId = some e) : s.left executionId = e.left := by
  rw [State.left, stored]
  rfl

/-- No other execution links the request. -/
def State.Owns (s : State) (executionId requestId : UUID) : Prop :=
  ∀ e, s.db.executions.get e.id = some e → e.id ≠ executionId →
    ∀ step ∈ e.steps, Database.linksRequest requestId step = false

def Caller.Serves (executionId : UUID) : Caller → Prop
  | .forward other _ | .compensation other _ => other = executionId
  | _ => False

/-- The frames of a call about the execution. -/
def Frame.WorksOn (executionId : UUID) (s : State) : Frame → Prop
  | .advance other | .runForwardStep other _ | .settleForward other _ _ _ | .advanceFinish other
  | .enforceDeadline other | .cancelWorkflow other _ _ | .settleTerminal other _ | .continueCompensation other
  | .compensateStep other _ | .settleCompensation other _ _ _ => other = executionId
  | .onRequestTerminal requestId => s.Owns executionId requestId
  | .dispatch requestId caller => s.Owns executionId requestId ∧ caller.Serves executionId
  | .callProvider q caller | .settleAttempt q _ caller => s.Owns executionId q.id ∧ caller.Serves executionId
  | .hookGuard | .raise _ => True
  | _ => False

/-- The units of work that a frame stands for, on an execution of `n` steps,
apart from those that starting or unwinding a step makes: these are paid by the
step, at `stepCost` each. -/
def Frame.cost (n : Nat) : Frame → Nat
  | .continueCompensation _ | .advanceFinish _ | .hookGuard | .raise _ => 1
  | .settleForward _ _ _ _ | .settleCompensation _ _ _ _ | .enforceDeadline _ | .cancelWorkflow _ _ _ => 2
  | .runForwardStep _ _ => 3
  | .advance _ => 3 * n + 3
  | .settleTerminal _ _ => 3 * n + 4
  | .onRequestTerminal _ => 3 * n + 5
  | .settleAttempt _ _ _ => 3 * n + 9
  | .callProvider _ _ => 3 * n + 10
  | .dispatch _ _ => 3 * n + 11
  | .compensateStep _ _ => 3 * n + 12
  | _ => 0

def stepCost (n : Nat) : Nat := 3 * n + 12

def stackCost (n : Nat) (frames : List Frame) : Nat := (frames.map (Frame.cost n)).sum

@[simp] theorem stackCost_nil (n : Nat) : stackCost n [] = 0 := rfl

@[simp] theorem stackCost_cons (n : Nat) (frame : Frame) (frames : List Frame) :
    stackCost n (frame :: frames) = frame.cost n + stackCost n frames := List.sum_cons

@[simp] theorem stackCost_append (n : Nat) (frames frames' : List Frame) :
    stackCost n (frames ++ frames') = stackCost n frames + stackCost n frames' := by
  simp [stackCost]

theorem Frame.cost_pos (within : frame.WorksOn executionId s) : 1 ≤ frame.cost n := by
  cases frame <;> first | cases within <;> done | (simp only [Frame.cost]; omega)

theorem stackCost_runForwardSteps (n : Nat) (executionId : UUID) (steps : List UUID) :
    stackCost n (steps.map (Frame.runForwardStep executionId)) = 3 * steps.length := by
  induction steps with
  | nil => rfl
  | cons stepId steps ih =>
    rw [List.map_cons, stackCost_cons, ih, Frame.cost, List.length_cons]
    omega

theorem stackCost_afterAttempt (n : Nat) (requestId : UUID) (settled : IntegrationRequest) (caller : Caller) :
    stackCost n (Frame.afterAttempt requestId settled caller) ≤ 3 * n + 8 := by
  have hook : stackCost n (Frame.afterAttempt.hook settled) ≤ 3 * n + 6 := by
    unfold Frame.afterAttempt.hook
    split
    · simp [Frame.cost]
    · exact Nat.zero_le _
  cases caller <;> simp only [Frame.afterAttempt, stackCost_append, stackCost_cons, stackCost_nil, Frame.cost] <;> omega

/-- A committed frame touches one execution only, leads to frames of the same
call, and is paid for by its own cost and by the steps. -/
structure Pays (executionId : UUID) (n : Nat) (frame : Frame) (s s' : State) (pushed : List Frame) : Prop where
  others : ∀ other, other ≠ executionId → s'.db.executions.get other = s.db.executions.get other
  requests : ∀ requestId, (s.db.requests.get requestId).isSome = true → (s'.db.requests.get requestId).isSome = true
  steps : ∀ e', s'.db.executions.get executionId = some e' →
    ∃ e, s.db.executions.get executionId = some e ∧ e'.steps.length = e.steps.length
  within : ∀ next ∈ pushed, next.WorksOn executionId s'
  pays : stackCost n pushed + 1 + stepCost n * s'.left executionId ≤ frame.cost n + stepCost n * s.left executionId

theorem State.Owns.keep (owns : s.Owns executionId requestId)
    (others : ∀ other, other ≠ executionId → s'.db.executions.get other = s.db.executions.get other) :
    s'.Owns executionId requestId := by
  intro e stored differs
  exact owns e (others e.id differs ▸ stored) differs

theorem Frame.WorksOn.keep (within : frame.WorksOn executionId s)
    (others : ∀ other, other ≠ executionId → s'.db.executions.get other = s.db.executions.get other) :
    frame.WorksOn executionId s' := by
  cases frame with
  | onRequestTerminal => exact State.Owns.keep within others
  | dispatch | callProvider | settleAttempt => exact ⟨State.Owns.keep within.1 others, within.2⟩
  | _ => exact within

namespace Pays

theorem unstored (executions : s'.db.executions = s.db.executions)
    (requests : ∀ requestId, (s.db.requests.get requestId).isSome = true →
      (s'.db.requests.get requestId).isSome = true)
    (within : ∀ next ∈ pushed, next.WorksOn executionId s') (pays : stackCost n pushed + 1 ≤ frame.cost n) :
    Pays executionId n frame s s' pushed := by
  refine ⟨fun _ _ => by rw [executions], requests, fun e' stored => ⟨e', executions ▸ stored, rfl⟩, within, ?_⟩
  rw [State.left, executions, ← State.left]
  omega

theorem same (within : ∀ next ∈ pushed, next.WorksOn executionId s) (pays : stackCost n pushed + 1 ≤ frame.cost n) :
    Pays executionId n frame s s pushed :=
  unstored rfl (fun _ stored => stored) within pays

/-- A transaction that saves the execution, of whose steps it starts or unwinds
`used`. -/
theorem put (used : Nat) (executions : s'.db.executions = s.db.executions.put e')
    (requests : ∀ requestId, (s.db.requests.get requestId).isSome = true →
      (s'.db.requests.get requestId).isSome = true)
    (stored : s.db.executions.get executionId = some e) (ebbs : e.Ebbs e') (left : e'.left + used ≤ e.left)
    (within : ∀ next ∈ pushed, next.WorksOn executionId s')
    (pays : stackCost n pushed + 1 ≤ frame.cost n + stepCost n * used) : Pays executionId n frame s s' pushed := by
  have id : e'.id = executionId := ebbs.id.trans (Table.get_key stored)
  have here : s'.db.executions.get executionId = some e' := by rw [executions, Table.get_put, if_pos id.symm]
  refine ⟨fun other differs => ?_, requests, fun row found => ?_, within, ?_⟩
  · rw [executions, Table.get_put, if_neg (id ▸ differs)]
  · cases here.symm.trans found
    exact ⟨e, stored, ebbs.length⟩
  · rw [State.left_stored here, State.left_stored stored]
    have budget := Nat.mul_le_mul_left (stepCost n) left
    rw [Nat.mul_add] at budget
    omega

theorem saved (stored : s.db.executions.get executionId = some e) (ebbs : e.Ebbs e')
    (within : ∀ next ∈ pushed, next.WorksOn executionId (s.savedExecution e' records))
    (pays : stackCost n pushed + 1 ≤ frame.cost n) :
    Pays executionId n frame s (s.savedExecution e' records) pushed :=
  put 0 rfl (fun _ present => present) stored ebbs ebbs.left within (by omega)

end Pays

/-- The foreign keys of the steps: they link stored requests. -/
def State.LinksStored (s : State) : Prop :=
  ∀ e, s.db.executions.get e.id = some e → ∀ step ∈ e.steps, ∀ requestId,
    Database.linksRequest requestId step = true → (s.db.requests.get requestId).isSome = true

/-- The foreign keys of the other executions' steps. -/
def State.LinksElsewhere (s : State) (executionId : UUID) : Prop :=
  ∀ e, s.db.executions.get e.id = some e → e.id ≠ executionId → ∀ step ∈ e.steps, ∀ requestId,
    Database.linksRequest requestId step = true → (s.db.requests.get requestId).isSome = true

/-- A transaction that creates a request for a step. -/
theorem Pays.created {role : Role} {q : IntegrationRequest} {caller : Caller} (used : Nat)
    (elsewhere : s.LinksElsewhere executionId) (run : s.created role stepId e' q = .ok s')
    (stored : s.db.executions.get executionId = some e) (ebbs : e.Ebbs e') (left : e'.left + used ≤ e.left)
    (serves : caller.Serves executionId) (pays : 3 * n + 12 ≤ frame.cost n + stepCost n * used) :
    Pays executionId n frame s s' [.dispatch q.id caller] := by
  obtain ⟨fresh, executions, requests, _⟩ := State.created_writes run
  have id : e'.id = executionId := ebbs.id.trans (Table.get_key stored)
  refine Pays.put used executions (fun requestId present => ?_) stored ebbs left (fun next member => ?_) pays
  · rw [requests, Table.get_put]
    split
    · rfl
    · exact present
  · cases List.mem_singleton.mp member
    refine ⟨fun other there differs step inside => ?_, serves⟩
    have before : s.db.executions.get other.id = some other := by
      rwa [executions, Table.get_put, if_neg (id ▸ differs)] at there
    by_contra linked
    have present := elsewhere other before differs step inside q.id (by simpa using linked)
    rw [fresh] at present
    cases present

theorem requests_kept {q q' : IntegrationRequest} (wrote : s.Wrote s' q q') (other : UUID)
    (present : (s.db.requests.get other).isSome = true) : (s'.db.requests.get other).isSome = true := by
  rw [wrote.get]
  split
  · rfl
  · exact present

theorem unwindIf_within {p : Prop} [Decidable p] : ∀ next ∈ unwindIf p executionId, next.WorksOn executionId s := by
  unfold unwindIf
  split <;> simp [Frame.WorksOn]

theorem unwindIf_cost {p : Prop} [Decidable p] : stackCost n (unwindIf p executionId) ≤ 1 := by
  unfold unwindIf
  split <;> simp [Frame.cost]

theorem WorkflowStep.pays (within : frame.WorksOn executionId s) (elsewhere : s.LinksElsewhere executionId)
    (size : ∀ e, s.db.executions.get executionId = some e → e.steps.length ≤ n)
    (step : WorkflowStep input s frame s' pushed) : Pays executionId n frame s s' pushed := by
  cases step with
  | known | unknown | inserted | unclaimed | claimed => cases within
  | stopped | skipped | inTime | uncancelled | unrelated | idle => exact .same (by simp) (by simp [Frame.cost])
  | overdue | expired =>
    cases within
    exact .same (by simp [Frame.WorksOn]) (by simp [Frame.cost])
  | halted stored decided =>
    cases within
    exact .saved stored (advance_ebbs (fun _ _ => Table.get_key) decided) (by simp) (by simp [Frame.cost])
  | @advanced e e' _ stored decided =>
    cases within
    have ebbs := advance_ebbs (fun _ _ => Table.get_key) decided
    refine .saved stored ebbs (fun next member => ?_) ?_
    · simp only [List.mem_append, List.mem_map, List.mem_singleton] at member
      rcases member with ⟨_, _, rfl⟩ | rfl <;> rfl
    · have few : (readySteps e').length ≤ e'.steps.length := by
        unfold readySteps
        split
        · exact Nat.zero_le _
        · rw [List.length_map]
          exact List.length_filter_le _ _
      have bound := size e stored
      have length := ebbs.length
      rw [stackCost_append, stackCost_runForwardSteps, stackCost_cons, stackCost_nil]
      simp only [Frame.cost]
      omega
  | refreshed stored decided =>
    cases within
    exact .saved stored (Moves.ebbs input.readings.now (refreshExecutionStatus_moves decided)) (by simp)
      (by simp [Frame.cost])
  | sent stored decided _ created =>
    cases within
    obtain ⟨ebbs, left⟩ := runForwardStep_uses decided
    exact .created 1 elsewhere created stored ebbs left.le rfl (by simp [Frame.cost, stepCost])
  | settled stored decided =>
    cases within
    exact .saved stored (settleForward_ebbs decided) unwindIf_within (Nat.succ_le_succ unwindIf_cost)
  | timedOut stored decided =>
    cases within
    exact .saved stored (Moves.ebbs input.readings.now (enforceDeadline_moves decided)) unwindIf_within
      (Nat.succ_le_succ unwindIf_cost)
  | cancelled stored decided =>
    cases within
    exact .saved stored (Moves.ebbs input.readings.now (cancel_moves decided)) unwindIf_within
      (Nat.succ_le_succ unwindIf_cost)
  | @applied e e' _ _ stored decided =>
    cases within
    refine .saved stored (applyTerminal_ebbs decided) ?_ ?_
    · split
      · simp [Frame.WorksOn]
      · exact unwindIf_within
    · split
      · simp [Frame.cost]
      · have few := @unwindIf_cost e.id n (e'.status = .compensating) _
        simp only [Frame.cost]
        omega
  | begun stored decided =>
    cases within
    obtain ⟨ebbs, left⟩ := continueCompensation_uses decided
    refine .put 1 rfl (fun _ present => present) stored ebbs left.le (by simp [Frame.WorksOn]) ?_
    simp only [stackCost_cons, stackCost_nil, Frame.cost, stepCost]
    omega
  | unwound stored decided =>
    cases within
    obtain ⟨unwinding, finished⟩ := continueCompensation_finish decided
    exact .saved stored (Moves.ebbs input.readings.now (finishUnwind_moves unwinding finished)) (by simp)
      (by simp [Frame.cost])
  | released stored decided =>
    cases within
    exact .saved stored (Moves.ebbs input.readings.now (compensateStep_done decided)) (by simp [Frame.WorksOn])
      (by simp [Frame.cost])
  | undone stored decided _ created =>
    cases within
    have ebbs := compensateStep_start_ebbs decided
    exact .created 0 elsewhere created stored ebbs ebbs.left rfl (by simp [Frame.cost])
  | compensated stored decided =>
    cases within
    exact .saved stored (settleCompensation_ebbs decided) unwindIf_within (Nat.succ_le_succ unwindIf_cost)

/-- Every unit of a call is paid for. -/
theorem exec_pays (within : frame.WorksOn executionId s) (elsewhere : s.LinksElsewhere executionId)
    (size : ∀ e, s.db.executions.get executionId = some e → e.steps.length ≤ n)
    (run : frame.exec settings input s = .ok (s', pushed)) : Pays executionId n frame s s' pushed := by
  by_cases workflow : frame.isWorkflow = true
  · exact (Frame.workflowStep workflow run).pays within elsewhere size
  cases frame <;> try exact absurd rfl workflow
  case onRequestTerminal requestId =>
    obtain ⟨rfl, pushes⟩ := Frame.execOnRequestTerminal_ok run
    rcases pushes with rfl | ⟨e, q, rfl, _, stored, _, _, step, inside, linked⟩
    · exact .same (by simp) (by simp [Frame.cost])
    · refine .same (fun next member => ?_) (by simp [Frame.cost])
      cases List.mem_singleton.mp member
      show e.id = executionId
      by_contra differs
      rw [within e stored differs step inside] at linked
      cases linked
  case dispatch requestId caller =>
    obtain ⟨owns, serves⟩ := within
    obtain ⟨q, q', wrote, _, rfl, _, _, _, _, rfl⟩ := Frame.execDispatch_ok run
    refine .unstored wrote.executions (requests_kept wrote) (fun next member => ?_) (by simp [Frame.cost])
    cases List.mem_singleton.mp member
    refine ⟨?_, serves⟩
    rw [wrote.id]
    exact owns.keep fun _ _ => by rw [wrote.executions]
  case callProvider q caller =>
    obtain ⟨descriptor, _, rfl, next⟩ := Frame.execCallProvider_ok run
    rcases next with ⟨raised, rfl⟩ | ⟨result, rfl, _⟩
    · exact .unstored rfl (fun _ present => present) (by simp [Frame.WorksOn]) (by simp [Frame.cost])
    · refine .unstored rfl (fun _ present => present) (fun next member => ?_) (by simp [Frame.cost])
      cases List.mem_singleton.mp member
      exact within
  case settleAttempt q result caller =>
    obtain ⟨owns, serves⟩ := within
    obtain ⟨current, settled, _, _, id, rfl, _, written, _⟩ := Frame.execSettleAttempt_ok run
    have kept : s'.db.executions = s.db.executions ∧ ∀ other, (s.db.requests.get other).isSome = true →
        (s'.db.requests.get other).isSome = true := by
      rcases written with quiet | wrote
      · exact ⟨quiet.executions, fun other present => by rw [quiet.requests]; exact present⟩
      · exact ⟨wrote.executions, requests_kept wrote⟩
    refine .unstored kept.1 kept.2 (fun next member => ?_)
      (Nat.succ_le_succ (stackCost_afterAttempt n q.id settled caller))
    rcases Frame.mem_afterAttempt member with rfl | rfl | ⟨_, _, rfl, rfl⟩ | ⟨_, _, rfl, rfl⟩
    · show s'.Owns executionId settled.id
      rw [id]
      exact owns.keep fun _ _ => by rw [kept.1]
    · trivial
    · exact serves
    · exact serves
  case hookGuard =>
    cases run
    exact .same (by simp) (by simp [Frame.cost])
  case raise => cases run
  all_goals cases within

/-- A call about an execution of at most `n` steps, in its course. -/
structure InCall (executionId : UUID) (n : Nat) (x : State × List Frame) : Prop where
  elsewhere : x.1.LinksElsewhere executionId
  size : ∀ e, x.1.db.executions.get executionId = some e → e.steps.length ≤ n
  within : ∀ frame ∈ x.2, frame.WorksOn executionId x.1

def callCost (executionId : UUID) (n : Nat) (x : State × List Frame) : Nat :=
  stackCost n x.2 + stepCost n * x.1.left executionId

theorem stackCost_sublist {frames frames' : List Frame} (sub : frames.Sublist frames') :
    stackCost n frames ≤ stackCost n frames' :=
  (sub.map _).sum_le_sum (by simp)

/-- Each unit of a call keeps it in its course and lowers its cost. -/
theorem InCall.unit (settings : Settings) (input : Input) {rest : List Frame}
    (call : InCall executionId n (s, frame :: rest)) :
    InCall executionId n ((orchestrator settings).unit input (s, frame :: rest)) ∧
      callCost executionId n ((orchestrator settings).unit input (s, frame :: rest)) <
        callCost executionId n (s, frame :: rest) := by
  obtain ⟨elsewhere, size, within⟩ := call
  have top := within frame (List.mem_cons_self ..)
  cases ran : frame.exec settings input s with
  | ok outcome =>
    obtain ⟨s', pushed⟩ := outcome
    have unit : (orchestrator settings).unit input (s, frame :: rest) = (s', pushed ++ rest) := by
      simp [TaskPool.Program.unit, orchestrator, ran]
    have paid : Pays executionId n frame s s' pushed := exec_pays top elsewhere size ran
    obtain ⟨others, requests, steps, leads, pays⟩ := paid
    rw [unit]
    refine ⟨⟨fun e stored differs step inside requestId linked => ?_, fun e' stored => ?_, fun next member => ?_⟩, ?_⟩
    · exact requests requestId (elsewhere e (others e.id differs ▸ stored) differs step inside requestId linked)
    · obtain ⟨e, before, length⟩ := steps e' stored
      exact length ▸ size e before
    · rcases List.mem_append.mp member with new | old
      · exact leads next new
      · exact (within next (List.mem_cons_of_mem _ old)).keep others
    · show stackCost n (pushed ++ rest) + stepCost n * s'.left executionId <
        stackCost n (frame :: rest) + stepCost n * s.left executionId
      rw [stackCost_append, stackCost_cons]
      omega
  | error raised =>
    have unit : (orchestrator settings).unit input (s, frame :: rest) = (s, (orchestrator settings).unwind rest) := by
      simp [TaskPool.Program.unit, orchestrator, ran]
    have sub := TaskPool.unwind_sublist (orchestrator settings) rest
    have positive := @Frame.cost_pos s executionId frame n top
    have less := @stackCost_sublist n _ _ sub
    rw [unit]
    refine ⟨⟨elsewhere, size, fun next member => within next (List.mem_cons_of_mem _ (sub.subset member))⟩, ?_⟩
    simp only [callCost, stackCost_cons]
    omega

/-! ### The calls -/

/-- The public calls of the orchestrator and the walk of its compensation. -/
def Frame.isCall : Frame → Bool
  | .advance _ | .onRequestTerminal _ | .cancelWorkflow _ _ _ | .enforceDeadline _ | .continueCompensation _ => true
  | _ => false

/-- The execution that a call is about. -/
def Frame.callee (s : State) : Frame → Option UUID
  | .advance executionId | .cancelWorkflow executionId _ _ | .enforceDeadline executionId
  | .continueCompensation executionId => some executionId
  | .onRequestTerminal requestId =>
    match s.db.executionByRequestId requestId with
    | .ok (some e) => some e.id
    | _ => none
  | _ => none

/-- The number of steps of the execution that a call is about. -/
def State.stepCount (s : State) (call : Frame) : Nat :=
  (((call.callee s).bind s.db.executions.get).map (·.steps.length)).getD 0

/-- The units of work that a call on an execution of `n` steps may take. -/
def callBound (n : Nat) : Nat := 6 * n ^ 2 + 27 * n + 5

theorem left_le_twice (e : WorkflowExecution) : e.left ≤ 2 * e.steps.length := by
  have each : ∀ status : WorkflowStepStatus, status.left ≤ 2 := by
    intro status
    cases status <;> decide
  have total := List.sum_le_card_nsmul (e.steps.map (·.status.left)) 2 fun value member => by
    obtain ⟨step, _, rfl⟩ := List.mem_map.mp member
    exact each step.status
  rw [List.length_map, smul_eq_mul, mul_comm] at total
  exact total

theorem callCost_le {cost left : Nat} (own : cost ≤ 3 * n + 5) (steps : left ≤ 2 * n) :
    cost + stepCost n * left ≤ callBound n := by
  calc cost + stepCost n * left ≤ (3 * n + 5) + stepCost n * (2 * n) :=
        Nat.add_le_add own (Nat.mul_le_mul_left _ steps)
    _ = callBound n := by
      unfold stepCost callBound
      ring

/-- A call about a known execution ends. -/
theorem InCall.ends (settings : Settings) (inputs : Nat → Input) (call : InCall executionId n (s, [frame])) :
    ∃ k ≤ frame.cost n + stepCost n * s.left executionId,
      ((orchestrator settings).course inputs (s, [frame]) k).2 = [] := by
  obtain ⟨k, bound, ended⟩ := TaskPool.Program.course_ends
    (fun input s frame rest held => InCall.unit settings input held) inputs call
  refine ⟨k, ?_, ended⟩
  simpa [callCost] using bound

theorem State.LinksStored.inCall (links : s.LinksStored) (within : frame.WorksOn executionId s)
    (size : ∀ e, s.db.executions.get executionId = some e → e.steps.length ≤ n) :
    InCall executionId n (s, [frame]) := by
  refine ⟨fun e stored _ => links e stored, size, fun next member => ?_⟩
  cases List.mem_singleton.mp member
  exact within

theorem State.left_le (size : ∀ e, s.db.executions.get executionId = some e → e.steps.length ≤ n) :
    s.left executionId ≤ 2 * n := by
  cases stored : s.db.executions.get executionId with
  | none =>
    rw [State.left, stored]
    exact Nat.zero_le _
  | some e =>
    rw [State.left_stored stored]
    exact (left_le_twice e).trans (Nat.mul_le_mul_left 2 (size e stored))

theorem State.stepCount_stored {call : Frame} (callee : call.callee s = some executionId) :
    ∀ e, s.db.executions.get executionId = some e → e.steps.length ≤ s.stepCount call := by
  intro e stored
  simp [State.stepCount, callee, stored]

/-- The hook reads which execution its request belongs to before it locks it. -/
theorem onRequestTerminal_ends (settings : Settings) (links : s.LinksStored) (requestId : UUID)
    (inputs : Nat → Input) : ∃ k ≤ callBound (s.stepCount (.onRequestTerminal requestId)),
      ((orchestrator settings).course inputs (s, [.onRequestTerminal requestId]) k).2 = [] := by
  generalize unit : (orchestrator settings).unit (inputs 0) (s, [.onRequestTerminal requestId]) = after
  have one : after.2 = [] → ∃ k ≤ callBound (s.stepCount (.onRequestTerminal requestId)),
      ((orchestrator settings).course inputs (s, [.onRequestTerminal requestId]) k).2 = [] := by
    intro ended
    refine ⟨1, ?_, ?_⟩
    · unfold callBound
      omega
    · rw [TaskPool.Program.course_succ, unit]
      exact ended
  cases ran : Frame.exec settings (.onRequestTerminal requestId) (inputs 0) s with
  | error raised =>
    refine one ?_
    rw [← unit]
    simp [TaskPool.Program.unit, orchestrator, ran, TaskPool.Program.unwind]
  | ok outcome =>
    obtain ⟨s', pushed⟩ := outcome
    have next : after = (s', pushed ++ []) := by
      rw [← unit]
      simp [TaskPool.Program.unit, orchestrator, ran]
    obtain ⟨rfl, pushes⟩ := Frame.execOnRequestTerminal_ok ran
    rcases pushes with rfl | ⟨e, q, rfl, _⟩
    · exact one (by rw [next]; rfl)
    · have callee : (Frame.onRequestTerminal requestId).callee s' = some e.id := by
        obtain ⟨found, looked, ran⟩ := Rows.bind_eq_ok.mp ran
        cases found with
        | none => cases ran
        | some other =>
          dsimp only at ran
          split at ran
          · cases ran
          · split at ran
            · simp only [pure, Except.pure, Except.ok.injEq, Prod.mk.injEq, List.cons.injEq,
                Frame.settleTerminal.injEq, and_true, true_and] at ran
              simp [Frame.callee, looked, ran]
            · cases ran
      have size := State.stepCount_stored callee
      have within : (Frame.settleTerminal e.id q).WorksOn e.id s' := rfl
      obtain ⟨k, bound, ended⟩ := InCall.ends settings (fun i => inputs (i + 1)) (links.inCall within size)
      refine ⟨k + 1, ?_, ?_⟩
      · have few := @callCost_le (s'.stepCount (.onRequestTerminal requestId)) _ _ le_rfl (State.left_le size)
        simp only [Frame.cost] at bound
        omega
      · rw [TaskPool.Program.course_succ, unit, next]
        exact ended

/-- Whatever the providers answer, whatever the clock and the ids are and from
whatever state of the execution, a call returns or raises within a number of
units of work, nested calls, transactions and dispatches included, that depends
on the number of the execution's steps only. -/
theorem orchestration_terminates (settings : Settings) (links : s.LinksStored) {call : Frame}
    (isCall : call.isCall = true) (inputs : Nat → Input) :
    ∃ k ≤ callBound (s.stepCount call), ((orchestrator settings).course inputs (s, [call]) k).2 = [] := by
  have known : ∀ executionId, call.callee s = some executionId → call.WorksOn executionId s →
      call.cost (s.stepCount call) ≤ 3 * s.stepCount call + 5 →
      ∃ k ≤ callBound (s.stepCount call), ((orchestrator settings).course inputs (s, [call]) k).2 = [] := by
    intro executionId callee within cheap
    have size := State.stepCount_stored callee
    obtain ⟨k, bound, ended⟩ := InCall.ends settings inputs (links.inCall within size)
    exact ⟨k, bound.trans (callCost_le cheap (State.left_le size)), ended⟩
  cases call with
  | onRequestTerminal requestId => exact onRequestTerminal_ends settings links requestId inputs
  | advance | cancelWorkflow | enforceDeadline | continueCompensation =>
    exact known _ rfl rfl (by simp only [Frame.cost]; omega)
  | _ => cases isCall

namespace Sample

/-- The foreign keys, as a test on the rows. -/
def linksStored (s : State) : Bool :=
  s.db.executions.rows.all fun e => e.steps.all fun step =>
    step.integrationRequestId.all (fun requestId => (s.db.requests.get requestId).isSome) &&
      step.compensationRequestId.all fun requestId => (s.db.requests.get requestId).isSome

theorem linksStored_iff (found : linksStored s = true) : s.LinksStored := by
  intro e stored step inside requestId linked
  simp only [linksStored, List.all_eq_true, Bool.and_eq_true, Option.all_eq_true] at found
  have each := found e (Table.mem_rows_iff.mpr stored) step inside
  simp only [Database.linksRequest, Bool.or_eq_true, decide_eq_true_eq] at linked
  rcases linked with link | link
  · exact each.1 requestId link
  · exact each.2 requestId link

/-- Two steps, of which the first waits for its provider. -/
def halfway : List Action :=
  .spawn (start [stage "first" [], stage "second" ["first"]] none) :: work 0 1 100 2 ++ work 0 2 200 3 ++
    answer 0 3 (answered .pending "op-1") :: work 0 4 300 5

end Sample

theorem orchestration_terminates_halfway :
    ∃ c, Reachable Sample.settings c ∧ c.state.stepCount (.advance 100) = 2 ∧ ∀ inputs,
      ∃ k ≤ 83, ((orchestrator Sample.settings).course inputs (c.state, [.advance 100]) k).2 = [] := by
  obtain ⟨c, reach, stored, two⟩ := reachable_replay Sample.settings Sample.halfway
    (fun (c : Config) => Sample.linksStored c.state = true ∧ c.state.stepCount (.advance 100) = 2) (by decide +kernel)
  refine ⟨c, reach, two, fun inputs => ?_⟩
  have isCall : (Frame.advance 100).isCall = true := rfl
  obtain ⟨k, bound, ended⟩ :=
    orchestration_terminates Sample.settings (Sample.linksStored_iff stored) isCall inputs
  rw [two] at bound
  exact ⟨k, bound, ended⟩

end IntegrationOrchestrator
