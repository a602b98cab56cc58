import IntegrationOrchestrator.Saga.FrameEffects
import IntegrationOrchestrator.System.Reports

namespace IntegrationOrchestrator

open WorkflowExecution IntegrationRequest

variable {settings : Settings} {licence : Licence} {input : Input} {now : Instant} {frame : Frame} {s s' : State}
  {pushed : List Frame} {requestId : UUID} {q q' : IntegrationRequest} {caller : Caller}

theorem State.Wrote.succeeded (wrote : s.Wrote s' q q') (kept : q.status = .succeeded → q'.status = .succeeded)
    (id : UUID) (before : s.Succeeded id) : s'.Succeeded id := by
  obtain ⟨other, stored, status⟩ := before
  by_cases same : id = q.id
  · subst same
    cases wrote.stored.symm.trans stored
    exact ⟨q', by simp [wrote.get], kept status⟩
  · exact ⟨other, by simp [wrote.get, same, stored], status⟩

theorem IntegrationRequest.Moved.succeeded {target : RequestStatus} (moved : Moved q q' target) (status : q.status = .succeeded) :
    q'.status = .succeeded := by
  have allowed := moved.allowed
  rw [status, canTransition_succeeded] at allowed
  cases allowed

/-- A frame that writes one request row and creates nothing. -/
theorem Effect.wrote (extra : List Event) (wrote : s.Wrote s' q q')
    (kept : q.status = .succeeded → q'.status = .succeeded) (history : s'.history = s.history ++ extra)
    (none : ∀ role e step q, Event.created role e step q ∉ extra) (unstarting : Unstarting pushed) :
    Effect licence now frame s s' pushed :=
  .requests wrote.executions (wrote.succeeded kept) ⟨extra, history, none⟩ unstarting

theorem claimed_not_succeeded (allowed : q.status = .received ∨ canTransition q.status .dispatching = true) :
    q.status ≠ .succeeded := by
  rintro status
  rcases allowed with received | allowed
  · exact absurd (status.symm.trans received) (by simp)
  · rw [status, canTransition_succeeded] at allowed
    cases allowed

namespace Frame

theorem execDispatch_effect (owns : caller.Owns s requestId)
    (run : execDispatch requestId caller input s = .ok (s', pushed)) : Justified licence now frame s s' pushed := by
  obtain ⟨q, q', wrote, history, rfl, allowed, _, _, _, rfl⟩ := execDispatch_ok run
  have effect : Effect licence now frame s s' [.callProvider q' caller] :=
    .wrote [] wrote (fun status => absurd status (claimed_not_succeeded allowed)) (by simpa using history)
      (by simp) (by simp [Unstarting])
  refine ⟨effect, fun frame member => ?_⟩
  cases List.mem_singleton.mp member
  exact effect.owns (wrote.id ▸ owns)

theorem execClaimRetry_effect (run : execClaimRetry requestId input s = .ok (s', pushed)) :
    Justified licence now frame s s' pushed := by
  rcases execClaimRetry_ok run with ⟨rfl, rfl⟩ | ⟨q, q', wrote, history, rfl, scheduled, _, _, _, rfl⟩
  · exact .same (by simp [Unstarting]) (by simp)
  · refine ⟨.wrote [] wrote ?_ (by simpa using history) (by simp) (by simp [Unstarting]), ?_⟩
    · exact fun status => absurd (status.symm.trans scheduled) (by simp)
    · simp [Asserts, Caller.Owns]

theorem execCallProvider_effect (owns : caller.Owns s q.id)
    (run : execCallProvider settings q caller input s = .ok (s', pushed)) : Justified licence now frame s s' pushed := by
  obtain ⟨descriptor, _, rfl, next⟩ := execCallProvider_ok run
  have effect : ∀ pushed, Unstarting pushed → Effect licence now frame s { s with history := s.history ++
      [.performed q.id (createOperation descriptor input.weather).performed] } pushed :=
    fun pushed unstarting => .requests rfl (fun _ known => known) ⟨_, rfl, by simp⟩ unstarting
  rcases next with ⟨e, rfl⟩ | ⟨result, rfl, _⟩
  · exact ⟨effect _ (by simp [Unstarting]), by simp [Asserts]⟩
  · refine ⟨effect _ (by simp [Unstarting]), fun next member => ?_⟩
    cases List.mem_singleton.mp member
    exact (effect [] (by simp [Unstarting])).owns owns

theorem execSettleAttempt_effect {result : ProviderOperationResult} (owns : caller.Owns s q.id)
    (run : execSettleAttempt settings q result caller input s = .ok (s', pushed)) :
    Justified licence now frame s s' pushed := by
  obtain ⟨current, settled, stored, id, settledId, rfl, history, written, outcome⟩ := execSettleAttempt_ok run
  have unstarting : Unstarting (afterAttempt q.id settled caller) := by
    intro executionId stepId member
    have := mem_afterAttempt member
    grind
  have kept : current.status = .succeeded → settled.status = .succeeded := by
    rcases outcome with ⟨_, kept⟩ | ⟨_, _, target, _, moved, _⟩
    · exact fun status => kept.status.trans status
    · exact moved.succeeded
  have effect : Effect licence now frame s s' (afterAttempt q.id settled caller) := by
    rcases written with quiet | wrote
    · refine .requests quiet.executions ?_ ⟨[], by simpa using history, by simp⟩ unstarting
      rintro other ⟨row, found, status⟩
      exact ⟨row, quiet.requests ▸ found, status⟩
    · exact .wrote [] wrote kept (by simpa using history) (by simp) unstarting
  have outcome : settled.status = .succeeded → s'.Succeeded q.id := by
    intro status
    rcases outcome with ⟨_, kept⟩ | ⟨_, wrote, _⟩
    · exact effect.succeeded ⟨current, stored, kept.status.symm.trans status⟩
    · exact ⟨settled, by simp [wrote.get, id], status⟩
  refine ⟨effect, fun frame member => ?_⟩
  rcases mem_afterAttempt member with rfl | rfl | ⟨_, _, rfl, rfl⟩ | ⟨_, _, rfl, rfl⟩
  · trivial
  · trivial
  · exact ⟨effect.recalls owns, outcome⟩
  · exact ⟨effect.recalls owns, outcome⟩

theorem execReport_effect (report : frame.isReport = true)
    (run : frame.exec settings input s = .ok (s', pushed)) : Justified licence now frame s s' pushed := by
  obtain ⟨reported, pushes⟩ := exec_report report run
  have unstarting : Unstarting pushed := by
    intro executionId stepId member
    rcases pushes _ member with next | ⟨_, _, same, _⟩
    · cases next
    · cases same
  have effect : Effect licence now frame s s' pushed := by
    rcases reported with quiet | ⟨q, q', target, wrote, history, _, moved⟩
    · refine .requests quiet.executions ?_ ⟨[], by simpa using quiet.history, by simp⟩ unstarting
      rintro other ⟨row, found, status⟩
      exact ⟨row, quiet.requests ▸ found, status⟩
    · exact .wrote [] wrote moved.succeeded (by simpa using history) (by simp) unstarting
  refine ⟨effect, fun next member => ?_⟩
  rcases pushes next member with again | ⟨executionId, q, rfl, stored⟩
  · cases next <;> trivial
  · exact fun status => effect.succeeded ⟨q, stored, status⟩

/-- Every committed frame has one of the effects of a saga, and justifies
what it pushes. -/
theorem effect (good : s.Good) (asserts : frame.Asserts s) (within : frame.Within licence s)
    (run : frame.exec settings input s = .ok (s', pushed)) :
    Justified licence input.readings.now frame s s' pushed := by
  by_cases workflow : frame.isWorkflow = true
  · exact (workflowStep workflow run).justified good asserts within
  cases frame <;> try exact absurd rfl workflow
  case createRequest =>
    obtain ⟨q, fresh, _, _, executions, requests, history, rfl⟩ := execCreateRequest_ok run
    refine ⟨.requests executions ?_ ⟨[], by simpa using history, by simp⟩ (by simp [Unstarting]), ?_⟩
    · rintro id ⟨row, found, status⟩
      refine ⟨row, ?_, status⟩
      rw [requests, Table.get_put, if_neg, found]
      rintro rfl
      exact absurd (fresh.symm.trans found) (by simp)
    · simp [Asserts, Caller.Owns]
  case dispatch => exact execDispatch_effect asserts run
  case callProvider => exact execCallProvider_effect asserts run
  case settleAttempt => exact execSettleAttempt_effect asserts run
  case claimRetry => exact execClaimRetry_effect run
  case retryRequest =>
    obtain ⟨q, q', wrote, _, moved, rfl, history⟩ := execRetryRequest_ok run
    exact ⟨.wrote _ wrote moved.succeeded history (by simp) (by simp [Unstarting]), by simp⟩
  all_goals exact execReport_effect rfl run

end Frame

/-- The runs of a restriction stay within a licence. -/
def Restriction.Within (allowed : Restriction) (licence : Licence) : Prop :=
  ∀ (c : Config) task input frame rest, allowed c (.run task input) →
    c.tasks[task]? = some (frame :: rest) → frame.Within licence c.state

theorem Restriction.within_any (allowed : Restriction) : allowed.Within .any := by
  intro c task input frame rest _ _
  cases frame <;> simp [Frame.Within, Licence.any]

/-- The system's invariant over every run. -/
theorem reachable_good {allowed : Restriction} (within : allowed.Within licence) {c : Config}
    (reach : ReachableUnder settings allowed c) :
    c.state.Good ∧ ∀ frame ∈ c.frames, frame.Asserts c.state := by
  refine reach.pool_invariant State.Good Frame.Asserts ⟨.initial, by simp [Config.initial, TaskPool.Config.frames]⟩ ?_ ?_
  · intro state frame _ entry
    cases frame <;> trivial
  · intro c task input frame rest state pushed good asserts ok atTask ran
    have top := asserts frame (TaskPool.mem_frames_top atTask)
    obtain ⟨effect, justified⟩ := Frame.effect good top (within c task input frame rest ok atTask) ran
    exact ⟨effect.good good, justified, fun other _ => effect.asserts⟩

section Runs

variable {allowed : Restriction} {c c₀ c' : Config} {a : Action}

/-- Every action of a run either leaves the stored state alone or commits one
frame of the system. -/
theorem next_effect (within : allowed.Within licence) (reach : ReachableUnder settings allowed c)
    (ok : allowed c a) (step : (orchestrator settings).next c a = some c') :
    c'.state = c.state ∨ ∃ task input frame rest pushed, a = .run task input ∧
      c.tasks[task]? = some (frame :: rest) ∧
      Effect licence input.readings.now frame c.state c'.state pushed := by
  obtain ⟨good, asserts⟩ := reachable_good within reach
  rcases TaskPool.next_state step with same | ⟨task, input, frame, rest, pushed, rfl, atTask, ran⟩
  · exact Or.inl same
  · have top := asserts frame (TaskPool.mem_frames_top atTask)
    have effect := (Frame.effect good top (within c task input frame rest ok atTask) ran).1
    exact Or.inr ⟨task, input, frame, rest, pushed, rfl, atTask, effect⟩

/-- What holds of the stored state and survives every effect holds for the
rest of the run. -/
theorem stays (holds : State → Prop) (within : allowed.Within licence)
    (keep : ∀ (c c' : Config) task input frame rest pushed, ReachableUnder settings allowed c →
      ReachableUnder settings allowed c' → allowed c (.run task input) → c.tasks[task]? = some (frame :: rest) →
      holds c.state → Effect licence input.readings.now frame c.state c'.state pushed → holds c'.state)
    (reached : ReachableUnder settings allowed c₀) (base : holds c₀.state)
    (reach : (orchestrator settings).Reach allowed c₀ c) : holds c.state := by
  refine (reach.invariant (fun c => ReachableUnder settings allowed c ∧ holds c.state) ⟨reached, base⟩ ?_).2
  rintro c a c' ⟨reached, held⟩ ok step
  have reached' := reached.next ok step
  refine ⟨reached', ?_⟩
  rcases next_effect within reached ok step with same | ⟨task, input, frame, rest, pushed, rfl, atTask, effect⟩
  · rw [same]
    exact held
  · exact keep c c' task input frame rest pushed reached reached' ok atTask held effect

end Runs

end IntegrationOrchestrator
