import IntegrationOrchestrator.Dispatch.Tracking
import IntegrationOrchestrator.Saga.Runs

namespace IntegrationOrchestrator

open IntegrationRequest RequestDispatcher

variable {settings : Settings} {input : Input} {s s' : State} {frame : Frame} {pushed : List Frame}
  {q : IntegrationRequest} {requestId : UUID} {c : Config}

/-- The operations an event records for this request. -/
def Event.operations (requestId : UUID) : Event → Nat
  | .performed other count => if other = requestId then count else 0
  | _ => 0

/-- How many operations the provider ever carried out for this request. -/
def State.performedCount (s : State) (requestId : UUID) : Nat :=
  (s.history.map (Event.operations requestId)).sum

/-- The result asks for another attempt, and the policy grants it. -/
def retriesAfter (settings : Settings) (q : IntegrationRequest) (result : ProviderOperationResult) : Bool :=
  ¬ result.accepted &&
    (settings.retryPolicy q.provider).shouldRetry q.attemptCount (result.error.getD missingError).retryable

/-- The runs in which no create call that the provider carried out ends in an
error after which the dispatcher schedules another attempt. -/
abbrev NoAmbiguousRetry (settings : Settings) : Restriction := .frames fun _ input frame =>
  match frame with
  | .callProvider q _ => (settings.descriptor q.provider).all fun descriptor =>
      let outcome := createOperation descriptor input.weather
      outcome.performed = 0 || match providerAnswer outcome.result with
        | .ok result => ¬ retriesAfter settings q result
        | .error _ => true
  | _ => true

/-- The tokens for reaching the provider that a pending frame holds. -/
def Frame.effectTokens (settings : Settings) (requestId : UUID) : Frame → Nat
  | .dispatch other _ => if other = requestId then 1 else 0
  | .callProvider q _ => if q.id = requestId then 1 else 0
  | .settleAttempt q result _ => if q.id = requestId && retriesAfter settings q result then 1 else 0
  | _ => 0

/-- The tokens that were spent, or wait in the row for the retry worker. -/
def State.effectTokens (s : State) (requestId : UUID) : Nat :=
  s.performedCount requestId +
    if (s.db.requests.get requestId).any (·.status = .retryScheduled) then 1 else 0

/-- The request may reach the provider more than once: an operator asked for
it, or the provider collapses duplicates. -/
def State.Unbounded (settings : Settings) (requestId : UUID) (s : State) : Prop :=
  Event.retryRequested requestId ∈ s.history ∨ ∃ q descriptor, s.db.requests.get requestId = some q ∧
    settings.descriptor q.provider = some descriptor ∧ descriptor.supportsProviderIdempotency = true

theorem Frame.effectTokens_idle (idle : frame.attempts = none) : frame.effectTokens settings requestId = 0 := by
  cases frame <;> first | rfl | cases idle

theorem Idle.effectTokens (idle : Idle pushed) (settings : Settings) (requestId : UUID) :
    (pushed.map (Frame.effectTokens settings requestId)).sum = 0 := by
  refine List.sum_eq_zero fun value member => ?_
  obtain ⟨frame, inside, rfl⟩ := List.mem_map.mp member
  exact Frame.effectTokens_idle (idle frame inside)

theorem State.performedCount_append {extra : List Event} (requestId : UUID) (history : s'.history = s.history ++ extra) :
    s'.performedCount requestId = s.performedCount requestId + (extra.map (Event.operations requestId)).sum := by
  rw [performedCount, performedCount, history, List.map_append, List.sum_append]

theorem State.performedCount_same (history : s'.history = s.history) :
    s'.performedCount requestId = s.performedCount requestId := by
  rw [performedCount, performedCount, history]

/-- Writing a row that is not scheduled for a retry creates no token. -/
theorem State.Wrote.effectTokens_le {old new : IntegrationRequest} (wrote : s.Wrote s' old new) (requestId : UUID)
    (history : s'.history = s.history) (settled : new.status = .retryScheduled → old.status = .retryScheduled) :
    s'.effectTokens requestId ≤ s.effectTokens requestId := by
  rw [effectTokens, effectTokens, performedCount_same history, wrote.get]
  split
  · rename_i same
    subst same
    rw [wrote.stored]
    simp only [Option.any_some, decide_eq_true_eq]
    by_cases scheduled : new.status = .retryScheduled
    · rw [if_pos scheduled, if_pos (settled scheduled)]
    · rw [if_neg scheduled]
      omega
  · exact le_refl _

/-- The balance of one step: tokens move between the row, the frames and the
provider, and none is created. -/
def Balanced (settings : Settings) (requestId : UUID) (s s' : State) (frame : Frame) (pushed : List Frame) : Prop :=
  s'.effectTokens requestId + (pushed.map (Frame.effectTokens settings requestId)).sum ≤
    s.effectTokens requestId + frame.effectTokens settings requestId

theorem State.effectTokens_quiet (requests : s'.db.requests = s.db.requests) (history : s'.history = s.history) :
    s'.effectTokens requestId = s.effectTokens requestId := by
  rw [effectTokens, effectTokens, performedCount_same history, requests]

/-- A claim turns the token of the dispatch, or of the row, into one of the call. -/
theorem balanced_claim {old new : IntegrationRequest} {caller : Caller} (wrote : s.Wrote s' old new)
    (begun : frame = .dispatch old.id caller ∨ (frame = .claimRetry old.id ∧ old.status = .retryScheduled))
    (history : s'.history = s.history) (status : new.status = .dispatching) :
    Balanced settings requestId s s' frame [.callProvider new caller] := by
  have fewer := wrote.effectTokens_le requestId history (by simp [status])
  simp only [Balanced, List.map_cons, List.map_nil, List.sum_cons, List.sum_nil, Frame.effectTokens, wrote.id]
  by_cases here : old.id = requestId
  · rcases begun with rfl | ⟨rfl, scheduled⟩
    · simp only [here, if_true]
      omega
    · have spent : s'.effectTokens requestId + 1 = s.effectTokens requestId := by
        rw [State.effectTokens, State.effectTokens, State.performedCount_same history, wrote.get,
          if_pos here.symm, ← here, wrote.stored]
        simp [status, scheduled]
      simp only [here, if_true]
      omega
  · rw [if_neg here]
    omega

/-- A settlement schedules a retry only with the token of its own frame. -/
theorem balanced_settle {current settled : IntegrationRequest} {result : ProviderOperationResult} {caller : Caller}
    (stored : s.db.requests.get q.id = some current) (tracked : q.Later current) (history : s'.history = s.history)
    (written : s.Quiet s' ∨ s.Wrote s' current settled)
    (outcome : (current.status ≠ .dispatching ∧ Kept current settled) ∨
      (current.status = .dispatching ∧ s.Wrote s' current settled ∧
        ∃ target ∈ settledStatuses, Moved current settled target ∧
          (target = .retryScheduled → result.accepted = false ∧
            (settings.retryPolicy current.provider).shouldRetry current.attemptCount
              (result.error.getD missingError).retryable = true))) :
    Balanced settings requestId s s' (.settleAttempt q result caller) (Frame.afterAttempt q.id settled caller) := by
  have idle := (idle_afterAttempt q.id settled caller).effectTokens settings requestId
  rw [Balanced, idle]
  rcases outcome with ⟨_, kept⟩ | ⟨dispatching, wrote, target, _, moved, retry⟩
  · rcases written with quiet | wrote
    · rw [State.effectTokens_quiet quiet.requests quiet.history]
      omega
    · have fewer := wrote.effectTokens_le requestId history fun status => kept.status ▸ status
      omega
  · by_cases scheduled : target = .retryScheduled
    · by_cases here : q.id = requestId
      · obtain ⟨rejected, granted⟩ := retry scheduled
        have again : retriesAfter settings q result = true := by
          rw [tracked.provider] at granted
          simp only [retriesAfter, rejected, Bool.and_eq_true]
          exact ⟨rfl, RetryPolicy.shouldRetry_mono tracked.attemptCount granted⟩
        have unscheduled : s.effectTokens requestId = s.performedCount requestId := by
          rw [State.effectTokens, ← here, stored]
          simp [dispatching]
        have held : s'.effectTokens requestId ≤ s.performedCount requestId + 1 := by
          rw [State.effectTokens, State.performedCount_same history]
          split <;> omega
        simp only [Frame.effectTokens, here, again, decide_true, Bool.and_self, if_true]
        omega
      · have elsewhere : requestId ≠ current.id := fun same => here (by rw [Table.get_key stored] at same; exact same.symm)
        have same : s'.effectTokens requestId = s.effectTokens requestId := by
          rw [State.effectTokens, State.effectTokens, State.performedCount_same history, wrote.get, if_neg elsewhere]
        omega
    · have fewer := wrote.effectTokens_le requestId history fun status =>
        absurd (moved.status.symm.trans status) scheduled
      omega

/-- A call spends its token at the provider, or passes it on to a settlement
that will schedule a retry; where retries are unambiguous it cannot do both. -/
theorem balanced_call {descriptor : ProviderDescriptor} {caller : Caller}
    (unambiguous : (createOperation descriptor input.weather).performed = 0 ∨
      ∀ result, providerAnswer (createOperation descriptor input.weather).result = .ok result →
        retriesAfter settings q result = false)
    (once : q.id = requestId → descriptor.supportsProviderIdempotency = false)
    (requests : s'.db.requests = s.db.requests)
    (history : s'.history = s.history ++ [.performed q.id (createOperation descriptor input.weather).performed])
    (next : (∃ e, pushed = [.raise e]) ∨ ∃ result, pushed = [.settleAttempt q result caller] ∧
      providerAnswer (createOperation descriptor input.weather).result = .ok result) :
    Balanced settings requestId s s' (.callProvider q caller) pushed := by
  have made := State.performedCount_append requestId history
  simp only [List.map_cons, List.map_nil, List.sum_cons, List.sum_nil, Event.operations] at made
  have spent : s'.effectTokens requestId = s.effectTokens requestId +
      if q.id = requestId then (createOperation descriptor input.weather).performed else 0 := by
    rw [State.effectTokens, State.effectTokens, made, requests]
    omega
  rw [Balanced, spent]
  by_cases here : q.id = requestId
  · have atMostOnce := createOperation_performed_le input.weather (once here)
    simp only [Frame.effectTokens, here, if_true]
    rcases next with ⟨e, rfl⟩ | ⟨result, rfl, answered⟩
    · simp only [List.map_cons, List.map_nil, List.sum_cons, List.sum_nil, Frame.effectTokens]
      omega
    · simp only [List.map_cons, List.map_nil, List.sum_cons, List.sum_nil, Frame.effectTokens, here, decide_true,
        Bool.true_and]
      rcases unambiguous with none | silent
      · split <;> omega
      · rw [silent result answered]
        simp only [Bool.false_eq_true, if_false]
        omega
  · have passed : (pushed.map (Frame.effectTokens settings requestId)).sum = 0 := by
      rcases next with ⟨e, rfl⟩ | ⟨result, rfl, _⟩ <;> simp [Frame.effectTokens, here]
    rw [passed, if_neg here]
    omega

theorem NoAmbiguousRetry.unambiguous {caller : Caller} {descriptor : ProviderDescriptor} {task : Nat}
    {rest : List Frame} (ok : NoAmbiguousRetry settings c (.run task input))
    (atTask : c.tasks[task]? = some (.callProvider q caller :: rest))
    (known : settings.descriptor q.provider = some descriptor) :
    (createOperation descriptor input.weather).performed = 0 ∨
      ∀ result, providerAnswer (createOperation descriptor input.weather).result = .ok result →
        retriesAfter settings q result = false := by
  have checked := Restriction.frames_run ok atTask
  simp only [known, Option.all_some, Bool.or_eq_true, decide_eq_true_eq] at checked
  refine checked.imp_right fun silent result answered => ?_
  rw [answered] at silent
  simpa using silent

/-- Once unbounded, a request stays so. -/
theorem RequestStep.unbounded (step : RequestStep settings input frame s s' pushed)
    (before : s.Unbounded settings requestId) : s'.Unbounded settings requestId := by
  rcases before with asked | ⟨q, descriptor, stored, known, collapses⟩
  · left
    cases step with
    | quiet _ _ history => exact history ▸ asked
    | creates _ _ _ _ _ history => exact history ▸ List.mem_append_left _ asked
    | claims _ _ _ history => exact history ▸ asked
    | calls _ _ _ history => exact history ▸ List.mem_append_left _ asked
    | settles _ _ _ _ history => exact history ▸ asked
    | retries _ _ _ history => exact history ▸ List.mem_append_left _ asked
    | reports _ _ history => exact history ▸ asked
  · obtain ⟨q', after, later⟩ := step.stored stored
    exact Or.inr ⟨q', descriptor, after, later.provider ▸ known, collapses⟩

/-- Before a request is created nothing is known of it and nothing is done for it. -/
theorem unstarted_tokens {allowed : Restriction} (reach : ReachableUnder settings allowed c)
    (absent : c.state.db.requests.get requestId = none) :
    c.state.effectTokens requestId + c.load (Frame.effectTokens settings requestId) = 0 := by
  obtain ⟨performed, tracks⟩ := reachable_tracked reach
  have noLoad : c.load (Frame.effectTokens settings requestId) = 0 := by
    refine TaskPool.load_eq_zero fun frame member => ?_
    by_contra held
    have carried : frame.attempts = some requestId := by
      cases frame <;> simp only [Frame.effectTokens, Frame.attempts, not_true] at held ⊢ <;> grind
    obtain ⟨q, stored⟩ := (tracks frame member).1 requestId carried
    exact absurd (stored.symm.trans absent) (by simp)
  have noEffect : c.state.performedCount requestId = 0 := by
    refine List.sum_eq_zero fun value member => ?_
    obtain ⟨event, inside, rfl⟩ := List.mem_map.mp member
    cases event with
    | performed other count =>
      have elsewhere : other ≠ requestId := by
        rintro rfl
        obtain ⟨q, stored⟩ := performed other count inside
        exact absurd (stored.symm.trans absent) (by simp)
      exact if_neg elsewhere
    | _ => rfl
  rw [noLoad, State.effectTokens, noEffect, absent]
  rfl

/-- Only a call of the provider changes what it carried out, and only for the
request of the call. -/
theorem RequestStep.performedCount_same (step : RequestStep settings input frame s s' pushed)
    (elsewhere : ∀ q caller, frame = .callProvider q caller → q.id ≠ requestId) :
    s'.performedCount requestId = s.performedCount requestId := by
  cases step with
  | quiet _ _ history => exact State.performedCount_same history
  | creates _ _ _ _ _ history made =>
    have quiet := List.sum_eq_zero fun value (member : value ∈ List.map (Event.operations requestId) _) => by
      obtain ⟨event, inside, rfl⟩ := List.mem_map.mp member
      obtain ⟨_, _, _, rfl⟩ := made event inside
      rfl
    rw [State.performedCount_append requestId history, quiet, Nat.add_zero]
  | claims _ _ _ history => exact State.performedCount_same history
  | @calls q caller _ _ here _ _ history =>
    rw [State.performedCount_append requestId history]
    simp [Event.operations, elsewhere q caller here]
  | settles _ _ _ _ history => exact State.performedCount_same history
  | retries _ _ _ history =>
    rw [State.performedCount_append requestId history]
    rfl
  | reports _ _ history => exact State.performedCount_same history

/-- Where retries are unambiguous, all the tokens of a request that may reach
the provider once are one. -/
theorem effectTokens_le (reach : ReachableUnder settings (NoAmbiguousRetry settings) c) (requestId : UUID) :
    c.state.Unbounded settings requestId ∨
      c.state.effectTokens requestId + c.load (Frame.effectTokens settings requestId) ≤ 1 := by
  refine reach.load_within (Frame.effectTokens settings requestId) (·.effectTokens requestId) (fun _ => 1)
    (State.Unbounded settings requestId) (Nat.zero_le 1) ?_ (fun _ _ _ _ _ ran => (Frame.requestStep ran).unbounded) ?_
  · intro frame entry
    refine Frame.effectTokens_idle ?_
    cases frame <;> first | rfl | cases entry
  · intro c task input frame rest state pushed reach ok atTask ran bounded held
    have tracks := (reachable_tracked reach).2 frame (TaskPool.mem_frames_top atTask)
    have enough : Balanced settings requestId c.state state frame pushed →
        state.effectTokens requestId + (pushed.map (Frame.effectTokens settings requestId)).sum +
          c.load (Frame.effectTokens settings requestId) ≤ 1 + frame.effectTokens settings requestId := by
      intro balanced
      unfold Balanced at balanced
      omega
    have step : RequestStep settings input frame c.state state pushed := Frame.requestStep ran
    have unspent : _ → state.performedCount requestId = _ := step.performedCount_same
    cases step with
    | quiet _ requests history idle =>
      refine enough ?_
      rw [Balanced, State.effectTokens_quiet requests history, idle.effectTokens]
      omega
    | @creates q caller _ idle fresh received _ requests =>
      have after : state.effectTokens requestId ≤ c.state.effectTokens requestId := by
        rw [State.effectTokens, State.effectTokens, unspent (by rintro _ _ rfl; cases idle), requests, Table.get_put]
        by_cases here : requestId = q.id
        · simp [here, received]
        · rw [if_neg here]
      by_cases here : q.id = requestId
      · have none := unstarted_tokens reach (here ▸ fresh)
        simp only [List.map_cons, List.map_nil, List.sum_cons, List.sum_nil, Frame.effectTokens, here, if_true]
        omega
      · simp only [List.map_cons, List.map_nil, List.sum_cons, List.sum_nil, Frame.effectTokens, here, if_false]
        omega
    | claims begun _ wrote history status => exact enough (balanced_claim wrote begun history status)
    | @calls q caller descriptor _ here known requests history next =>
      subst here
      refine enough (balanced_call (ok.unambiguous atTask known) (fun same => ?_) requests history next)
      by_contra collapses
      obtain ⟨current, stored, later⟩ := tracks.2 q rfl
      refine bounded (Or.inr ⟨current, descriptor, ?_, later.provider ▸ known, by simpa using collapses⟩)
      rw [requests, ← same]
      exact stored
    | settles here stored _ _ history written outcome =>
      subst here
      obtain ⟨current, stored', later⟩ := tracks.2 _ rfl
      cases stored.symm.trans stored'
      exact enough (balanced_settle stored later history written outcome)
    | @retries q q' actor asks wrote _ history =>
      have elsewhere : q.id ≠ requestId := by
        rintro rfl
        exact bounded (Or.inl (by simp [history]))
      refine enough ?_
      rw [Balanced, State.effectTokens, State.effectTokens, unspent (by rintro _ _ rfl; cases asks), wrote.get, if_neg (Ne.symm elsewhere)]
      exact Nat.le_add_right _ _
    | @reports q q' target _ _ wrote history listed moved idle =>
      refine enough ?_
      have unscheduled : q'.status ≠ .retryScheduled := by
        rw [moved.status]
        rintro rfl
        simp [Frame.reportedStatuses] at listed
      have fewer := wrote.effectTokens_le requestId history fun status => absurd status unscheduled
      rw [Balanced, idle.effectTokens]
      omega

/-- No duplicate provider effect, over every run in which no create call that
the provider carried out ends in an error that the dispatcher retries. -/
theorem single_provider_effect (reach : ReachableUnder settings (NoAmbiguousRetry settings) c)
    (stored : c.state.db.requests.get requestId = some q) {descriptor : ProviderDescriptor}
    (known : settings.descriptor q.provider = some descriptor)
    (noIdempotency : descriptor.supportsProviderIdempotency = false)
    (unasked : Event.retryRequested requestId ∉ c.state.history) : c.state.performedCount requestId ≤ 1 := by
  have bounded := (effectTokens_le reach requestId).resolve_left (by
    rintro (asked | ⟨other, found, here, same, collapses⟩)
    · exact unasked asked
    · cases stored.symm.trans here
      cases known.symm.trans same
      simp [noIdempotency] at collapses)
  unfold State.effectTokens at bounded
  omega

/-- A call that times out after the provider carried the operation out is
retried, and the provider carries the operation out again. -/
theorem timeout_duplicates_effect :
    ∃ c, Reachable Sample.settings c ∧ ∃ q, c.state.db.requests.get 200 = some q ∧
      Sample.settings.descriptor q.provider = some Sample.descriptor ∧
      Sample.descriptor.supportsProviderIdempotency = false ∧
      Event.retryRequested 200 ∉ c.state.history ∧ c.state.performedCount 200 = 2 := by
  obtain ⟨c, reach, q, stored, unasked, twice⟩ := reachable_replay Sample.settings Sample.retried
    (fun c => ∃ q, c.state.db.requests.get 200 = some q ∧ Event.retryRequested 200 ∉ c.state.history ∧
      c.state.performedCount 200 = 2) (by decide +kernel)
  exact ⟨c, reach, q, stored, rfl, rfl, unasked, twice⟩

theorem single_provider_effect_answered :
    ∃ c, ReachableUnder Sample.settings (NoAmbiguousRetry Sample.settings) c ∧
      (∃ q, c.state.db.requests.get 200 = some q) ∧ c.state.performedCount 200 = 1 ∧
      c.state.performedCount 200 ≤ 1 := by
  obtain ⟨c, reach, q, stored, unasked, once⟩ := reachableUnder_replay Sample.settings
    (NoAmbiguousRetry Sample.settings) (Sample.onlyStep (Sample.answered .succeeded "op-1") ++ Sample.work 0 4 300 1)
    (fun c => ∃ q, c.state.db.requests.get 200 = some q ∧ Event.retryRequested 200 ∉ c.state.history ∧
      c.state.performedCount 200 = 1) (by decide)
  exact ⟨c, reach, ⟨q, stored⟩, once, single_provider_effect reach stored rfl rfl unasked⟩

end IntegrationOrchestrator
