import IntegrationOrchestrator.Dispatch.Selection
import IntegrationOrchestrator.Dispatch.Tracking
import IntegrationOrchestrator.Journal.RequestHistory

namespace IntegrationOrchestrator

open IntegrationRequest RequestDispatcher

variable {settings : Settings} {input : Input} {s s' : State} {frame : Frame} {pushed : List Frame}
  {q q' : IntegrationRequest} {requestId : UUID} {c : Config} {rows : List RequestRecord}

/-! ### Attempts and the journal -/

/-- The rows of the request that say that it entered `dispatching`. -/
def Database.dispatched (db : Database) (requestId : UUID) : Nat := entries (db.statusChanges requestId)

theorem entries_changesOf (about : ∀ row ∈ rows, row.requestId = requestId) :
    entries (changesOf requestId rows) = entries rows := by
  rw [changesOf_same about, entries, entries, List.countP_filter]
  refine List.countP_congr fun row _ => ?_
  cases row.changes <;> simp

/-- Every stored request has counted its attempts. -/
def State.CountsAttempts (s : State) : Prop :=
  ∀ requestId q, s.db.requests.get requestId = some q → q.attemptCount = s.db.dispatched requestId

theorem State.CountsAttempts.keep (counts : s.CountsAttempts) (chronicled : s.Chronicled)
    {readings : WorkflowOrchestrator.Readings} (journaled : Journaled readings frame s s') : s'.CountsAttempts := by
  intro requestId q stored
  cases journaled with
  | noted requests records silent =>
    rw [Database.dispatched, statusChanges_append records, changesOf_silent fun row member => (silent row member).1,
      List.append_nil]
    exact counts requestId q (requests ▸ stored)
  | @born new actor rows fresh received unattempted _ _ requests records silent =>
    have later : changesOf requestId rows = [] := changesOf_silent fun row member => (silent row member).1
    have none : entries (changesOf requestId (creationRecord new actor :: rows)) = 0 := by
      unfold changesOf at later ⊢
      rw [List.filter_cons, later]
      split
      · simp [entries, creationRecord, received]
      · rfl
    rw [Database.dispatched, statusChanges_append records, entries_append, none, Nat.add_zero]
    rw [requests, Table.get_put] at stored
    split at stored
    · rename_i same
      cases stored
      rw [same, chronicled.unborn fresh, unattempted]
      rfl
    · exact counts requestId q stored
  | @wrote old new rows _ stored' journals _ requests records =>
    rw [Database.dispatched, statusChanges_append records, entries_append]
    rw [requests, Table.get_put, journals.id] at stored
    split at stored
    · rename_i same
      cases stored
      subst same
      rw [entries_changesOf journals.about, journals.attempts, counts _ _ stored']
      push_cast
      rfl
    · rename_i other
      rw [changesOf_other journals.about other]
      exact counts requestId q stored

theorem reachable_countsAttempts (reach : Reachable settings c) : c.state.CountsAttempts := by
  refine reach.state_invariant State.CountsAttempts (fun _ _ stored => by cases stored) ?_
  intro c task input frame rest state pushed reached counts _ _ ran
  exact counts.keep (reachable_chronicled reached) (Frame.journaled ran)

/-- The row says that the request left `retry_scheduled` to be dispatched. -/
def RequestRecord.dispatchesRetry (row : RequestRecord) : Bool :=
  row.previous = some .retryScheduled && row.new = .dispatching

/-- Between two dispatches out of `retry_scheduled` a new stay begins. -/
theorem stay_between (reach : Reachable settings c) (stored : c.state.db.requests.get requestId = some q)
    {before between after : List RequestRecord} {first second : RequestRecord}
    (changes : c.state.db.statusChanges requestId = before ++ first :: (between ++ second :: after))
    (one : first.dispatchesRetry = true) (other : second.dispatchesRetry = true) :
    ∃ row ∈ between, row.new = .retryScheduled := by
  simp only [RequestRecord.dispatchesRetry, Bool.and_eq_true, decide_eq_true_eq] at one other
  obtain ⟨birth, links, whole, born, _, path⟩ := (reachable_chronicled reach).path requestId q stored
  rw [changes] at whole
  cases before with
  | nil =>
    obtain ⟨rfl, _⟩ := List.cons.inj whole
    exact absurd (born.symm.trans one.1) (by simp)
  | cons row before =>
    obtain ⟨_, rfl⟩ := List.cons.inj whole
    obtain ⟨_, _, _, _, rest⟩ := Trail.path_append_iff.mp path
    obtain ⟨middle, inner, leaves, _⟩ := Trail.path_append_iff.mp rest
    rw [one.2] at inner
    have here : middle = .retryScheduled := Option.some.inj (leaves.symm.trans other.1)
    have balance := inner.balance .retryScheduled
    simp only [here, if_true, reduceCtorEq, if_false] at balance
    have entered : 0 < between.countP (RequestRecord.new · = .retryScheduled) := by omega
    obtain ⟨row, member, status⟩ := List.countP_pos_iff.mp entered
    exact ⟨row, member, of_decide_eq_true status⟩

/-! ### The budget -/

/-- How often an operator asked for another try. -/
def State.retriesOf (s : State) (requestId : UUID) : Nat := s.history.count (.retryRequested requestId)

def Frame.dispatches (requestId : UUID) : Frame → Nat
  | .dispatch other _ => if other = requestId then 1 else 0
  | _ => 0

/-- Everything that a committed frame can do to one request's attempts. The
numbers are those of the pending dispatches of the request that the frame spends
and makes. -/
inductive AttemptStep (settings : Settings) (requestId : UUID) (s s' : State) : Nat → Nat → Prop
  | same {spent made : Nat} : s'.db.requests.get requestId = s.db.requests.get requestId →
      s'.retriesOf requestId = s.retriesOf requestId → made ≤ spent → AttemptStep settings requestId s s' spent made
  | born {q : IntegrationRequest} : s.db.requests.get requestId = none → s'.db.requests.get requestId = some q →
      q.status = .received → q.attemptCount = 0 → s'.retriesOf requestId = s.retriesOf requestId →
      AttemptStep settings requestId s s' 0 1
  | claimed {q q' : IntegrationRequest} {spent : Nat} : s.db.requests.get requestId = some q →
      s'.db.requests.get requestId = some q' → q'.status = .dispatching → q'.provider = q.provider →
      q'.attemptCount = q.attemptCount + 1 → s'.retriesOf requestId = s.retriesOf requestId →
      (spent = 1 ∨ spent = 0 ∧ q.status = .retryScheduled) → AttemptStep settings requestId s s' spent 0
  | moved {q q' : IntegrationRequest} : s.db.requests.get requestId = some q →
      s'.db.requests.get requestId = some q' → q'.provider = q.provider → q'.attemptCount = q.attemptCount →
      s.retriesOf requestId ≤ s'.retriesOf requestId → (q'.status = .dispatching → q.status = .dispatching) →
      (q'.status = .retryScheduled → q.status = .retryScheduled ∨
        (q.status = .dispatching ∧ q.attemptCount < (settings.retryPolicy q.provider).maxAttempts) ∨
        s'.retriesOf requestId = s.retriesOf requestId + 1) → AttemptStep settings requestId s s' 0 0

theorem Frame.dispatches_of_idle (idle : frame.attempts = none) : frame.dispatches requestId = 0 := by
  cases frame <;> first | rfl | cases idle

theorem Idle.dispatches (idle : Idle pushed) : (pushed.map (Frame.dispatches requestId)).sum = 0 := by
  refine List.sum_eq_zero fun value member => ?_
  obtain ⟨frame, inside, rfl⟩ := List.mem_map.mp member
  exact Frame.dispatches_of_idle (idle frame inside)

theorem State.retriesOf_append {extra : List Event} (history : s'.history = s.history ++ extra)
    (none : Event.retryRequested requestId ∉ extra) : s'.retriesOf requestId = s.retriesOf requestId := by
  rw [retriesOf, retriesOf, history, List.count_append, List.count_eq_zero_of_not_mem none, Nat.add_zero]

theorem State.retriesOf_same (history : s'.history = s.history) : s'.retriesOf requestId = s.retriesOf requestId := by
  rw [retriesOf, retriesOf, history]

/-- A write of a row, seen from one request. -/
theorem State.Wrote.seen {old new : IntegrationRequest} (wrote : s.Wrote s' old new) (requestId : UUID) :
    (requestId ≠ old.id ∧ s'.db.requests.get requestId = s.db.requests.get requestId) ∨
      (requestId = old.id ∧ s.db.requests.get requestId = some old ∧ s'.db.requests.get requestId = some new) := by
  rw [wrote.get]
  by_cases here : requestId = old.id
  · rw [if_pos here, here]
    exact .inr ⟨rfl, wrote.stored, rfl⟩
  · rw [if_neg here]
    exact .inl ⟨here, rfl⟩

theorem RequestStep.attemptStep (step : RequestStep settings input frame s s' pushed) (requestId : UUID) :
    AttemptStep settings requestId s s' (frame.dispatches requestId)
      (pushed.map (Frame.dispatches requestId)).sum := by
  cases step with
  | quiet outside requests history idle =>
    rw [idle.dispatches]
    exact .same (by rw [requests]) (State.retriesOf_same history) (Nat.zero_le _)
  | @creates q caller extra outside fresh received unattempted requests history made =>
    have retries : s'.retriesOf requestId = s.retriesOf requestId := by
      refine State.retriesOf_append history fun asked => ?_
      obtain ⟨_, _, _, same⟩ := made _ asked
      cases same
    rw [Frame.dispatches_of_idle outside]
    by_cases here : q.id = requestId
    · have one : ([Frame.dispatch q.id caller].map (Frame.dispatches requestId)).sum = 1 := by
        simp [Frame.dispatches, here]
      rw [one]
      refine .born (here ▸ fresh) ?_ received unattempted retries
      rw [requests, Table.get_put, if_pos here.symm]
    · have none : ([Frame.dispatch q.id caller].map (Frame.dispatches requestId)).sum = 0 := by
        simp [Frame.dispatches, here]
      rw [none]
      refine .same ?_ retries le_rfl
      rw [requests, Table.get_put, if_neg (Ne.symm here)]
  | @claims q q' caller begun _ wrote history status provider attempts =>
    have none : ([Frame.callProvider q' caller].map (Frame.dispatches requestId)).sum = 0 := rfl
    rw [none]
    rcases wrote.seen requestId with ⟨_, same⟩ | ⟨rfl, before, after⟩
    · exact .same same (State.retriesOf_same history) (Nat.zero_le _)
    · refine .claimed before after status provider attempts (State.retriesOf_same history) ?_
      rcases begun with rfl | ⟨rfl, scheduled⟩
      · exact .inl (if_pos rfl)
      · exact .inr ⟨rfl, scheduled⟩
  | calls here _ requests history next =>
    have none : (pushed.map (Frame.dispatches requestId)).sum = 0 := by
      rcases next with ⟨_, rfl⟩ | ⟨_, rfl, _⟩ <;> rfl
    rw [none]
    exact .same (by rw [requests]) (State.retriesOf_append history (by simp)) (Nat.zero_le _)
  | @settles q result caller current settled here stored _ _ history written outcome =>
    subst here
    rw [(idle_afterAttempt q.id settled caller).dispatches]
    rcases written with quiet | wrote
    · exact .same (by rw [quiet.requests]) (State.retriesOf_same history) (Nat.zero_le _)
    · rcases wrote.seen requestId with ⟨_, same⟩ | ⟨_, before, after⟩
      · exact .same same (State.retriesOf_same history) (Nat.zero_le _)
      · rcases outcome with ⟨_, kept⟩ | ⟨dispatching, _, target, listed, moved, retry⟩
        · exact .moved before after kept.provider kept.attemptCount (State.retriesOf_same history).ge
            (fun status => kept.status ▸ status) (fun status => .inl (kept.status ▸ status))
        · refine .moved before after moved.provider moved.attemptCount (State.retriesOf_same history).ge
            (fun _ => dispatching) (fun status => .inr (.inl ⟨dispatching, ?_⟩))
          have granted := (retry (moved.status.symm.trans status)).2
          simp only [RetryPolicy.shouldRetry, RetryPolicy.hasAttemptsRemaining, Bool.and_eq_true,
            decide_eq_true_eq] at granted
          exact granted.2
  | @retries q q' actor here wrote moved history =>
    subst here
    rcases wrote.seen requestId with ⟨other, same⟩ | ⟨rfl, before, after⟩
    · exact .same same (State.retriesOf_append history (by simpa using other)) (Nat.zero_le _)
    · have asked : s'.retriesOf q.id = s.retriesOf q.id + 1 := by
        rw [State.retriesOf, State.retriesOf, history, List.count_append, List.count_singleton_self]
      exact .moved before after moved.provider moved.attemptCount (by omega)
        (fun status => by rw [moved.status] at status; cases status) (fun _ => .inr (.inr asked))
  | @reports q q' target pushed outside wrote history listed moved idle =>
    rw [idle.dispatches]
    rcases wrote.seen requestId with ⟨_, same⟩ | ⟨_, before, after⟩
    · exact .same same (State.retriesOf_same history) (Nat.zero_le _)
    · rw [Frame.dispatches_of_idle outside]
      refine .moved before after moved.provider moved.attemptCount (State.retriesOf_same history).ge ?_ ?_ <;>
      · intro status
        rw [moved.status] at status
        subst status
        simp [Frame.reportedStatuses] at listed

/-- The attempts of a stored request: one that is dispatched has begun an
attempt, and so has one that is scheduled for a retry, unless an operator asked
for it. -/
structure IntegrationRequest.Begun (s : State) (requestId : UUID) (q : IntegrationRequest) : Prop where
  nonneg : 0 ≤ q.attemptCount
  dispatching : q.status = .dispatching → 1 ≤ q.attemptCount
  scheduled : q.status = .retryScheduled → 1 ≤ q.attemptCount ∨ 1 ≤ s.retriesOf requestId

theorem AttemptStep.begun {spent made : Nat} (step : AttemptStep settings requestId s s' spent made)
    (begun : ∀ q, s.db.requests.get requestId = some q → q.Begun s requestId) :
    ∀ q, s'.db.requests.get requestId = some q → q.Begun s' requestId := by
  intro row stored
  cases step with
  | same unchanged retries =>
    obtain ⟨nonneg, dispatching, scheduled⟩ := begun row (unchanged ▸ stored)
    exact ⟨nonneg, dispatching, retries ▸ scheduled⟩
  | born _ after received unattempted _ =>
    cases Option.some.inj (stored.symm.trans after)
    exact ⟨unattempted.ge, fun status => by simp [received] at status, fun status => by simp [received] at status⟩
  | claimed before after status _ attempts _ _ =>
    cases Option.some.inj (stored.symm.trans after)
    have nonneg := (begun _ before).nonneg
    exact ⟨by omega, fun _ => by omega, fun scheduled => by rw [status] at scheduled; cases scheduled⟩
  | moved before after _ attempts more still retry =>
    cases Option.some.inj (stored.symm.trans after)
    obtain ⟨nonneg, dispatching, scheduled⟩ := begun _ before
    rw [← attempts] at nonneg dispatching scheduled
    refine ⟨nonneg, fun status => dispatching (still status), fun status => ?_⟩
    rcases retry status with already | ⟨wasDispatching, _⟩ | asked
    · exact (scheduled already).imp_right more.trans'
    · exact .inl (dispatching wasDispatching)
    · exact .inr (by omega)

theorem reachable_begun {allowed : Restriction} (reach : ReachableUnder settings allowed c) (requestId : UUID) :
    ∀ q, c.state.db.requests.get requestId = some q → q.Begun c.state requestId := by
  refine reach.state_invariant (fun s => ∀ q, s.db.requests.get requestId = some q → q.Begun s requestId)
    (fun _ stored => nomatch stored) ?_
  intro c task input frame rest state pushed _ begun _ _ ran
  exact ((Frame.requestStep ran).attemptStep requestId).begun begun

theorem Frame.dispatches_of_entry (entry : frame.isEntry = true) :
    frame.dispatches requestId = 0 := by
  cases frame <;> first | rfl | cases entry

/-- Nothing is dispatched before it is created. -/
theorem load_unborn {allowed : Restriction} (reach : ReachableUnder settings allowed c)
    (absent : c.state.db.requests.get requestId = none) : c.load (Frame.dispatches requestId) = 0 := by
  refine TaskPool.load_eq_zero fun frame member => ?_
  by_contra held
  have carried : frame.attempts = some requestId := by
    cases frame <;> simp only [Frame.dispatches, Frame.attempts, not_true] at held ⊢
    grind
  obtain ⟨q, stored⟩ := ((reachable_tracked reach).2 frame member).1 requestId carried
  exact absurd (stored.symm.trans absent) (by simp)

theorem load_le_one {allowed : Restriction} (reach : ReachableUnder settings allowed c) (requestId : UUID) :
    c.load (Frame.dispatches requestId) ≤ 1 := by
  have bounded := reach.load_invariant (Frame.dispatches requestId) (fun _ => 0) 1 (Nat.zero_le _)
    (fun frame entry => Frame.dispatches_of_entry entry)
    (fun c task input frame rest state pushed reached _ atTask ran held => by
      have step := (Frame.requestStep ran).attemptStep requestId
      generalize frame.dispatches requestId = spent at *
      generalize (pushed.map (Frame.dispatches requestId)).sum = made at *
      cases step with
      | born absent =>
        have none := load_unborn reached absent
        omega
      | _ => omega)
  omega

/-- One while the request has begun no attempt. -/
def IntegrationRequest.untried (q : IntegrationRequest) : Nat := if q.attemptCount = 0 then 1 else 0

/-- One while the request waits for a retry. -/
def IntegrationRequest.awaited (q : IntegrationRequest) : Nat := if q.status = .retryScheduled then 1 else 0

/-- A number read off the stored row. -/
def State.reads (s : State) (requestId : UUID) (value : IntegrationRequest → Nat) : Nat :=
  ((s.db.requests.get requestId).map value).getD 0

theorem State.reads_stored {value : IntegrationRequest → Nat} (stored : s.db.requests.get requestId = some q) :
    s.reads requestId value = value q := by
  rw [reads, stored]
  rfl

theorem State.reads_absent {value : IntegrationRequest → Nat} (absent : s.db.requests.get requestId = none) :
    s.reads requestId value = 0 := by
  rw [reads, absent]
  rfl

/-- The dispatch of a new request is its first attempt, unless a retry that was
scheduled without one is accounted for elsewhere. -/
theorem load_le_untried_unless {allowed : Restriction} (requestId : UUID) (excused : State → Nat)
    (grows : ∀ {s s' spent made}, AttemptStep settings requestId s s' spent made → excused s ≤ excused s')
    (scheduled : ∀ {c q}, ReachableUnder settings allowed c → c.state.db.requests.get requestId = some q →
      q.status = .retryScheduled → 1 ≤ q.attemptCount ∨ 1 ≤ excused c.state)
    (reach : ReachableUnder settings allowed c) :
    c.load (Frame.dispatches requestId) ≤ excused c.state + c.state.reads requestId IntegrationRequest.untried := by
  have bounded := reach.load_within (Frame.dispatches requestId) (fun _ => 0)
    (fun s => excused s + s.reads requestId IntegrationRequest.untried) (fun _ => False) (Nat.zero_le _)
    (fun frame entry => Frame.dispatches_of_entry entry) (fun _ _ _ _ _ _ never => never)
    (fun c task input frame rest state pushed reached _ atTask ran _ held => by
      have step := (Frame.requestStep ran).attemptStep requestId
      have more := grows step
      have once := load_le_one reached requestId
      generalize frame.dispatches requestId = spent at *
      generalize (pushed.map (Frame.dispatches requestId)).sum = made at *
      cases step with
      | same unchanged _ fewer =>
        have same : state.reads requestId IntegrationRequest.untried = c.state.reads requestId IntegrationRequest.untried := by
          rw [State.reads, State.reads, unchanged]
        omega
      | born absent after _ unattempted _ =>
        have none := load_unborn reached absent
        have one := @State.reads_stored _ _ _ IntegrationRequest.untried after
        rw [IntegrationRequest.untried, if_pos unattempted] at one
        omega
      | claimed before _ _ _ _ _ spends =>
        rcases spends with _ | ⟨_, waits⟩
        · omega
        · rcases scheduled reached before waits with tried | asked
          · rw [State.reads_stored before, IntegrationRequest.untried, if_neg (by omega)] at held
            omega
          · omega
      | moved before after _ attempts =>
        have here := @State.reads_stored _ _ _ IntegrationRequest.untried before
        have there := @State.reads_stored _ _ _ IntegrationRequest.untried after
        rw [IntegrationRequest.untried, attempts, ← IntegrationRequest.untried, ← here] at there
        omega)
  have within := bounded.resolve_left id
  omega

theorem AttemptStep.retries_le {spent made : Nat} (step : AttemptStep settings requestId s s' spent made) :
    s.retriesOf requestId ≤ s'.retriesOf requestId := by
  cases step <;> omega

/-- Attempts begun, one in waiting and dispatches still to come stay within the
policy's attempts and the operators' retries. -/
theorem attempts_within {allowed : Restriction} (reach : ReachableUnder settings allowed c) (requestId : UUID) :
    c.state.reads requestId (fun q => q.attemptCount.toNat + q.awaited) + c.load (Frame.dispatches requestId) ≤
      c.state.reads requestId (fun q => (settings.retryPolicy q.provider).maxAttempts.toNat) +
        c.state.retriesOf requestId := by
  have bounded := reach.load_within (Frame.dispatches requestId)
    (fun s => s.reads requestId fun q => q.attemptCount.toNat + q.awaited)
    (fun s => s.reads requestId (fun q => (settings.retryPolicy q.provider).maxAttempts.toNat) + s.retriesOf requestId)
    (fun _ => False) (Nat.zero_le _)
    (fun frame entry => Frame.dispatches_of_entry entry) (fun _ _ _ _ _ _ never => never)
    (fun c task input frame rest state pushed reached _ atTask ran _ held => by
      have step := (Frame.requestStep ran).attemptStep requestId
      have begun := reachable_begun reached requestId
      have few := load_le_untried_unless requestId (·.retriesOf requestId) AttemptStep.retries_le
        (fun reached stored => (reachable_begun reached requestId _ stored).scheduled) reached
      generalize frame.dispatches requestId = spent at *
      generalize (pushed.map (Frame.dispatches requestId)).sum = made at *
      cases step with
      | same unchanged retries fewer =>
        unfold State.reads at held ⊢
        rw [unchanged]
        omega
      | @born new absent after received unattempted _ =>
        have none := load_unborn reached absent
        have positive := (settings.retryPolicy new.provider).attempts_pos
        rw [State.reads_stored after, State.reads_stored after, unattempted, IntegrationRequest.awaited, received]
        simp only [reduceCtorEq, if_false]
        omega
      | @claimed old new _ before after status provider attempts retries spends =>
        have nonneg := (begun _ before).nonneg
        rw [State.reads_stored before, State.reads_stored before, IntegrationRequest.awaited] at held
        rw [State.reads_stored after, State.reads_stored after, IntegrationRequest.awaited, status, provider, attempts]
        simp only [reduceCtorEq, if_false]
        rcases spends with _ | ⟨_, waits⟩
        · omega
        · rw [if_pos waits] at held
          omega
      | @moved old new before after provider attempts more _ retry =>
        obtain ⟨nonneg, dispatching, _⟩ := begun _ before
        rw [State.reads_stored before, State.reads_stored before, IntegrationRequest.awaited] at held
        rw [State.reads_stored before] at few
        rw [State.reads_stored after, State.reads_stored after, IntegrationRequest.awaited, provider, attempts]
        by_cases waits : new.status = .retryScheduled
        · rw [if_pos waits]
          rcases retry waits with already | ⟨wasDispatching, left⟩ | asked
          · rw [if_pos already] at held
            omega
          · -- A retry that the policy grants: no dispatch is pending unless an operator pays for it.
            have begun := dispatching wasDispatching
            rw [IntegrationRequest.untried, if_neg (by omega)] at few
            omega
          · omega
        · rw [if_neg waits]
          omega)
  exact bounded.resolve_left id

/-! ### Calls of the adapter -/

/-- What the pending create calls of a request cost, at a rate per call. -/
def Frame.price (rate : ProviderSlug → Nat) (requestId : UUID) : Frame → Nat
  | .callProvider q _ => if q.id = requestId then rate q.provider else 0
  | _ => 0

/-- What the attempts of a request may cost. -/
def State.budget (s : State) (rate : ProviderSlug → Nat) (requestId : UUID) : Nat :=
  s.reads requestId fun q => rate q.provider * q.attemptCount.toNat

variable {rate : ProviderSlug → Nat}

theorem Frame.price_of_idle (idle : frame.attempts = none) : frame.price rate requestId = 0 := by
  cases frame <;> first | rfl | cases idle

theorem Frame.price_of_entry (entry : frame.isEntry = true) :
    frame.price rate requestId = 0 := by
  cases frame <;> first | rfl | cases entry

theorem Idle.price (idle : Idle pushed) : (pushed.map (Frame.price rate requestId)).sum = 0 := by
  refine List.sum_eq_zero fun value member => ?_
  obtain ⟨frame, inside, rfl⟩ := List.mem_map.mp member
  exact Frame.price_of_idle (idle frame inside)

theorem RequestStep.budget_le (step : RequestStep settings input frame s s' pushed) (rate : ProviderSlug → Nat)
    (requestId : UUID) : s.budget rate requestId ≤ s'.budget rate requestId := by
  cases before : s.db.requests.get requestId with
  | none =>
    rw [State.budget, State.reads_absent before]
    exact Nat.zero_le _
  | some q =>
    obtain ⟨q', after, provider, more⟩ := step.stored before
    rw [State.budget, State.budget, State.reads_stored before, State.reads_stored after, provider]
    exact Nat.mul_le_mul_left _ (Int.toNat_le_toNat more)

/-- Every create call that is about to be made is paid by an attempt. -/
theorem RequestStep.paid (step : RequestStep settings input frame s s' pushed) (rate : ProviderSlug → Nat)
    (begun : ∀ q, s.db.requests.get requestId = some q → 0 ≤ q.attemptCount) :
    s.budget rate requestId + (pushed.map (Frame.price rate requestId)).sum ≤ s'.budget rate requestId := by
  have grows := step.budget_le rate requestId
  cases step with
  | quiet _ _ _ idle =>
    rw [idle.price]
    exact grows
  | creates => exact grows
  | @claims q q' caller _ _ wrote _ _ provider attempts =>
    rw [List.map_singleton, List.sum_singleton, Frame.price]
    split
    · rename_i here
      rcases wrote.seen requestId with ⟨other, _⟩ | ⟨_, before, after⟩
      · exact absurd (here.symm.trans wrote.id) other
      · have nonneg := begun q before
        have more : q'.attemptCount.toNat = q.attemptCount.toNat + 1 := by omega
        rw [State.budget, State.budget, State.reads_stored before, State.reads_stored after, provider, more, Nat.mul_succ]
    · exact grows
  | calls _ _ _ _ next =>
    have none : (pushed.map (Frame.price rate requestId)).sum = 0 := by
      rcases next with ⟨_, rfl⟩ | ⟨_, rfl, _⟩ <;> rfl
    rw [none]
    exact grows
  | settles =>
    rw [(idle_afterAttempt _ _ _).price]
    exact grows
  | retries => exact grows
  | reports _ _ _ _ _ idle =>
    rw [idle.price]
    exact grows

/-- The calls of the adapter that carrying out a frame makes for a request. -/
def Frame.issues (settings : Settings) (requestId : UUID) : Frame → Input → State → Nat
  | .callProvider q _, input, _ =>
    match settings.descriptor q.provider with
    | some descriptor => if q.id = requestId then (createOperation descriptor input.weather).issued else 0
    | none => 0
  | _, _, _ => 0

/-- The calls of the adapter that one attempt may make. -/
def Settings.callsPerAttempt (settings : Settings) (provider : ProviderSlug) : Nat :=
  match settings.descriptor provider with
  | some descriptor => if descriptor.supportsProviderIdempotency then inProcessMaxAttempts else 1
  | none => 0

theorem Frame.issues_le (settings : Settings) (requestId : UUID) (frame : Frame) (input : Input) (s : State) :
    frame.issues settings requestId input s ≤ frame.price settings.callsPerAttempt requestId := by
  cases frame with
  | callProvider q caller =>
    simp only [issues, price, Settings.callsPerAttempt]
    cases settings.descriptor q.provider with
    | none => exact Nat.zero_le _
    | some descriptor =>
      dsimp only
      split
      · exact createOperation_issued_le ..
      · exact le_rfl
  | _ => exact Nat.zero_le _

/-- The orchestrator with a count of the create calls issued to the adapter for
one request. -/
abbrev counting (settings : Settings) (requestId : UUID) : TaskPool.Program (State × Nat) Frame Input Exn :=
  (orchestrator settings).metered (Frame.issues settings requestId)

abbrev CountingConfig := TaskPool.Config (State × Nat) Frame

def CountingConfig.initial : CountingConfig := { state := ({}, 0), tasks := [] }

abbrev CountingReachable (settings : Settings) (requestId : UUID) : CountingConfig → Prop :=
  (counting settings requestId).Reach (fun _ _ => True) CountingConfig.initial

theorem issued_within {c : CountingConfig} (reach : CountingReachable settings requestId c) :
    c.state.2 + c.load (Frame.price settings.callsPerAttempt requestId) ≤
      c.state.1.budget settings.callsPerAttempt requestId := by
  have enter : ∀ frame, (counting settings requestId).entry frame = true →
      frame.price settings.callsPerAttempt requestId = 0 := fun _ entry => Frame.price_of_entry entry
  have bounded := reach.load_within (Frame.price settings.callsPerAttempt requestId) (fun s : State × Nat => s.2)
    (fun s => s.1.budget settings.callsPerAttempt requestId) (fun _ => False) (Nat.zero_le _) enter
    (fun _ _ _ _ _ _ never => never)
    (fun c task input frame rest state pushed reached _ atTask ran _ held => by
      obtain ⟨ran, meter⟩ := TaskPool.metered_exec_ok ran
      have began := reachable_begun reached.unmetered requestId
      have paid := (Frame.requestStep ran).paid settings.callsPerAttempt fun q stored => (began q stored).nonneg
      have cost := Frame.issues_le settings requestId frame input c.state.1
      rw [meter]
      omega)
  exact bounded.resolve_left id

/-- In every run, whatever the providers answer, the webhooks report and the
operators ask for, the attempts of a request are counted, bounded by its retry
policy and the retries of operators, begun at most once for every stay in
`retry_scheduled`, and each makes a bounded number of create calls. -/
theorem retry_bound (settings : Settings) (requestId : UUID) {c : CountingConfig}
    (reach : CountingReachable settings requestId c) {q : IntegrationRequest}
    (stored : c.state.1.db.requests.get requestId = some q) :
    q.attemptCount = c.state.1.db.dispatched requestId ∧
      q.attemptCount ≤ (settings.retryPolicy q.provider).maxAttempts + c.state.1.retriesOf requestId ∧
      (∀ before first between second after,
        c.state.1.db.statusChanges requestId = before ++ first :: (between ++ second :: after) →
        first.dispatchesRetry = true → second.dispatchesRetry = true → ∃ row ∈ between, row.new = .retryScheduled) ∧
      ∀ descriptor, settings.descriptor q.provider = some descriptor →
        (c.state.2 : Int) ≤ (if descriptor.supportsProviderIdempotency then 2 else 1) * q.attemptCount := by
  have reached : Reachable settings c.unmetered := reach.unmetered
  have nonneg := (reachable_begun reached requestId q stored).nonneg
  refine ⟨reachable_countsAttempts reached requestId q stored, ?_, ?_, ?_⟩
  · have within := attempts_within reached requestId
    have positive := (settings.retryPolicy q.provider).attempts_pos
    have here : c.unmetered.state.db.requests.get requestId = some q := stored
    rw [State.reads_stored here, State.reads_stored here] at within
    have same : c.unmetered.state = c.state.1 := rfl
    rw [same] at within
    omega
  · intro before first between second after changes one other
    exact stay_between reached stored changes one other
  · intro descriptor known
    have within := issued_within reach
    rw [State.budget, State.reads_stored stored, Settings.callsPerAttempt, known] at within
    simp only [inProcessMaxAttempts] at within
    split at within <;> rename_i collapses
    · rw [if_pos collapses]
      omega
    · rw [if_neg collapses]
      omega

theorem retry_bound_retried :
    ∃ c q, CountingReachable Sample.settings 200 c ∧ c.state.1.db.requests.get 200 = some q ∧ q.attemptCount = 2 ∧
      c.state.2 = 2 ∧ q.attemptCount ≤ 3 + c.state.1.retriesOf 200 := by
  have passes : ∃ c, (counting Sample.settings 200).replay (fun _ _ => true) CountingConfig.initial Sample.retried =
      some c ∧ c.state.2 = 2 ∧ ∃ q, c.state.1.db.requests.get 200 = some q ∧ q.attemptCount = 2 := by
    decide +kernel
  obtain ⟨c, replayed, two, q, stored, attempts⟩ := passes
  have reach : CountingReachable Sample.settings 200 c := .of_replay (fun _ _ _ => trivial) replayed
  exact ⟨c, q, reach, stored, attempts, two, (retry_bound Sample.settings 200 reach stored).2.1⟩

end IntegrationOrchestrator
