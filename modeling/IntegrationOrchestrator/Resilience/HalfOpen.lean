import IntegrationOrchestrator.Providers.Gateway
import IntegrationOrchestrator.Resilience.BreakerAdmission

namespace IntegrationOrchestrator

/-- Only these categories indicate that the provider itself is unhealthy. -/
def circuitFailureCategories : List ErrorCategory := [.providerTimeout, .providerUnavailable, .providerRateLimit]

/-- What `_record_outcome` tells the breaker about the end of a call: a success,
a failure, or nothing. -/
def recordedOutcome (outcome : AdapterOutcome) : Option Bool :=
  match outcome.toExcept with
  | .ok _ => some true
  | .error (.provider error) => if error.category ∈ circuitFailureCategories then some false else none
  | .error _ => none

/-- Whether `_guarded` repeats the call at once. -/
def repeatsInProcess (outcome : AdapterOutcome) : Bool :=
  match outcome.toExcept with
  | .error (.provider error) => isRetryableInProcess error
  | _ => false

/-- A guarded call past the breaker: the attempts it has left after the present
one, and the half-open episode in which it was admitted, if in any. -/
structure GuardedCall where
  remaining : Nat
  episode : Option Nat

/-- The breaker with the guarded calls of all replicas. `episode` numbers the
times the circuit became half-open; `unrecorded` counts the calls admitted in
the latest one that ended without telling the breaker anything. -/
structure GuardedCalls where
  breaker : Breaker
  calls : List GuardedCall := []
  episode : Nat := 0
  unrecorded : Nat := 0

inductive GuardedAction where
  | wait (clock : Instant)
  | expire
  | start (allowInProcessRetry : Bool) (now : Instant)
  | refuse (index : Nat)
  | finish (index : Nat) (now : Instant) (outcome : AdapterOutcome)

namespace Breaker

variable {policy : CircuitBreakerPolicy} {b b' : Breaker} {admitted : Bool} {now : Instant}

/-- The successes recorded since the circuit became half-open. -/
def successes (b : Breaker) : Int := b.key.hash.successCount.getD 0

/-- A recorded failure leaves no circuit half-open. -/
theorem Change.failed (change : Change policy b (.recordFailure now) b' admitted) : b'.state ≠ .halfOpen := by
  intro halfOpen
  cases change with
  | trip => cases halfOpen
  | hear opened => cases opened.symm.trans halfOpen
  | count _ closed => cases closed.symm.trans halfOpen

/-- A recorded success that leaves the circuit half-open is counted. -/
theorem Change.succeeded (change : Change policy b (.recordSuccess now) b' admitted) (after : b'.state = .halfOpen) :
    b.state = .halfOpen ∧ b'.probes = b.probes ∧ b'.successes = b.successes + 1 ∧
      b'.successes < policy.successThreshold := by
  cases change with
  | hear opened => cases opened.symm.trans after
  | count _ closed => cases closed.symm.trans after
  | recover halfOpen few => exact ⟨halfOpen, rfl, rfl, few⟩
  | close _ closed =>
    rw [state, wrote, closed] at after
    cases after

/-- The calls a half-open circuit admits are counted as probes, from the one
that made it half-open on. -/
theorem Change.allowed (change : Change policy b (.allow now) b' true) (after : b'.state = .halfOpen) :
    (b.state ≠ .halfOpen ∧ b'.probes = 1 ∧ b'.successes = 0) ∨
      (b.state = .halfOpen ∧ b'.probes = b.probes + 1 ∧ b'.successes = b.successes) := by
  cases change with
  | pass closed => cases closed.symm.trans after
  | tryOut opened => exact .inl ⟨by rw [opened]; nofun, rfl, rfl⟩
  | probe halfOpen => exact .inr ⟨halfOpen, rfl, rfl⟩

theorem Change.refused (change : Change policy b (.allow now) b' false) (after : b'.state = .halfOpen) : b' = b := by
  cases change with
  | refuse => rfl
  | hear opened => cases opened.symm.trans after
  | count _ closed => cases closed.symm.trans after

theorem Change.waited {clock : Instant} (change : Change policy b (.wait clock) b' admitted)
    (after : b'.state = .halfOpen) : b'.key = b.key := by
  cases change with
  | wait => rfl
  | hear opened => cases opened.symm.trans after
  | count _ closed => cases closed.symm.trans after

theorem Change.lapsed (change : Change policy b .expire b' admitted) : b'.state ≠ .halfOpen := by
  intro after
  cases change with
  | lapse => cases after
  | hear opened => cases opened.symm.trans after
  | count _ closed => cases closed.symm.trans after

/-- A half-open circuit with a probe left admits the next call. -/
theorem admits_probe (halfOpen : b.state = .halfOpen) (free : b.probes < policy.halfOpenMaxProbes)
    (read : now ≤ b.clock) : ∃ b', b.step policy (.allow now) = some (b', true) := by
  have stored : b.key.hash.state = some .halfOpen := by
    cases known : b.key.hash.state with
    | none => simp [state, known] at halfOpen
    | some other => simpa [state, known] using halfOpen
  have room : b.key.hash.halfOpenProbes.getD 0 < policy.halfOpenMaxProbes := free
  simp only [step, RedisCircuitBreaker.allow, RedisCircuitBreaker.allowScript, stored, if_pos read, if_pos room]
  exact ⟨_, rfl⟩

end Breaker

namespace GuardedCalls

variable {policy : CircuitBreakerPolicy} {g g' : GuardedCalls}

/-- The circuit has let the call pass. -/
def admitted (g : GuardedCalls) (breaker : Breaker) (allowInProcessRetry : Bool) : GuardedCalls :=
  let entered : Bool := g.breaker.state ≠ .halfOpen && breaker.state = .halfOpen
  let episode := if entered then g.episode + 1 else g.episode
  { breaker := breaker
    calls := { remaining := if allowInProcessRetry then inProcessMaxAttempts - 1 else 0
               episode := if breaker.state = .halfOpen then some episode else none } :: g.calls
    episode := episode
    unrecorded := if entered then 0 else g.unrecorded }

/-- The call ends and the breaker is told nothing. -/
def dropped (g : GuardedCalls) (index : Nat) (call : GuardedCall) : GuardedCalls :=
  { g with
    calls := g.calls.eraseIdx index
    unrecorded := if call.episode = some g.episode then g.unrecorded + 1 else g.unrecorded }

/-- `_guarded`, from the admission on, one interaction with the breaker or the
bulkhead at a time. -/
def step (policy : CircuitBreakerPolicy) (g : GuardedCalls) : GuardedAction → Option GuardedCalls
  | .wait clock => (g.breaker.step policy (.wait clock)).map fun next => { g with breaker := next.1 }
  | .expire => (g.breaker.step policy .expire).map fun next => { g with breaker := next.1 }
  | .start allowInProcessRetry now => (g.breaker.step policy (.allow now)).map fun next =>
      if next.2 then g.admitted next.1 allowInProcessRetry else { g with breaker := next.1 }
  | .refuse index => g.calls[index]?.map (g.dropped index)
  | .finish index now outcome => g.calls[index]?.bind fun call =>
      match recordedOutcome outcome with
      | none => some (g.dropped index call)
      | some true => (g.breaker.step policy (.recordSuccess now)).map fun next =>
          { g with breaker := next.1, calls := g.calls.eraseIdx index }
      | some false => (g.breaker.step policy (.recordFailure now)).map fun next =>
          { g with
            breaker := next.1
            calls := if call.remaining = 0 || ¬ repeatsInProcess outcome then g.calls.eraseIdx index
              else g.calls.set index { call with remaining := call.remaining - 1 } }

/-- The states of all runs of guarded calls, from a missing key. -/
inductive Reachable (policy : CircuitBreakerPolicy) : GuardedCalls → Prop
  | start {clock} : Reachable policy { breaker := { clock := clock } }
  | next {g g' : GuardedCalls} {a : GuardedAction} : Reachable policy g → g.step policy a = some g' →
      Reachable policy g'

/-- The calls of the present episode that have not ended. -/
def inFlight (g : GuardedCalls) : Nat := g.calls.countP (·.episode = some g.episode)

/-- While the circuit is half-open, every probe it has counted is in flight,
has been recorded as a success, or has ended unrecorded; and there are not yet
enough successes to close it. -/
def Accounted (policy : CircuitBreakerPolicy) (g : GuardedCalls) : Prop :=
  g.breaker.state = .halfOpen → g.breaker.probes ≤ g.inFlight + g.breaker.successes + g.unrecorded ∧
    g.breaker.successes < policy.successThreshold

variable {index : Nat} {call : GuardedCall} {b : Breaker} {now : Instant}

/-- Ending a call takes it out of flight, once. -/
theorem countP_eraseIdx {calls : List GuardedCall} (test : GuardedCall → Bool) (here : calls[index]? = some call) :
    calls.countP test = (calls.eraseIdx index).countP test + (test call).toNat := by
  obtain ⟨bound, rfl⟩ := List.getElem?_eq_some_iff.mp here
  rw [← (List.getElem_cons_eraseIdx_perm bound).countP_eq, List.countP_cons]
  cases test calls[index] <;> rfl

theorem Accounted.waited (held : g.Accounted policy) {clock : Instant} {admitted : Bool}
    (taken : g.breaker.step policy (.wait clock) = some (b, admitted)) :
    Accounted policy { g with breaker := b } := by
  intro halfOpen
  have same : b.key = g.breaker.key := (Breaker.step_change taken).waited halfOpen
  have before : g.breaker.state = .halfOpen := by simpa only [Breaker.state, same] using halfOpen
  have accounted := held before
  rw [Breaker.probes, Breaker.successes, ← same] at accounted
  exact accounted

theorem Accounted.refused (held : g.Accounted policy) (taken : g.breaker.step policy (.allow now) = some (b, false)) :
    Accounted policy { g with breaker := b } := by
  intro halfOpen
  obtain rfl : b = g.breaker := (Breaker.step_change taken).refused halfOpen
  exact held halfOpen

theorem Accounted.admitted (held : g.Accounted policy) (taken : g.breaker.step policy (.allow now) = some (b, true))
    (again : Bool) : (g.admitted b again).Accounted policy := by
  intro halfOpen
  have halfOpen : b.state = .halfOpen := halfOpen
  have successes := policy.successes_pos
  rcases (Breaker.step_change taken).allowed halfOpen with ⟨before, one, none⟩ | ⟨before, counted, same⟩
  · -- the first call of a new episode
    simp only [GuardedCalls.admitted, inFlight, halfOpen, one, none, List.countP_cons]
    simp [before]
    omega
  · obtain ⟨accounted, few⟩ := held before
    simp only [inFlight] at accounted
    simp only [GuardedCalls.admitted, inFlight, halfOpen, before, counted, same, List.countP_cons]
    simp
    omega

theorem Accounted.dropped (held : g.Accounted policy) (here : g.calls[index]? = some call) :
    (g.dropped index call).Accounted policy := by
  intro halfOpen
  obtain ⟨accounted, few⟩ := held halfOpen
  refine ⟨?_, few⟩
  have ended : g.inFlight = (g.dropped index call).inFlight + (decide (call.episode = some g.episode)).toNat :=
    countP_eraseIdx _ here
  have counted : (g.dropped index call).unrecorded =
      g.unrecorded + (decide (call.episode = some g.episode)).toNat := by
    unfold GuardedCalls.dropped
    by_cases present : call.episode = some g.episode <;> simp [present]
  show g.breaker.probes ≤ (g.dropped index call).inFlight + g.breaker.successes + (g.dropped index call).unrecorded
  omega

theorem Accounted.succeeded (held : g.Accounted policy) {admitted : Bool} (here : g.calls[index]? = some call)
    (taken : g.breaker.step policy (.recordSuccess now) = some (b, admitted)) :
    Accounted policy { g with breaker := b, calls := g.calls.eraseIdx index } := by
  intro halfOpen
  obtain ⟨before, probes, counted, few⟩ := (Breaker.step_change taken).succeeded halfOpen
  obtain ⟨accounted, _⟩ := held before
  refine ⟨?_, few⟩
  have ended : g.inFlight = ({ g with breaker := b, calls := g.calls.eraseIdx index } : GuardedCalls).inFlight +
      (decide (call.episode = some g.episode)).toNat := countP_eraseIdx _ here
  have atMost := Bool.toNat_le (decide (call.episode = some g.episode))
  show b.probes ≤ _ + b.successes + g.unrecorded
  omega

theorem Accounted.keep (held : g.Accounted policy) {a : GuardedAction} (run : g.step policy a = some g') :
    g'.Accounted policy := by
  cases a with
  | wait clock =>
    obtain ⟨⟨b, _⟩, taken, rfl⟩ := Option.map_eq_some_iff.mp run
    exact held.waited taken
  | expire =>
    obtain ⟨⟨b, _⟩, taken, rfl⟩ := Option.map_eq_some_iff.mp run
    exact fun halfOpen => absurd halfOpen (Breaker.step_change taken).lapsed
  | start again now =>
    obtain ⟨⟨b, admitted⟩, taken, rfl⟩ := Option.map_eq_some_iff.mp run
    cases admitted with
    | true => exact held.admitted taken again
    | false => exact held.refused taken
  | refuse index =>
    obtain ⟨call, here, rfl⟩ := Option.map_eq_some_iff.mp run
    exact held.dropped here
  | finish index now outcome =>
    obtain ⟨call, here, run⟩ := Option.bind_eq_some_iff.mp run
    split at run
    · cases run
      exact held.dropped here
    · obtain ⟨⟨b, _⟩, taken, rfl⟩ := Option.map_eq_some_iff.mp run
      exact held.succeeded here taken
    · obtain ⟨⟨b, _⟩, taken, rfl⟩ := Option.map_eq_some_iff.mp run
      exact fun halfOpen => absurd halfOpen (Breaker.step_change taken).failed

theorem reachable_accounted (reach : Reachable policy g) : g.Accounted policy := by
  induction reach with
  | start => exact nofun
  | next _ run ih => exact ih.keep run

/-- Take the actions one after another. -/
def replay (policy : CircuitBreakerPolicy) : GuardedCalls → List GuardedAction → Option GuardedCalls
  | g, [] => some g
  | g, a :: rest => (g.step policy a).bind (replay policy · rest)

theorem Reachable.replay {actions : List GuardedAction} (reach : Reachable policy g)
    (replayed : g.replay policy actions = some g') : Reachable policy g' := by
  induction actions generalizing g with
  | nil =>
    cases replayed
    exact reach
  | cons a rest ih =>
    obtain ⟨next, taken, onward⟩ := Option.bind_eq_some_iff.mp replayed
    exact ih (reach.next taken) onward

theorem reachable_replay (policy : CircuitBreakerPolicy) (actions : List GuardedAction) (test : GuardedCalls → Prop)
    (passes : ∃ g, GuardedCalls.replay policy { breaker := { clock := 0 } } actions = some g ∧ test g) :
    ∃ g, Reachable policy g ∧ test g := by
  obtain ⟨g, replayed, passed⟩ := passes
  exact ⟨g, Reachable.start.replay replayed, passed⟩

end GuardedCalls

/-- A half-open circuit whose admitted calls have all ended admits the next
call, if the probes suffice for the successes it takes to close it and for the
calls that ended without being recorded. -/
theorem half_open_never_wedges {policy : CircuitBreakerPolicy} {g : GuardedCalls} {now : Instant}
    (reach : GuardedCalls.Reachable policy g) (halfOpen : g.breaker.state = .halfOpen)
    (finished : ∀ call ∈ g.calls, call.episode ≠ some g.episode) (read : now ≤ g.breaker.clock)
    (enough : policy.successThreshold + g.unrecorded ≤ policy.halfOpenMaxProbes) :
    ∃ b, g.breaker.step policy (.allow now) = some (b, true) := by
  obtain ⟨accounted, few⟩ := GuardedCalls.reachable_accounted reach halfOpen
  have none : g.inFlight = 0 := by
    rw [GuardedCalls.inFlight, List.countP_eq_zero]
    intro call member
    simpa using finished call member
  refine Breaker.admits_probe halfOpen ?_ read
  omega

namespace Sample

/-- Five calls time out; after the cooldown a call is let through. -/
def probing : List GuardedAction :=
  (List.replicate 5 [.start false 0, .finish 0 0 (.lost .timeout)]).flatten ++
    [.wait 30000000, .start false 30000000]

/-- One success closes the circuit, and two calls may try. -/
def lenient : CircuitBreakerPolicy :=
  { circuit with
    successThreshold := 1, halfOpenMaxProbes := 2, successes_pos := circuit.probes_pos
    probes_pos := circuit.successes_pos }

end Sample

/-- With the default thresholds the only probe succeeds, and the circuit stays
half-open and admits nobody: two successes would close it, and there is one
probe. -/
theorem default_circuit_wedges :
    ∃ g, GuardedCalls.Reachable Sample.circuit g ∧ g.breaker.state = .halfOpen ∧ g.calls = [] ∧
      g.unrecorded = 0 ∧ g.breaker.step Sample.circuit (.allow g.breaker.clock) = some (g.breaker, false) := by
  obtain ⟨g, reach, halfOpen, none, recorded, ⟨b, admitted⟩, taken, rfl⟩ :=
    GuardedCalls.reachable_replay Sample.circuit
      (Sample.probing ++ [.finish 0 30000000 (.answered (.success .succeeded (some "op-1") none []))])
      (fun g => g.breaker.state = .halfOpen ∧ g.calls = [] ∧ g.unrecorded = 0 ∧
        ∃ out, g.breaker.step Sample.circuit (.allow g.breaker.clock) = some out ∧ out.2 = false) (by decide +kernel)
  have same : b = g.breaker := by
    cases Breaker.step_change taken with
    | refuse => rfl
    | hear opened => cases opened.symm.trans halfOpen
    | count closed => cases closed.symm.trans halfOpen
  exact ⟨g, reach, halfOpen, none, recorded, same ▸ taken⟩

/-- The first probe is refused a slot in the bulkhead, and the second one is
still admitted. -/
theorem half_open_never_wedges_refused :
    ∃ g, GuardedCalls.Reachable Sample.lenient g ∧ g.breaker.state = .halfOpen ∧ g.calls = [] ∧
      g.unrecorded = 1 ∧ ∃ b, g.breaker.step Sample.lenient (.allow g.breaker.clock) = some (b, true) := by
  obtain ⟨g, reach, found⟩ := GuardedCalls.reachable_replay Sample.lenient (Sample.probing ++ [.refuse 0])
    (fun g => g.breaker.state = .halfOpen && g.calls.isEmpty && g.unrecorded = 1) (by decide +kernel)
  simp only [Bool.and_eq_true, decide_eq_true_eq, List.isEmpty_iff] at found
  obtain ⟨⟨halfOpen, none⟩, refused⟩ := found
  have admitted := half_open_never_wedges reach halfOpen (by simp [none]) (le_refl _) (by rw [refused]; decide)
  exact ⟨g, reach, halfOpen, none, refused, admitted⟩

end IntegrationOrchestrator
