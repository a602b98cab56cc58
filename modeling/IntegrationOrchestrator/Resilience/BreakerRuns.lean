import IntegrationOrchestrator.Resilience.Breaker

namespace IntegrationOrchestrator

open RedisCircuitBreaker

/-- The breaker's key in Redis and the clock that all replicas share. -/
structure Breaker where
  key : BreakerKey := {}
  clock : Instant

/-- What the replicas, the clock and Redis do, one script at a time. A script
gets the reading that its replica took of the clock. -/
inductive BreakerAction where
  | wait (clock : Instant)
  | expire
  | allow (now : Instant)
  | recordFailure (now : Instant)
  | recordSuccess (now : Instant)

namespace Breaker

/-- The stored state. -/
def state (b : Breaker) : CircuitState := b.key.hash.state.getD .closed

/-- The breaker after the action, and whether a call was admitted by it. -/
def step (policy : CircuitBreakerPolicy) (b : Breaker) : BreakerAction → Option (Breaker × Bool)
  | .wait clock => if b.clock ≤ clock then some ({ b with clock := clock }, false) else none
  | .expire =>
    if b.key.expiresAt.any (· ≤ nowEpoch b.clock) then some ({ b with key := {} }, false) else none
  | .allow now =>
    if now ≤ b.clock then
      let (key, admitted, _) := RedisCircuitBreaker.allow policy now b.clock b.key
      some ({ b with key := key }, admitted)
    else none
  | .recordFailure now =>
    if now ≤ b.clock then
      some ({ b with key := (RedisCircuitBreaker.recordFailure policy now b.clock b.key).1 }, false)
    else none
  | .recordSuccess now =>
    if now ≤ b.clock then
      some ({ b with key := (RedisCircuitBreaker.recordSuccess policy now b.clock b.key).1 }, false)
    else none

/-- A run, with the breaker after each action and whether the action admitted
a call. -/
inductive Run (policy : CircuitBreakerPolicy) : Breaker → List (Breaker × Bool) → Breaker → Prop
  | nil {b} : Run policy b [] b
  | cons {b b' b'' : Breaker} {a : BreakerAction} {admitted : Bool} {trace : List (Breaker × Bool)} :
      b.step policy a = some (b', admitted) → Run policy b' trace b'' →
      Run policy b ((b', admitted) :: trace) b''

/-- The breakers that runs lead to from a missing key. -/
def Reachable (policy : CircuitBreakerPolicy) (b : Breaker) : Prop :=
  ∃ clock trace, Run policy { clock := clock } trace b

variable {policy : CircuitBreakerPolicy} {b b' b'' : Breaker} {a : BreakerAction} {admitted : Bool}
  {trace : List (Breaker × Bool)} {now : Instant}

/-- The key after a script that wrote the hash. -/
def wrote (policy : CircuitBreakerPolicy) (b : Breaker) (hash : BreakerHash) : Breaker :=
  { b with key := { hash := hash, expiresAt := some (nowEpoch b.clock + ttlSeconds policy.openSeconds) } }

/-- Everything an action can do. -/
inductive Change (policy : CircuitBreakerPolicy) (b : Breaker) : BreakerAction → Breaker → Bool → Prop
  | wait {clock} : b.clock ≤ clock → Change policy b (.wait clock) { b with clock := clock } false
  | lapse {expiry} : b.key.expiresAt = some expiry → expiry ≤ nowEpoch b.clock →
      Change policy b .expire { b with key := {} } false
  | pass {now : Instant} : b.state = .closed → Change policy b (.allow now) b true
  | refuse {now : Instant} : b.state ≠ .closed → Change policy b (.allow now) b false
  | tryOut {now : Instant} : b.state = .opened → now ≤ b.clock →
      policy.openSeconds ≤ nowEpoch now - b.key.hash.openedAt.getD 0 →
      Change policy b (.allow now) (b.wrote policy { b.key.hash with
        state := some .halfOpen, halfOpenProbes := some 1, successCount := some 0
        lastTransitionAt := some (nowEpoch now) }) true
  | probe {now : Instant} : b.state = .halfOpen → b.key.hash.halfOpenProbes.getD 0 < policy.halfOpenMaxProbes →
      Change policy b (.allow now) (b.wrote policy { b.key.hash with
        halfOpenProbes := some (b.key.hash.halfOpenProbes.getD 0 + 1) }) true
  | trip {now : Instant} {hash : BreakerHash} : b.state ≠ .opened → now ≤ b.clock →
      Change policy b (.recordFailure now) (b.wrote policy (openedHash hash (nowEpoch now))) false
  | hear {a : BreakerAction} : b.state = .opened → Change policy b a (b.wrote policy b.key.hash) false
  | count {a : BreakerAction} {hash : BreakerHash} : b.state = .closed → hash.state.getD .closed = .closed →
      Change policy b a (b.wrote policy hash) false
  | recover {now : Instant} : b.state = .halfOpen → b.key.hash.successCount.getD 0 + 1 < policy.successThreshold →
      Change policy b (.recordSuccess now) (b.wrote policy { b.key.hash with
        successCount := some (b.key.hash.successCount.getD 0 + 1) }) false
  | close {now : Instant} {hash : BreakerHash} : b.state = .halfOpen → hash.state = some .closed →
      Change policy b (.recordSuccess now) (b.wrote policy hash) false

theorem step_change (run : b.step policy a = some (b', admitted)) : Change policy b a b' admitted := by
  cases a with
  | wait clock =>
    simp only [step] at run
    split at run
    · cases run
      exact .wait ‹_›
    · cases run
  | expire =>
    simp only [step] at run
    split at run
    · rename_i due
      cases run
      obtain ⟨expiry, known, past⟩ := (Option.any_eq_true ..).mp due
      exact .lapse known (of_decide_eq_true past)
    · cases run
  | allow now =>
    simp only [step, RedisCircuitBreaker.allow, allowScript] at run
    split at run
    · rename_i read
      split at run
      · rename_i missing
        cases run
        exact .pass (by rw [state, missing]; rfl)
      · rename_i closed
        cases run
        exact .pass (by rw [state, closed]; rfl)
      · rename_i opened
        split at run
        · rename_i cooled
          cases run
          exact .tryOut (by rw [state, opened]; rfl) read cooled
        · cases run
          exact .refuse (by rw [state, opened]; decide)
      · rename_i halfOpen
        split at run
        · rename_i free
          cases run
          exact .probe (by rw [state, halfOpen]; rfl) free
        · cases run
          exact .refuse (by rw [state, halfOpen]; decide)
    · cases run
  | recordFailure now =>
    simp only [step, RedisCircuitBreaker.recordFailure, failureScript] at run
    split at run
    · rename_i read
      split at run
      · rename_i halfOpen
        cases run
        exact .trip (by rw [state, halfOpen]; decide) read
      · rename_i opened
        cases run
        exact .hear opened
      · rename_i closed
        split at run
        · cases run
          exact .trip (by rw [state, closed]; decide) read
        · cases run
          exact .count closed closed
    · cases run
  | recordSuccess now =>
    simp only [step, RedisCircuitBreaker.recordSuccess, successScript] at run
    split at run
    · split at run
      · rename_i halfOpen
        split at run
        · cases run
          exact .close halfOpen rfl
        · rename_i few
          cases run
          exact .recover halfOpen (not_le.mp few)
      · rename_i opened
        cases run
        exact .hear opened
      · rename_i closed
        cases run
        exact .count closed rfl
    · cases run

/-- What survives every change holds after every action of a run. -/
theorem Run.invariant (holds : Breaker → Prop) (run : Run policy b trace b') (base : holds b)
    (keep : ∀ {b a b' admitted}, holds b → Change policy b a b' admitted → holds b') :
    holds b' ∧ ∀ entry ∈ trace, holds entry.1 := by
  induction run with
  | nil => exact ⟨base, List.forall_mem_nil _⟩
  | cons taken _ ih =>
    have next := keep base (step_change taken)
    obtain ⟨last, all⟩ := ih next
    exact ⟨last, List.forall_mem_cons.mpr ⟨next, all⟩⟩

/-- Take the actions one after another. -/
def replay (policy : CircuitBreakerPolicy) : Breaker → List BreakerAction → Option Breaker
  | b, [] => some b
  | b, a :: rest => (b.step policy a).bind fun next => replay policy next.1 rest

theorem run_of_replay {actions : List BreakerAction} (replayed : b.replay policy actions = some b') :
    ∃ trace, Run policy b trace b' := by
  induction actions generalizing b with
  | nil =>
    cases replayed
    exact ⟨[], .nil⟩
  | cons a rest ih =>
    obtain ⟨⟨next, admitted⟩, taken, onward⟩ := Option.bind_eq_some_iff.mp replayed
    obtain ⟨trace, run⟩ := ih onward
    exact ⟨_, .cons taken run⟩

theorem reachable_replay (policy : CircuitBreakerPolicy) (clock : Instant) (actions : List BreakerAction)
    (test : Breaker → Bool)
    (passes : (replay policy { clock := clock } actions).any test = true) :
    ∃ b, Reachable policy b ∧ test b = true := by
  obtain ⟨b, replayed, passed⟩ := (Option.any_eq_true ..).mp passes
  obtain ⟨trace, run⟩ := run_of_replay replayed
  exact ⟨b, ⟨clock, trace, run⟩, passed⟩

end Breaker

namespace Sample

/-- The default thresholds of the settings. -/
def circuit : CircuitBreakerPolicy :=
  { failureThreshold := 5, openSeconds := 30, failures_pos := by decide, open_pos := by norm_num
    successes_pos := by decide, probes_pos := by decide }

end Sample

end IntegrationOrchestrator
