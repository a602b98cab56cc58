import IntegrationOrchestrator.Domain.Circuit

namespace IntegrationOrchestrator

/-- The fields of the breaker's Redis hash; a missing field is `none`. -/
structure BreakerHash where
  state : Option CircuitState := none
  failureCount : Option Int := none
  successCount : Option Int := none
  openedAt : Option Rat := none
  lastTransitionAt : Option Rat := none
  halfOpenProbes : Option Int := none
  deriving DecidableEq

/-- The hash with the time at which Redis may drop it. -/
structure BreakerKey where
  hash : BreakerHash := {}
  expiresAt : Option Rat := none
  deriving DecidableEq

namespace RedisCircuitBreaker

/-- `_ALLOW_SCRIPT`; `server` is Redis's own clock, which `EXPIRE` counts from. -/
def allowScript (now openSeconds : Rat) (halfOpenMax ttl : Int) (server : Rat) (key : BreakerKey) :
    BreakerKey × Bool × CircuitState :=
  match key.hash.state with
  | none | some .closed => (key, true, .closed)
  | some .opened =>
    if now - key.hash.openedAt.getD 0 ≥ openSeconds then
      ({ hash := { key.hash with
          state := some .halfOpen
          halfOpenProbes := some 1
          successCount := some 0
          lastTransitionAt := some now }
         expiresAt := some (server + ttl) }, true, .halfOpen)
    else (key, false, .opened)
  | some .halfOpen =>
    let probes := key.hash.halfOpenProbes.getD 0
    if probes < halfOpenMax then
      ({ hash := { key.hash with halfOpenProbes := some (probes + 1) }
         expiresAt := some (server + ttl) }, true, .halfOpen)
    else (key, false, .halfOpen)

/-- What a script writes when it opens the circuit. -/
def openedHash (hash : BreakerHash) (now : Rat) : BreakerHash :=
  { hash with
    state := some .opened
    openedAt := some now
    lastTransitionAt := some now
    halfOpenProbes := some 0
    successCount := some 0 }

/-- `_FAILURE_SCRIPT`: the new state and the previous one. -/
def failureScript (now : Rat) (threshold ttl : Int) (server : Rat) (key : BreakerKey) :
    BreakerKey × CircuitState × CircuitState :=
  match key.hash.state.getD .closed with
  | .halfOpen => ({ hash := openedHash key.hash now, expiresAt := some (server + ttl) }, .opened, .halfOpen)
  | .opened => ({ key with expiresAt := some (server + ttl) }, .opened, .opened)
  | .closed =>
    let failures := key.hash.failureCount.getD 0 + 1
    let counted := { key.hash with failureCount := some failures }
    if failures ≥ threshold then
      ({ hash := openedHash counted now, expiresAt := some (server + ttl) }, .opened, .closed)
    else ({ hash := counted, expiresAt := some (server + ttl) }, .closed, .closed)

/-- `_SUCCESS_SCRIPT`: the new state and the previous one. -/
def successScript (now : Rat) (successThreshold ttl : Int) (server : Rat) (key : BreakerKey) :
    BreakerKey × CircuitState × CircuitState :=
  match key.hash.state.getD .closed with
  | .halfOpen =>
    let successes := key.hash.successCount.getD 0 + 1
    if successes ≥ successThreshold then
      ({ hash := { key.hash with
          state := some .closed
          failureCount := some 0
          successCount := some 0
          halfOpenProbes := some 0
          lastTransitionAt := some now }
         expiresAt := some (server + ttl) }, .closed, .halfOpen)
    else
      ({ hash := { key.hash with successCount := some successes }
         expiresAt := some (server + ttl) }, .halfOpen, .halfOpen)
  | .opened => ({ key with expiresAt := some (server + ttl) }, .opened, .opened)
  | .closed =>
    ({ hash := { key.hash with state := some .closed, failureCount := some 0, successCount := some 0 }
       expiresAt := some (server + ttl) }, .closed, .closed)

def nowEpoch (now : Instant) : Rat := now / 1000000

/-- `datetime.fromtimestamp` keeps whole microseconds. -/
def epochToDatetime (value : Rat) : Instant := RetryPolicy.microseconds value

/-- The time to live of the key, in whole seconds. -/
def ttlSeconds (openSeconds : Rat) : Int := max 300 (openSeconds * 10).floor

def snapshotFromHash (hash : BreakerHash) : CircuitSnapshot :=
  { state := hash.state.getD .closed
    failureCount := hash.failureCount.getD 0
    successCount := hash.successCount.getD 0
    openedAt := hash.openedAt.map epochToDatetime
    lastTransitionAt := hash.lastTransitionAt.map epochToDatetime
    halfOpenProbes := hash.halfOpenProbes.getD 0 }

def allow (policy : CircuitBreakerPolicy) (now server : Instant) (key : BreakerKey) :
    BreakerKey × Bool × CircuitState :=
  allowScript (nowEpoch now) policy.openSeconds policy.halfOpenMaxProbes (ttlSeconds policy.openSeconds)
    (nowEpoch server) key

def recordFailure (policy : CircuitBreakerPolicy) (now server : Instant) (key : BreakerKey) :
    BreakerKey × CircuitState × CircuitState :=
  failureScript (nowEpoch now) policy.failureThreshold (ttlSeconds policy.openSeconds) (nowEpoch server) key

def recordSuccess (policy : CircuitBreakerPolicy) (now server : Instant) (key : BreakerKey) :
    BreakerKey × CircuitState × CircuitState :=
  successScript (nowEpoch now) policy.successThreshold (ttlSeconds policy.openSeconds) (nowEpoch server) key

end RedisCircuitBreaker

end IntegrationOrchestrator
