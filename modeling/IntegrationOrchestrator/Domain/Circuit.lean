import IntegrationOrchestrator.Domain.Policies

namespace IntegrationOrchestrator

inductive CircuitState where
  | closed | opened | halfOpen
  deriving DecidableEq, Repr

/-- Thresholds governing provider-scoped circuit breaking. -/
structure CircuitBreakerPolicy where
  failureThreshold : Int
  openSeconds : Rat
  successThreshold : Int := 2
  halfOpenMaxProbes : Int := 1
  failures_pos : 1 ≤ failureThreshold
  open_pos : 0 < openSeconds
  successes_pos : 1 ≤ successThreshold
  probes_pos : 1 ≤ halfOpenMaxProbes

/-- The observable state of one provider's circuit breaker. -/
structure CircuitSnapshot where
  state : CircuitState
  failureCount : Int := 0
  successCount : Int := 0
  openedAt : Option Instant := none
  lastTransitionAt : Option Instant := none
  halfOpenProbes : Int := 0

/-- `timedelta.total_seconds` of a difference of two instants. -/
def totalSeconds (duration : Int) : Rat := duration / 1000000

/-- The effective state: a breaker recorded as open is half-open once its
cooldown has elapsed, without anyone having written to the store. -/
def evaluateCircuit (snapshot : CircuitSnapshot) (now : Instant) (policy : CircuitBreakerPolicy) : CircuitState :=
  if snapshot.state ≠ .opened then snapshot.state
  else match snapshot.openedAt with
    | none => .opened
    | some openedAt => if policy.openSeconds ≤ totalSeconds (now - openedAt) then .halfOpen else .opened

def nextStateAfterFailure (snapshot : CircuitSnapshot) (now : Instant) (policy : CircuitBreakerPolicy) :
    CircuitState :=
  match evaluateCircuit snapshot now policy with
  | .halfOpen => .opened
  | .opened => .opened
  | .closed => if policy.failureThreshold ≤ snapshot.failureCount + 1 then .opened else .closed

def nextStateAfterSuccess (snapshot : CircuitSnapshot) (now : Instant) (policy : CircuitBreakerPolicy) :
    CircuitState :=
  if evaluateCircuit snapshot now policy = .halfOpen then
    if policy.successThreshold ≤ snapshot.successCount + 1 then .closed else .halfOpen
  else .closed

/-- Whether a call may proceed under the current breaker state. -/
def admitsTraffic (snapshot : CircuitSnapshot) (now : Instant) (policy : CircuitBreakerPolicy) : Bool :=
  match evaluateCircuit snapshot now policy with
  | .closed => true
  | .opened => false
  | .halfOpen => snapshot.halfOpenProbes < policy.halfOpenMaxProbes

end IntegrationOrchestrator
