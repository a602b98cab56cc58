import IntegrationOrchestrator.Resilience.BreakerRuns

namespace IntegrationOrchestrator

open RedisCircuitBreaker

namespace RedisCircuitBreaker

theorem epochToDatetime_nowEpoch (now : Instant) : epochToDatetime (nowEpoch now) = now := by
  have exact_ : nowEpoch now * 1000000 = (now : Rat) := by
    unfold nowEpoch
    ring
  have whole : ((now : Rat)).floor = now := Rat.floor_intCast now
  simp only [epochToDatetime, RetryPolicy.microseconds, exact_, whole, sub_self]
  norm_num

theorem totalSeconds_sub (now earlier : Instant) :
    totalSeconds (now - earlier) = nowEpoch now - nowEpoch earlier := by
  unfold totalSeconds nowEpoch
  push_cast
  ring

end RedisCircuitBreaker

namespace Breaker

variable {policy : CircuitBreakerPolicy} {b b' : Breaker} {a : BreakerAction} {admitted : Bool}

/-- An open circuit says when it opened, and has given no probe away. -/
def Stamped (b : Breaker) : Prop :=
  b.state = .opened → ∃ since : Instant, b.key.hash.openedAt = some (nowEpoch since) ∧
    b.key.hash.halfOpenProbes = some 0

theorem Stamped.keep (held : b.Stamped) (change : Change policy b a b' admitted) : b'.Stamped := by
  intro opened
  cases change with
  | wait | pass | refuse | hear => exact held opened
  | lapse | tryOut => cases opened
  | probe halfOpen | recover halfOpen =>
    cases halfOpen.symm.trans opened
  | @trip now hash => exact ⟨now, rfl, rfl⟩
  | count _ closed => cases closed.symm.trans opened
  | close _ closed =>
    rw [state, wrote, closed] at opened
    cases opened

theorem reachable_stamped (reach : Reachable policy b) : b.Stamped := by
  obtain ⟨clock, trace, run⟩ := reach
  exact (run.invariant Stamped nofun Stamped.keep).1

end Breaker

/-- The allow script decides as the policy does. -/
theorem allow_admitsTraffic {policy : CircuitBreakerPolicy} {b : Breaker} (stamped : b.Stamped)
    (now server : Instant) :
    (allow policy now server b.key).2.1 = admitsTraffic (snapshotFromHash b.key.hash) now policy := by
  simp only [allow, allowScript]
  split
  · rename_i missing
    simp [admitsTraffic, evaluateCircuit, snapshotFromHash, missing]
  · rename_i closed
    simp [admitsTraffic, evaluateCircuit, snapshotFromHash, closed]
  · rename_i opened
    obtain ⟨since, stamp, unprobed⟩ := stamped (by rw [Breaker.state, opened]; rfl)
    have probes := policy.probes_pos
    have free : decide (0 < policy.halfOpenMaxProbes) = true := decide_eq_true (by omega)
    have effective : evaluateCircuit (snapshotFromHash b.key.hash) now policy =
        if nowEpoch now - nowEpoch since ≥ policy.openSeconds then .halfOpen else .opened := by
      simp [evaluateCircuit, snapshotFromHash, opened, stamp, epochToDatetime_nowEpoch, totalSeconds_sub]
    rw [admitsTraffic, effective, stamp, Option.getD_some]
    split
    · simp [snapshotFromHash, unprobed, free]
    · rfl
  · rename_i halfOpen
    simp only [admitsTraffic, evaluateCircuit, snapshotFromHash, halfOpen]
    split <;> simp_all

theorem recordFailure_nextState (policy : CircuitBreakerPolicy) (now server : Instant) (key : BreakerKey) :
    (recordFailure policy now server key).2.1 = nextStateAfterFailure (snapshotFromHash key.hash) now policy := by
  simp only [recordFailure, failureScript]
  split
  · rename_i halfOpen
    simp [nextStateAfterFailure, evaluateCircuit, snapshotFromHash, halfOpen]
  · rename_i opened
    have open_ : (snapshotFromHash key.hash).state = .opened := opened
    -- the cooldown makes no difference: a failed probe reopens the circuit
    cases effective : evaluateCircuit (snapshotFromHash key.hash) now policy with
    | closed =>
      unfold evaluateCircuit at effective
      rw [open_, if_neg (by simp)] at effective
      split at effective
      · cases effective
      · split at effective <;> cases effective
    | opened | halfOpen => simp [nextStateAfterFailure, effective]
  · rename_i closed
    simp only [nextStateAfterFailure, evaluateCircuit, snapshotFromHash, closed, ne_eq, reduceCtorEq,
      not_false_eq_true, if_true, ge_iff_le]
    split <;> simp_all

/-- The success script decides as the policy does unless the circuit is stored
as open, and then it never does. -/
theorem recordSuccess_nextState_iff (policy : CircuitBreakerPolicy) (now server : Instant) (key : BreakerKey) :
    (recordSuccess policy now server key).2.1 = nextStateAfterSuccess (snapshotFromHash key.hash) now policy ↔
      key.hash.state ≠ some .opened := by
  simp only [recordSuccess, successScript]
  split
  · rename_i halfOpen
    have other : key.hash.state ≠ some .opened := by
      intro opened
      simp [opened] at halfOpen
    simp only [nextStateAfterSuccess, evaluateCircuit, snapshotFromHash, halfOpen, ge_iff_le]
    split <;> simp_all
  · rename_i opened
    have stored : key.hash.state = some .opened := by
      cases known : key.hash.state with
      | none => simp [known] at opened
      | some state => simpa [known] using opened
    simp only [nextStateAfterSuccess, stored, ne_eq, not_true, iff_false]
    split
    · split <;> simp
    · simp
  · rename_i closed
    have other : key.hash.state ≠ some .opened := by
      intro opened
      simp [opened] at closed
    simp [nextStateAfterSuccess, evaluateCircuit, snapshotFromHash, closed, other]

namespace Sample

/-- Five calls fail at once. -/
def tripped : List BreakerAction := List.replicate 5 (.recordFailure 0)

end Sample

end IntegrationOrchestrator
