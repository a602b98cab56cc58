import IntegrationOrchestrator.Domain.Errors

namespace IntegrationOrchestrator

/-- Bounded exponential backoff with equal jitter. Durations are seconds;
Python's floats are their exact rational values. -/
structure RetryPolicy where
  maxAttempts : Int
  baseSeconds : Rat := 1 / 2
  multiplier : Rat := 2
  maxSeconds : Rat := 60
  retryAfterCapSeconds : Rat := 300
  attempts_pos : 1 ≤ maxAttempts
  durations_pos : 0 < baseSeconds ∧ 0 < maxSeconds
  multiplier_ge : 1 ≤ multiplier

namespace RetryPolicy

def hasAttemptsRemaining (policy : RetryPolicy) (attemptCount : Int) : Bool :=
  attemptCount < policy.maxAttempts

/-- Combine error classification with the attempt bound. -/
def shouldRetry (policy : RetryPolicy) (attemptCount : Int) (retryable : Bool) : Bool :=
  retryable && policy.hasAttemptsRemaining attemptCount

/-- Whoever may retry now might have retried earlier. -/
theorem shouldRetry_mono {policy : RetryPolicy} {earlier later : Int} {retryable : Bool} (order : earlier ≤ later)
    (retry : policy.shouldRetry later retryable = true) : policy.shouldRetry earlier retryable = true := by
  simp only [shouldRetry, hasAttemptsRemaining, Bool.and_eq_true, decide_eq_true_eq] at retry ⊢
  exact ⟨retry.1, lt_of_le_of_lt order retry.2⟩

/-- The delay before the next attempt. -/
def computeDelaySeconds (policy : RetryPolicy) (attemptCount : Int) (jitter : Rat)
    (retryAfterSeconds : Option Rat) : Except Exn Rat :=
  if ¬ (0 ≤ jitter ∧ jitter < 1) then .error (.validation "jitter must be in the interval [0, 1)")
  else if attemptCount < 1 then
    .error (.validation "attempt_count must be at least 1 to compute a retry delay")
  else
    let exponential := policy.baseSeconds * policy.multiplier ^ (attemptCount - 1).toNat
    let half := min exponential policy.maxSeconds / 2
    match retryAfterSeconds with
    | some retryAfter =>
      if 0 < retryAfter then
        let honoured := min retryAfter policy.retryAfterCapSeconds
        let spread := min (honoured * (1 / 10)) 1
        .ok (honoured + jitter * spread)
      else .ok (half + jitter * half)
    | none => .ok (half + jitter * half)

/-- `timedelta(seconds=...)`: whole microseconds, ties to the even one. -/
def microseconds (seconds : Rat) : Int :=
  let exact := seconds * 1000000
  let below := exact.floor
  let rest := exact - below
  if rest < 1 / 2 then below
  else if 1 / 2 < rest then below + 1
  else if below % 2 = 0 then below else below + 1

def nextRetryAt (policy : RetryPolicy) (now : Instant) (attemptCount : Int) (jitter : Rat)
    (retryAfterSeconds : Option Rat) : Except Exn Instant := do
  let delay ← policy.computeDelaySeconds attemptCount jitter retryAfterSeconds
  return now + microseconds delay

end RetryPolicy

end IntegrationOrchestrator
