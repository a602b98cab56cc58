import IntegrationOrchestrator.Domain.Policies

namespace IntegrationOrchestrator

namespace RetryPolicy

variable {policy : RetryPolicy} {n m : Int} {jitter hint hint' : Rat}

/-- The capped exponential term of an attempt. -/
def ceiling (policy : RetryPolicy) (n : Int) : Rat :=
  min (policy.baseSeconds * policy.multiplier ^ (n - 1).toNat) policy.maxSeconds

/-- What a positive Retry-After hint counts for. -/
def honoured (policy : RetryPolicy) (hint : Rat) : Rat := min hint policy.retryAfterCapSeconds

/-- The delays that some jitter gives after `n` attempts. -/
def delays (policy : RetryPolicy) (n : Int) : Set Rat :=
  {d | ∃ jitter, 0 ≤ jitter ∧ jitter < 1 ∧ policy.computeDelaySeconds n jitter none = .ok d}

theorem ceiling_pos (policy : RetryPolicy) (n : Int) : 0 < policy.ceiling n := by
  have multiplier : 0 < policy.multiplier := lt_of_lt_of_le zero_lt_one policy.multiplier_ge
  exact lt_min (mul_pos policy.durations_pos.1 (pow_pos multiplier _)) policy.durations_pos.2

theorem ceiling_mono (policy : RetryPolicy) (order : n ≤ m) : policy.ceiling n ≤ policy.ceiling m := by
  have power : policy.multiplier ^ (n - 1).toNat ≤ policy.multiplier ^ (m - 1).toNat :=
    pow_le_pow_right₀ policy.multiplier_ge (by omega)
  exact min_le_min_right _ (mul_le_mul_of_nonneg_left power policy.durations_pos.1.le)

theorem honoured_mono (policy : RetryPolicy) (order : hint ≤ hint') :
    policy.honoured hint ≤ policy.honoured hint' := min_le_min_right _ order

theorem honoured_pos (cap : 0 < policy.retryAfterCapSeconds) (positive : 0 < hint) : 0 < policy.honoured hint :=
  lt_min positive cap

/-- Without a hint that counts, half of the term is certain and half is jitter. -/
theorem computeDelaySeconds_backoff {retryAfter : Option Rat} (attempts : 1 ≤ n) (range : 0 ≤ jitter ∧ jitter < 1)
    (none : ∀ hint, retryAfter = some hint → hint ≤ 0) :
    policy.computeDelaySeconds n jitter retryAfter =
      .ok (policy.ceiling n / 2 + jitter * (policy.ceiling n / 2)) := by
  unfold computeDelaySeconds
  rw [if_neg (not_not.mpr range), if_neg (not_lt.mpr attempts)]
  cases retryAfter with
  | none => rfl
  | some hint => exact if_neg (not_lt.mpr (none hint rfl))

theorem computeDelaySeconds_hinted (attempts : 1 ≤ n) (range : 0 ≤ jitter ∧ jitter < 1) (positive : 0 < hint) :
    policy.computeDelaySeconds n jitter (some hint) =
      .ok (policy.honoured hint + jitter * min (policy.honoured hint * (1 / 10)) 1) := by
  unfold computeDelaySeconds
  rw [if_neg (not_not.mpr range), if_neg (not_lt.mpr attempts)]
  exact if_pos positive

/-- Jitter spreads the delay over the upper half of the term. -/
theorem jittered_bounds {term : Rat} (positive : 0 < term) (range : 0 ≤ jitter ∧ jitter < 1) :
    term / 2 ≤ term / 2 + jitter * (term / 2) ∧ term / 2 + jitter * (term / 2) < term := by
  have half : 0 < term / 2 := half_pos positive
  have low : 0 ≤ jitter * (term / 2) := mul_nonneg range.1 half.le
  have high : jitter * (term / 2) < 1 * (term / 2) := mul_lt_mul_of_pos_right range.2 half
  constructor
  · linarith
  · linarith

theorem jittered_mono {low high : Rat} (order : low ≤ high) (nonneg : 0 ≤ jitter) :
    low + jitter * low ≤ high + jitter * high :=
  add_le_add order (mul_le_mul_of_nonneg_left order nonneg)

/-- The smallest delay after `n` attempts is half of the term. -/
theorem delays_least (policy : RetryPolicy) (attempts : 1 ≤ n) : IsLeast (policy.delays n) (policy.ceiling n / 2) := by
  have unhinted : ∀ hint : Rat, (none : Option Rat) = some hint → hint ≤ 0 := by
    intro hint same
    cases same
  constructor
  · refine ⟨0, le_rfl, zero_lt_one, ?_⟩
    rw [computeDelaySeconds_backoff attempts ⟨le_rfl, zero_lt_one⟩ unhinted, zero_mul, add_zero]
  · rintro d ⟨jitter, low, high, run⟩
    rw [computeDelaySeconds_backoff attempts ⟨low, high⟩ unhinted] at run
    cases run
    exact (jittered_bounds (policy.ceiling_pos n) ⟨low, high⟩).1

/-- The delay before the next attempt: without a hint between half of the
capped exponential term and the term, growing with the attempts for the same
jitter and in its smallest value; with a positive hint at least what the hint
counts for, less than a second more, and growing with the hint. -/
theorem backoff_shape (policy : RetryPolicy) (cap : 0 < policy.retryAfterCapSeconds) (attempts : 1 ≤ n)
    (range : 0 ≤ jitter ∧ jitter < 1) :
    (∀ retryAfter : Option Rat, (∀ hint, retryAfter = some hint → hint ≤ 0) →
      ∃ d, policy.computeDelaySeconds n jitter retryAfter = .ok d ∧
        min (policy.baseSeconds * policy.multiplier ^ (n - 1).toNat) policy.maxSeconds / 2 ≤ d ∧
        d < min (policy.baseSeconds * policy.multiplier ^ (n - 1).toNat) policy.maxSeconds ∧
        ∀ m, n ≤ m → ∃ d', policy.computeDelaySeconds m jitter retryAfter = .ok d' ∧ d ≤ d') ∧
    (∃ least least', IsLeast (policy.delays n) least ∧ IsLeast (policy.delays (n + 1)) least' ∧ least ≤ least') ∧
    ∀ hint, 0 < hint → ∃ d, policy.computeDelaySeconds n jitter (some hint) = .ok d ∧
      min hint policy.retryAfterCapSeconds ≤ d ∧ d < min hint policy.retryAfterCapSeconds + 1 ∧
      ∀ hint', hint ≤ hint' → ∃ d', policy.computeDelaySeconds n jitter (some hint') = .ok d' ∧ d ≤ d' := by
  refine ⟨fun retryAfter unhinted => ?_, ?_, fun hint positive => ?_⟩
  · obtain ⟨low, high⟩ := jittered_bounds (policy.ceiling_pos n) range
    refine ⟨_, computeDelaySeconds_backoff attempts range unhinted, low, high, fun m order => ?_⟩
    refine ⟨_, computeDelaySeconds_backoff (attempts.trans order) range unhinted, ?_⟩
    exact jittered_mono (div_le_div_of_nonneg_right (policy.ceiling_mono order) zero_le_two) range.1
  · have next : 1 ≤ n + 1 := by omega
    have order : n ≤ n + 1 := by omega
    exact ⟨_, _, policy.delays_least attempts, policy.delays_least next,
      div_le_div_of_nonneg_right (policy.ceiling_mono order) zero_le_two⟩
  · have counts := honoured_pos cap positive
    have spread : 0 ≤ min (policy.honoured hint * (1 / 10)) 1 := le_min (by positivity) zero_le_one
    have low : 0 ≤ jitter * min (policy.honoured hint * (1 / 10)) 1 := mul_nonneg range.1 spread
    have high : jitter * min (policy.honoured hint * (1 / 10)) 1 < 1 :=
      calc jitter * min (policy.honoured hint * (1 / 10)) 1
          ≤ jitter * 1 := mul_le_mul_of_nonneg_left (min_le_right _ _) range.1
        _ = jitter := mul_one _
        _ < 1 := range.2
    refine ⟨_, computeDelaySeconds_hinted attempts range positive, le_add_of_nonneg_right low,
      add_lt_add_right high _, fun hint' order => ?_⟩
    refine ⟨_, computeDelaySeconds_hinted attempts range (positive.trans_le order), ?_⟩
    have grows := policy.honoured_mono order
    have wider : min (policy.honoured hint * (1 / 10)) 1 ≤ min (policy.honoured hint' * (1 / 10)) 1 :=
      min_le_min_right _ (mul_le_mul_of_nonneg_right grows (by norm_num))
    exact add_le_add grows (mul_le_mul_of_nonneg_left wider range.1)

end RetryPolicy

theorem Sample.attempts_pos : (1 : Int) ≤ 5 := by decide

/-- The default durations are within the bounds the settings check. -/
theorem Sample.durations_pos : (0 : Rat) < 1 / 2 ∧ (0 : Rat) < 60 := by norm_num

theorem Sample.multiplier_ge : (1 : Rat) ≤ 2 := by norm_num

/-- The policy with the default durations. -/
def Sample.fiveAttempts : RetryPolicy where
  maxAttempts := 5
  attempts_pos := Sample.attempts_pos
  durations_pos := Sample.durations_pos
  multiplier_ge := Sample.multiplier_ge

/-- After three attempts, at the middle of the jitter, and with a hint of two
minutes. -/
theorem RetryPolicy.backoff_shape_third :
    (∃ d, Sample.fiveAttempts.computeDelaySeconds 3 (1 / 2) none = .ok d ∧ 1 ≤ d ∧ d < 2) ∧
      ∃ d, Sample.fiveAttempts.computeDelaySeconds 3 (1 / 2) (some 120) = .ok d ∧ 120 ≤ d ∧ d < 121 := by
  have attempts : (1 : Int) ≤ 3 := by decide
  have range : (0 : Rat) ≤ 1 / 2 ∧ (1 / 2 : Rat) < 1 := by norm_num
  have cap : 0 < Sample.fiveAttempts.retryAfterCapSeconds := by norm_num [Sample.fiveAttempts]
  obtain ⟨plain, _, hinted⟩ := backoff_shape Sample.fiveAttempts cap attempts range
  obtain ⟨d, run, low, high, _⟩ := plain none (by simp)
  obtain ⟨d', run', low', high', _⟩ := hinted 120 (by norm_num)
  have term : min (Sample.fiveAttempts.baseSeconds * Sample.fiveAttempts.multiplier ^ ((3 : Int) - 1).toNat)
      Sample.fiveAttempts.maxSeconds = 2 := by
    show min ((1 / 2 : Rat) * 2 ^ 2) 60 = 2
    norm_num
  have counts : min 120 Sample.fiveAttempts.retryAfterCapSeconds = 120 := by norm_num [Sample.fiveAttempts]
  rw [term] at low high
  rw [counts] at low' high'
  refine ⟨⟨d, run, ?_, high⟩, d', run', low', ?_⟩
  · linarith
  · linarith

end IntegrationOrchestrator
