import IntegrationOrchestrator.Foundation.TokenBucket

namespace IntegrationOrchestrator

open TokenBucket

/-- A rate limit, as the settings check it. -/
structure RateLimit where
  ratePerSecond : Rat
  burst : Rat
  rate_pos : 0 < ratePerSecond
  burst_ge : 1 ≤ burst

/-- The hash a script keeps under its key. `HSET` writes both fields at once,
so either both are there or the key is not. -/
abbrev StoredBucket := Bucket Rat

variable {limit : RateLimit} {now : Rat} {stored : Option StoredBucket}

/-- `_TOKEN_BUCKET_SCRIPT`: the bucket it writes, whether the call is allowed,
and the seconds until the next token. -/
def tokenBucketScript (limit : RateLimit) (now : Rat) (stored : Option StoredBucket) : StoredBucket × Bool × Rat :=
  let tokens := (stored.map Bucket.tokens).getD limit.burst
  let updatedAt := (stored.map Bucket.updatedAt).getD now
  let elapsed := max 0 (now - updatedAt)
  let tokens := min limit.burst (tokens + elapsed * limit.ratePerSecond)
  if 1 ≤ tokens then ({ tokens := tokens - 1, updatedAt := now }, true, 0)
  else ({ tokens := tokens, updatedAt := now }, false, (1 - tokens) / limit.ratePerSecond)

/-- The inbound limiter's `_TOKEN_BUCKET`: the bucket it writes, whether the
call is allowed, and the tokens left. -/
def inboundTokenBucket (limit : RateLimit) (cost now : Rat) (stored : Option StoredBucket) :
    StoredBucket × Bool × Rat :=
  let tokens := (stored.map Bucket.tokens).getD limit.burst
  let ts := (stored.map Bucket.updatedAt).getD now
  let elapsed := max 0 (now - ts)
  let tokens := min limit.burst (tokens + elapsed * limit.ratePerSecond)
  if cost ≤ tokens then ({ tokens := tokens - cost, updatedAt := now }, true, tokens - cost)
  else ({ tokens := tokens, updatedAt := now }, false, tokens)

/-- `InboundRateLimiter.allow` takes one token for each call. -/
def inboundScript (limit : RateLimit) (now : Rat) (stored : Option StoredBucket) : StoredBucket × Bool × Rat :=
  inboundTokenBucket limit 1 now stored

/-- `RedisRateLimiter.retry_after`. -/
def retryAfter (limit : RateLimit) (now : Rat) (stored : Option StoredBucket) : Rat :=
  match stored with
  | none => 0
  | some bucket =>
    let elapsed := max 0 (now - bucket.updatedAt)
    let tokens := min limit.burst (bucket.tokens + elapsed * limit.ratePerSecond)
    if 1 ≤ tokens then 0 else (1 - tokens) / limit.ratePerSecond

/-- `_ttl_seconds`. -/
def ttlSeconds (limit : RateLimit) : Int := max 60 ⌊limit.burst / limit.ratePerSecond * 4⌋

/-- A call of a script on a key that is gone if it was idle for a time that
`drops` accepts. -/
def evaluated (script : Rat → Option StoredBucket → StoredBucket × Bool × Rat) (drops : Rat → Bool) (now : Rat)
    (stored : Option StoredBucket) : StoredBucket × Bool × Rat :=
  script now (stored.filter fun bucket => ¬ drops (now - bucket.updatedAt))

/-- A script's calls at these readings of the clock, one after another: the
decisions, and the bucket they leave. -/
def admissions (script : Rat → Option StoredBucket → StoredBucket × Bool × Rat) (drops : Rat → Bool) :
    Option StoredBucket → List Rat → List Bool × Option StoredBucket
  | stored, [] => ([], stored)
  | stored, now :: rest =>
    let answer := evaluated script drops now stored
    let others := admissions script drops (some answer.1) rest
    (answer.2.1 :: others.1, others.2)

/-! ### The scripts as token buckets -/

/-- The bucket a limit stands for, at one token a call. -/
def RateLimit.bucket (limit : RateLimit) : Limit Rat :=
  { rate := limit.ratePerSecond, burst := limit.burst, cost := 1, rate_pos := limit.rate_pos
    cost_pos := zero_lt_one, cost_le := limit.burst_ge }

theorem tokenBucketScript_take (limit : RateLimit) (now : Rat) (stored : Option StoredBucket) :
    ((tokenBucketScript limit now stored).1, (tokenBucketScript limit now stored).2.1) =
      limit.bucket.take now stored := by
  unfold tokenBucketScript Limit.take
  dsimp only
  split <;> rename_i enough
  · rw [if_pos]
    · rfl
    · exact enough
  · rw [if_neg]
    · rfl
    · exact enough

theorem inboundScript_take (limit : RateLimit) (now : Rat) (stored : Option StoredBucket) :
    ((inboundScript limit now stored).1, (inboundScript limit now stored).2.1) = limit.bucket.take now stored := by
  unfold inboundScript inboundTokenBucket Limit.take
  dsimp only
  split <;> rename_i enough
  · rw [if_pos]
    · rfl
    · exact enough
  · rw [if_neg]
    · rfl
    · exact enough

/-- A script that works like the bucket decides like it. -/
theorem admissions_decisions {script : Rat → Option StoredBucket → StoredBucket × Bool × Rat}
    (works : ∀ now stored, ((script now stored).1, (script now stored).2.1) = limit.bucket.take now stored)
    (drops : Rat → Bool) (stored : Option StoredBucket) (readings : List Rat) :
    admissions script drops stored readings =
      (limit.bucket.decisions drops stored readings, limit.bucket.after drops stored readings) := by
  induction readings generalizing stored with
  | nil => rfl
  | cons now rest ih =>
    have left := congrArg Prod.fst (works now (stored.filter fun bucket => ¬ drops (now - bucket.updatedAt)))
    have decided := congrArg Prod.snd (works now (stored.filter fun bucket => ¬ drops (now - bucket.updatedAt)))
    dsimp only at left decided
    simp only [admissions, evaluated, Limit.decisions, Limit.after, ih, left, decided]

theorem sound_none : Limit.Sound (none : Option StoredBucket) := by
  intro bucket absent
  cases absent

/-! ### How many calls a bucket admits -/

/-- By how much the clock moves forward, in total, from one reading to the next. -/
def forwardMoves : List Rat → Rat
  | [] => 0
  | first :: rest => rise first rest

theorem admitted_le {script : Rat → Option StoredBucket → StoredBucket × Bool × Rat}
    (works : ∀ now stored, ((script now stored).1, (script now stored).2.1) = limit.bucket.take now stored)
    (readings : List Rat) : (((admissions script never none readings).1.count true : Nat) : Rat) ≤
      limit.burst + limit.ratePerSecond * forwardMoves readings := by
  rw [admissions_decisions works]
  cases readings with
  | nil =>
    have burst : 0 ≤ limit.burst := zero_le_one.trans limit.burst_ge
    simpa [Limit.decisions, forwardMoves] using burst
  | cons first rest =>
    have spent := limit.bucket.spent_le_burst sound_none first rest
    rw [show limit.bucket.cost = 1 from rfl, one_mul] at spent
    exact spent

theorem forwardMoves_le {readings : List Rat} {smallest largest : Rat} (sorted : readings.Pairwise (· ≤ ·))
    (least : IsLeast {t | t ∈ readings} smallest) (greatest : IsGreatest {t | t ∈ readings} largest) :
    forwardMoves readings ≤ largest - smallest := by
  cases readings with
  | nil => cases least.1
  | cons first rest =>
    have moves := rise_le_of_sorted sorted fun reading member => greatest.2 member
    have low : smallest ≤ first := least.2 (List.mem_cons_self ..)
    exact moves.trans (sub_le_sub_left low _)

/-- Whatever the clocks read, both scripts admit at most the burst and what the
rate gives while the readings move forward; so, if no reading is below the one
before it, the burst and what the rate gives between the extreme readings. -/
theorem bucket_bounds_rate (limit : RateLimit) (readings : List Rat) :
    (∀ script ∈ [tokenBucketScript limit, inboundScript limit],
      (((admissions script never none readings).1.count true : Nat) : Rat) ≤
        limit.burst + limit.ratePerSecond * forwardMoves readings) ∧
    ∀ smallest largest, IsLeast {t | t ∈ readings} smallest → IsGreatest {t | t ∈ readings} largest →
      readings.Pairwise (· ≤ ·) → ∀ script ∈ [tokenBucketScript limit, inboundScript limit],
        (((admissions script never none readings).1.count true : Nat) : Rat) ≤
          limit.burst + limit.ratePerSecond * (largest - smallest) := by
  have each : ∀ script ∈ [tokenBucketScript limit, inboundScript limit],
      (((admissions script never none readings).1.count true : Nat) : Rat) ≤
        limit.burst + limit.ratePerSecond * forwardMoves readings := by
    intro script member
    rcases List.mem_pair.mp member with rfl | rfl
    · exact admitted_le (tokenBucketScript_take limit) readings
    · exact admitted_le (inboundScript_take limit) readings
  refine ⟨each, fun smallest largest least greatest sorted script member => ?_⟩
  have moves := mul_le_mul_of_nonneg_left (forwardMoves_le sorted least greatest) limit.rate_pos.le
  exact (each script member).trans (add_le_add_right moves _)

/-- One token in ten seconds, and room for one. -/
def Sample.slowLimit : RateLimit :=
  { ratePerSecond := 1 / 10, burst := 1, rate_pos := by norm_num, burst_ge := by norm_num }

/-- Three calls at readings that never go back. -/
theorem bucket_bounds_rate_steady :
    (((admissions (inboundScript Sample.slowLimit) never none [0, 10, 20]).1.count true : Nat) : Rat) ≤
      1 + 1 / 10 * (20 - 0) := by
  have least : IsLeast {t : Rat | t ∈ [(0 : Rat), 10, 20]} 0 := by
    refine ⟨by simp, fun t member => ?_⟩
    simp only [List.mem_cons, List.not_mem_nil, or_false, Set.mem_ofPred_eq] at member
    rcases member with rfl | rfl | rfl <;> norm_num
  have greatest : IsGreatest {t : Rat | t ∈ [(0 : Rat), 10, 20]} 20 := by
    refine ⟨by simp, fun t member => ?_⟩
    simp only [List.mem_cons, List.not_mem_nil, or_false, Set.mem_ofPred_eq] at member
    rcases member with rfl | rfl | rfl <;> norm_num
  exact (bucket_bounds_rate Sample.slowLimit [0, 10, 20]).2 0 20 least greatest (by norm_num)
    (inboundScript Sample.slowLimit) (by simp)

/-- Two replicas whose clocks are ten seconds apart call in turn: each forward
move refills the bucket, and three calls are admitted where the readings allow
for two. -/
theorem clock_jumps_exceed_rate :
    (admissions (tokenBucketScript Sample.slowLimit) never none [0, 10, 0, 10]).1.count true = 3 ∧
    (admissions (inboundScript Sample.slowLimit) never none [0, 10, 0, 10]).1.count true = 3 ∧
      Sample.slowLimit.burst + Sample.slowLimit.ratePerSecond * (10 - 0) = 2 := by
  decide +kernel

/-! ### Expiry and the advertised wait -/

/-- A key is set to live longer than its bucket takes to refill. -/
theorem burst_le_ttl (limit : RateLimit) : limit.burst / limit.ratePerSecond ≤ ttlSeconds limit := by
  have time : 0 < limit.burst / limit.ratePerSecond :=
    div_pos (zero_lt_one.trans_le limit.burst_ge) limit.rate_pos
  have truncated := Int.sub_one_lt_floor (limit.burst / limit.ratePerSecond * 4)
  have least : ((60 : Int) : Rat) ≤ ttlSeconds limit := Int.cast_le.mpr (le_max_left _ _)
  have long : ((⌊limit.burst / limit.ratePerSecond * 4⌋ : Int) : Rat) ≤ ttlSeconds limit :=
    Int.cast_le.mpr (le_max_right _ _)
  rcases le_total (limit.burst / limit.ratePerSecond) 60 with short | lasting
  · exact short.trans (by exact_mod_cast least)
  · linarith

/-- A bucket that is dropped only after its TTL has refilled. -/
theorem refilled_of_ttl {drops : Rat → Bool} (expiry : ∀ idle, drops idle = true → (ttlSeconds limit : Rat) ≤ idle)
    (idle : Rat) (dropped : drops idle = true) : limit.bucket.burst ≤ idle * limit.bucket.rate :=
  (div_le_iff₀ limit.rate_pos).mp ((burst_le_ttl limit).trans (expiry idle dropped))

theorem refilled_of_never (idle : Rat) (dropped : never idle = true) :
    limit.bucket.burst ≤ idle * limit.bucket.rate := by
  cases dropped

/-- What `retry_after` gives after a refusal, for a key that is dropped only
once its bucket has refilled. -/
theorem retryAfter_exact {drops : Rat → Bool}
    (late : ∀ idle, drops idle = true → limit.bucket.burst ≤ idle * limit.bucket.rate) (sound : Limit.Sound stored)
    {t : Rat} (refused : (evaluated (tokenBucketScript limit) drops t stored).2.1 = false) :
    0 < retryAfter limit t (some (evaluated (tokenBucketScript limit) drops t stored).1) ∧
    ∀ d, (evaluated (tokenBucketScript limit) drops (t + d)
        (some (evaluated (tokenBucketScript limit) drops t stored).1)).2.1 = true ↔
      retryAfter limit t (some (evaluated (tokenBucketScript limit) drops t stored).1) ≤ d := by
  have taken : ∀ now stored, (tokenBucketScript limit now stored).1 = (limit.bucket.take now stored).1 ∧
      (tokenBucketScript limit now stored).2.1 = (limit.bucket.take now stored).2 := fun now stored =>
    ⟨congrArg Prod.fst (tokenBucketScript_take limit now stored),
      congrArg Prod.snd (tokenBucketScript_take limit now stored)⟩
  simp only [evaluated, taken, Limit.take_dropped late sound] at refused ⊢
  have sound' := Limit.take_sound limit.bucket sound t
  obtain ⟨positive, exact⟩ := Limit.wait_exact refused
  refine ⟨positive, fun d => ?_⟩
  rw [Limit.take_dropped late sound']
  exact exact d

/-- A key that disappears only after its TTL of inactivity is not missed, and
after a refusal `retry_after` gives exactly the time after which the next call
is admitted, whether or not the key disappears meanwhile. -/
theorem expiry_and_wait_exact (limit : RateLimit) {drops : Rat → Bool}
    (expiry : ∀ idle, drops idle = true → (ttlSeconds limit : Rat) ≤ idle) (times : List Rat) :
    (admissions (tokenBucketScript limit) drops none times).1 =
      (admissions (tokenBucketScript limit) never none times).1 ∧
    ∀ policy ∈ [drops, never], ∀ t bucket answer,
      evaluated (tokenBucketScript limit) policy t (admissions (tokenBucketScript limit) policy none times).2 =
        (bucket, false, answer) →
      0 < retryAfter limit t (some bucket) ∧
        ∀ d, (evaluated (tokenBucketScript limit) policy (t + d) (some bucket)).2.1 = true ↔
          retryAfter limit t (some bucket) ≤ d := by
  have works := tokenBucketScript_take limit
  refine ⟨?_, fun policy member t bucket answer refused => ?_⟩
  · rw [admissions_decisions works, admissions_decisions works]
    exact (Limit.decisions_dropped (refilled_of_ttl expiry) sound_none times).1
  · rw [admissions_decisions works] at refused
    have sound : Limit.Sound (limit.bucket.after policy none times) := Limit.after_sound sound_none times
    have late : ∀ idle, policy idle = true → limit.bucket.burst ≤ idle * limit.bucket.rate := by
      rcases List.mem_pair.mp member with rfl | rfl
      · exact refilled_of_ttl expiry
      · exact refilled_of_never
    have exact := retryAfter_exact late sound (t := t) (by rw [refused])
    rw [refused] at exact
    exact exact

/-- Keys that disappear after a minute. -/
def Sample.afterMinute (idle : Rat) : Bool := 60 ≤ idle

/-- The key disappears between the first call and the second; the third call
is refused and told to wait for nine seconds. -/
theorem expiry_and_wait_exact_minute :
    (admissions (tokenBucketScript Sample.slowLimit) Sample.afterMinute none [0, 70]).1 =
      (admissions (tokenBucketScript Sample.slowLimit) never none [0, 70]).1 ∧
    (evaluated (tokenBucketScript Sample.slowLimit) Sample.afterMinute (71 + 9)
      (some (evaluated (tokenBucketScript Sample.slowLimit) Sample.afterMinute 71
        (admissions (tokenBucketScript Sample.slowLimit) Sample.afterMinute none [0, 70]).2).1)).2.1 = true := by
  have expiry : ∀ idle, Sample.afterMinute idle = true → (ttlSeconds Sample.slowLimit : Rat) ≤ idle := by
    intro idle dropped
    have minute : ttlSeconds Sample.slowLimit = 60 := by decide +kernel
    rw [minute]
    simpa [Sample.afterMinute] using dropped
  obtain ⟨same, waits⟩ := expiry_and_wait_exact Sample.slowLimit expiry [0, 70]
  have refused : (evaluated (tokenBucketScript Sample.slowLimit) Sample.afterMinute 71
      (admissions (tokenBucketScript Sample.slowLimit) Sample.afterMinute none [0, 70]).2).2.1 = false := by
    decide +kernel
  obtain ⟨_, exact⟩ := waits Sample.afterMinute (by simp) 71 _ _ (Prod.ext rfl (Prod.ext refused rfl))
  exact ⟨same, (exact 9).mpr (by decide +kernel)⟩

end IntegrationOrchestrator
