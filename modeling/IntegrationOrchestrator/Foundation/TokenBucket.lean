import Mathlib

namespace TokenBucket

/-- How a bucket refills, how much it holds and what one call takes from it. -/
structure Limit (K : Type) [Field K] [LinearOrder K] where
  rate : K
  burst : K
  cost : K
  rate_pos : 0 < rate
  cost_pos : 0 < cost
  cost_le : cost ≤ burst

/-- A bucket as the last call left it. -/
structure Bucket (K : Type) where
  tokens : K
  updatedAt : K

variable {K : Type} [Field K] [LinearOrder K] (limit : Limit K)

namespace Limit

/-- The tokens a call finds. A bucket that is not stored is full. -/
def level (now : K) (stored : Option (Bucket K)) : K :=
  let tokens := (stored.map Bucket.tokens).getD limit.burst
  let updatedAt := (stored.map Bucket.updatedAt).getD now
  min limit.burst (tokens + max 0 (now - updatedAt) * limit.rate)

/-- One call: the bucket it leaves and whether it is admitted. -/
def take (now : K) (stored : Option (Bucket K)) : Bucket K × Bool :=
  if limit.cost ≤ limit.level now stored then
    ({ tokens := limit.level now stored - limit.cost, updatedAt := now }, true)
  else ({ tokens := limit.level now stored, updatedAt := now }, false)

/-- The decisions on calls at these readings of the clock, where a bucket that
was idle for a time that `drops` accepts is not stored any more. -/
def decisions (drops : K → Bool) : Option (Bucket K) → List K → List Bool
  | _, [] => []
  | stored, now :: rest =>
    let taken := limit.take now (stored.filter fun bucket => ¬ drops (now - bucket.updatedAt))
    taken.2 :: decisions drops (some taken.1) rest

/-- The bucket after these calls. -/
def after (drops : K → Bool) : Option (Bucket K) → List K → Option (Bucket K)
  | stored, [] => stored
  | stored, now :: rest =>
    after drops (some (limit.take now (stored.filter fun bucket => ¬ drops (now - bucket.updatedAt))).1) rest

/-- How long a refused caller has to wait. -/
def wait (now : K) (stored : Option (Bucket K)) : K :=
  if limit.cost ≤ limit.level now stored then 0 else (limit.cost - limit.level now stored) / limit.rate

end Limit

/-- No bucket is ever dropped. -/
def never : K → Bool := fun _ => false

/-- By how much the clock moves forward, in total, over these readings. -/
def rise (start : K) : List K → K
  | [] => 0
  | now :: rest => max 0 (now - start) + rise now rest

namespace Limit

variable {limit} {drops : K → Bool} {now : K} {stored : Option (Bucket K)}

theorem burst_pos (limit : Limit K) : 0 < limit.burst := limit.cost_pos.trans_le limit.cost_le

theorem level_le (limit : Limit K) (now : K) (stored : Option (Bucket K)) : limit.level now stored ≤ limit.burst :=
  min_le_left _ _

theorem level_none (limit : Limit K) (now : K) : limit.level now none = limit.burst := by
  simp [level]

theorem level_some (limit : Limit K) (now : K) (bucket : Bucket K) : limit.level now (some bucket) =
    min limit.burst (bucket.tokens + max 0 (now - bucket.updatedAt) * limit.rate) := rfl

/-- A call spends what it is admitted for and keeps the rest. -/
theorem take_balance (limit : Limit K) (now : K) (stored : Option (Bucket K)) :
    (limit.take now stored).1.tokens + (if (limit.take now stored).2 then limit.cost else 0) =
      limit.level now stored := by
  unfold take
  split <;> simp

@[simp] theorem take_updatedAt (limit : Limit K) (now : K) (stored : Option (Bucket K)) :
    (limit.take now stored).1.updatedAt = now := by
  unfold take
  split <;> rfl

theorem take_admits_iff : (limit.take now stored).2 = true ↔ limit.cost ≤ limit.level now stored := by
  unfold take
  split <;> simp_all

omit [LinearOrder K] in
@[simp] theorem filter_never (stored : Option (Bucket K)) (now : K) :
    (stored.filter fun bucket => ¬ never (now - bucket.updatedAt)) = stored := by
  cases stored <;> rfl

theorem decisions_never (limit : Limit K) (stored : Option (Bucket K)) (now : K) (rest : List K) :
    limit.decisions never stored (now :: rest) =
      (limit.take now stored).2 :: limit.decisions never (some (limit.take now stored).1) rest := by
  rw [decisions, filter_never]

theorem spent_cons (limit : Limit K) (admitted : Bool) (rest : List Bool) :
    limit.cost * ((admitted :: rest).count true : Nat) =
      (if admitted then limit.cost else 0) + limit.cost * (rest.count true : Nat) := by
  cases admitted
  · simp
  · rw [List.count_cons_self, Nat.cast_add, Nat.cast_one, if_pos rfl]
    ring

/-- The stored bucket, if there is one, holds no debt. -/
def Sound (stored : Option (Bucket K)) : Prop := ∀ bucket ∈ stored, 0 ≤ bucket.tokens

variable [IsStrictOrderedRing K]

theorem level_nonneg (sound : Sound stored) (now : K) : 0 ≤ limit.level now stored := by
  cases stored with
  | none =>
    rw [level_none]
    exact limit.burst_pos.le
  | some bucket =>
    have refill : 0 ≤ max 0 (now - bucket.updatedAt) * limit.rate :=
      mul_nonneg (le_max_left _ _) limit.rate_pos.le
    exact le_min limit.burst_pos.le (add_nonneg (sound bucket rfl) refill)

theorem take_sound (limit : Limit K) (sound : Sound stored) (now : K) : Sound (some (limit.take now stored).1) := by
  intro bucket here
  cases here
  unfold take
  split
  · rename_i enough
    exact sub_nonneg.mpr enough
  · exact level_nonneg sound now

/-- The tokens spent from a stored bucket come from what it held and from the
refill while the clock moved forward. -/
theorem spent_le (limit : Limit K) {bucket : Bucket K} (sound : Sound (some bucket)) (readings : List K) :
    limit.cost * ((limit.decisions never (some bucket) readings).count true : Nat) ≤
      bucket.tokens + limit.rate * rise bucket.updatedAt readings := by
  induction readings generalizing bucket with
  | nil => simpa [decisions, rise] using sound bucket rfl
  | cons now rest ih =>
    have later := ih (take_sound limit sound now)
    have balance := take_balance limit now (some bucket)
    have refill : limit.level now (some bucket) ≤
        bucket.tokens + max 0 (now - bucket.updatedAt) * limit.rate := min_le_right _ _
    rw [take_updatedAt] at later
    rw [decisions_never, spent_cons, rise]
    linarith

/-- Over any readings of the clock, the tokens spent are bounded by one full
bucket and the refill while the clock moved forward. -/
theorem spent_le_burst (limit : Limit K) (sound : Sound stored) (first : K) (rest : List K) :
    limit.cost * ((limit.decisions never stored (first :: rest)).count true : Nat) ≤
      limit.burst + limit.rate * rise first rest := by
  have later := limit.spent_le (take_sound limit sound first) rest
  have balance := take_balance limit first stored
  have full := limit.level_le first stored
  rw [take_updatedAt] at later
  rw [decisions_never, spent_cons]
  linarith

/-! ### Expiry -/

/-- A bucket that is dropped only after it has refilled is never missed. -/
theorem take_dropped (late : ∀ idle, drops idle = true → limit.burst ≤ idle * limit.rate) (sound : Sound stored)
    (now : K) : limit.take now (stored.filter fun bucket => ¬ drops (now - bucket.updatedAt)) =
      limit.take now stored := by
  cases stored with
  | none => rfl
  | some bucket =>
    by_cases dropped : drops (now - bucket.updatedAt) = true
    · have refilled := late _ dropped
      have elapsed : now - bucket.updatedAt ≤ max 0 (now - bucket.updatedAt) := le_max_right _ _
      have full : limit.level now (some bucket) = limit.burst := by
        refine min_eq_left ?_
        calc limit.burst ≤ (now - bucket.updatedAt) * limit.rate := refilled
          _ ≤ max 0 (now - bucket.updatedAt) * limit.rate := mul_le_mul_of_nonneg_right elapsed limit.rate_pos.le
          _ ≤ bucket.tokens + max 0 (now - bucket.updatedAt) * limit.rate := le_add_of_nonneg_left (sound bucket rfl)
      have none : (some bucket).filter (fun bucket => ¬ drops (now - bucket.updatedAt)) = none := by
        simp [dropped]
      rw [none]
      simp only [take, level_none, full]
    · have kept : (some bucket).filter (fun bucket => ¬ drops (now - bucket.updatedAt)) = some bucket := by
        simp [dropped]
      rw [kept]

/-- Expiry changes neither the decisions nor the bucket. -/
theorem decisions_dropped (late : ∀ idle, drops idle = true → limit.burst ≤ idle * limit.rate) (sound : Sound stored)
    (readings : List K) : limit.decisions drops stored readings = limit.decisions never stored readings ∧
      limit.after drops stored readings = limit.after never stored readings := by
  induction readings generalizing stored with
  | nil => exact ⟨rfl, rfl⟩
  | cons now rest ih =>
    obtain ⟨decided, left⟩ := ih (take_sound limit sound now)
    simp only [decisions, after, take_dropped late sound now, filter_never, decided, left, and_self]

theorem after_sound (sound : Sound stored) (readings : List K) : Sound (limit.after drops stored readings) := by
  induction readings generalizing stored with
  | nil => exact sound
  | cons now rest ih =>
    refine ih (take_sound limit ?_ now)
    intro bucket here
    exact sound bucket (Option.mem_filter_iff.mp here).1

/-! ### Waiting -/

/-- After a refusal, the wait is positive, and it is exactly the time after
which the same bucket admits a call. -/
theorem wait_exact (refused : (limit.take now stored).2 = false) :
    0 < limit.wait now (some (limit.take now stored).1) ∧
      ∀ d, (limit.take (now + d) (some (limit.take now stored).1)).2 = true ↔
        limit.wait now (some (limit.take now stored).1) ≤ d := by
  have short : limit.level now stored < limit.cost := by
    rw [← not_le, ← take_admits_iff, refused]
    simp
  have left : (limit.take now stored).1 = { tokens := limit.level now stored, updatedAt := now } := by
    rw [take, if_neg (not_le.mpr short)]
  have still : limit.level now (some (limit.take now stored).1) = limit.level now stored := by
    simp [left, level_some, level_le]
  have wait : limit.wait now (some (limit.take now stored).1) = (limit.cost - limit.level now stored) / limit.rate := by
    rw [Limit.wait, still, if_neg (not_le.mpr short)]
  refine ⟨?_, fun d => ?_⟩
  · rw [wait]
    exact div_pos (sub_pos.mpr short) limit.rate_pos
  · rw [take_admits_iff, wait, left, level_some, le_min_iff, add_sub_cancel_left, div_le_iff₀ limit.rate_pos]
    constructor
    · rintro ⟨_, enough⟩
      rcases le_total d 0 with back | forward
      · rw [max_eq_left back] at enough
        linarith
      · rw [max_eq_right forward] at enough
        linarith
    · intro enough
      refine ⟨limit.cost_le, ?_⟩
      have elapsed : d * limit.rate ≤ max 0 d * limit.rate :=
        mul_le_mul_of_nonneg_right (le_max_right _ _) limit.rate_pos.le
      linarith

end Limit

/-! ### Readings that never go back -/

variable [IsStrictOrderedRing K]

theorem rise_le_of_sorted {start largest : K} {readings : List K} (sorted : (start :: readings).Pairwise (· ≤ ·))
    (below : ∀ reading ∈ start :: readings, reading ≤ largest) : rise start readings ≤ largest - start := by
  induction readings generalizing start with
  | nil => simpa [rise] using below start (List.mem_cons_self ..)
  | cons now rest ih =>
    obtain ⟨first, later⟩ := List.pairwise_cons.mp sorted
    have forward := first now (List.mem_cons_self ..)
    have below' := ih later fun reading member => below reading (List.mem_cons_of_mem _ member)
    rw [rise, max_eq_right (sub_nonneg.mpr forward)]
    linarith

end TokenBucket
