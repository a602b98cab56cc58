import IntegrationOrchestrator.Resilience.BreakerRuns

namespace IntegrationOrchestrator

open RedisCircuitBreaker

namespace RedisCircuitBreaker

/-- The key outlives the cooldown. -/
theorem openSeconds_le_ttlSeconds (policy : CircuitBreakerPolicy) :
    policy.openSeconds ≤ ttlSeconds policy.openSeconds := by
  have positive := policy.open_pos
  have below : policy.openSeconds * 10 < (policy.openSeconds * 10).floor + 1 := by
    exact_mod_cast Rat.lt_floor_add_one (policy.openSeconds * 10)
  by_cases short : policy.openSeconds ≤ 300
  · exact short.trans (by exact_mod_cast le_max_left 300 _)
  · have long : (300 : Rat) < policy.openSeconds := not_le.mp short
    have enough : policy.openSeconds ≤ ((policy.openSeconds * 10).floor : Rat) := by linarith
    exact enough.trans (by exact_mod_cast le_max_right 300 _)

theorem nowEpoch_mono {earlier later : Instant} (order : earlier ≤ later) : nowEpoch earlier ≤ nowEpoch later := by
  have order : (earlier : Rat) ≤ later := by exact_mod_cast order
  unfold nowEpoch
  linarith

end RedisCircuitBreaker

namespace Breaker

variable {policy : CircuitBreakerPolicy} {b b' b'' : Breaker} {a : BreakerAction} {admitted : Bool}
  {trace : List (Breaker × Bool)} {since : Instant}

/-- The circuit opened at `since`, and either it still stands open and its key
outlives the cooldown, or the cooldown is over. -/
def Cooling (policy : CircuitBreakerPolicy) (since : Instant) (b : Breaker) : Prop :=
  (b.state = .opened ∧ b.key.hash.openedAt = some (nowEpoch since) ∧ since ≤ b.clock ∧
    ∃ expiry, b.key.expiresAt = some expiry ∧ nowEpoch since + policy.openSeconds ≤ expiry) ∨
  nowEpoch since + policy.openSeconds ≤ nowEpoch b.clock

theorem Change.clock_le (change : Change policy b a b' admitted) : b.clock ≤ b'.clock := by
  cases change with
  | wait later => exact later
  | _ => exact le_refl _

/-- A key that was just written outlives the cooldown. -/
theorem outlives (read : since ≤ b.clock) :
    nowEpoch since + policy.openSeconds ≤ nowEpoch b.clock + ttlSeconds policy.openSeconds :=
  add_le_add (nowEpoch_mono read) (openSeconds_le_ttlSeconds policy)

/-- A circuit that cools down keeps doing so, and whoever is admitted comes
after the cooldown. -/
theorem Cooling.keep (cooling : Cooling policy since b) (change : Change policy b a b' admitted) :
    Cooling policy since b' ∧
      (admitted = true → nowEpoch since + policy.openSeconds ≤ nowEpoch b'.clock) := by
  rcases cooling with ⟨opened, stamp, read, expiry, known, outlasts⟩ | passed
  · cases change with
    | wait later =>
      exact ⟨.inl ⟨opened, stamp, le_trans read later, expiry, known, outlasts⟩, nofun⟩
    | lapse due past =>
      cases known.symm.trans due
      exact ⟨.inr (outlasts.trans past), nofun⟩
    | pass closed => cases opened.symm.trans closed
    | refuse => exact ⟨.inl ⟨opened, stamp, read, expiry, known, outlasts⟩, nofun⟩
    | @tryOut now _ earlier cooled =>
      rw [stamp, Option.getD_some] at cooled
      have order := nowEpoch_mono earlier
      have passed : nowEpoch since + policy.openSeconds ≤ nowEpoch b.clock := by linarith
      exact ⟨.inr passed, fun _ => passed⟩
    | probe halfOpen | recover halfOpen | close halfOpen => cases opened.symm.trans halfOpen
    | trip other => exact absurd opened other
    | hear => exact ⟨.inl ⟨opened, stamp, read, _, rfl, outlives read⟩, nofun⟩
    | count closed => cases opened.symm.trans closed
  · have still := passed.trans (nowEpoch_mono change.clock_le)
    exact ⟨.inr still, fun _ => still⟩

/-- Nobody is admitted during the cooldown, however the run goes on. -/
theorem Cooling.run (cooling : Cooling policy since b) (run : Run policy b trace b') :
    ∀ entry ∈ trace, entry.2 = true → nowEpoch since + policy.openSeconds ≤ nowEpoch entry.1.clock := by
  induction run with
  | nil => exact List.forall_mem_nil _
  | cons taken _ ih =>
    obtain ⟨onward, late⟩ := cooling.keep (step_change taken)
    exact List.forall_mem_cons.mpr ⟨late, ih onward⟩

/-- Only a recorded failure opens the circuit, at the reading it brought. -/
theorem Change.opens (change : Change policy b a b' admitted) (before : b.state ≠ .opened)
    (after : b'.state = .opened) : ∃ since, a = .recordFailure since ∧ since ≤ b.clock ∧ Cooling policy since b' := by
  cases change with
  | wait | pass | refuse => exact absurd after before
  | lapse | tryOut => cases after
  | probe halfOpen | recover halfOpen => exact absurd after before
  | @trip since _ _ read => exact ⟨since, rfl, read, .inl ⟨rfl, rfl, read, _, rfl, outlives read⟩⟩
  | hear opened => exact absurd opened before
  | count _ closed => cases closed.symm.trans after
  | close _ closed =>
    rw [state, wrote, closed] at after
    cases after

/-- The calls admitted since the circuit became half-open, as it counts them. -/
def probes (b : Breaker) : Int := b.key.hash.halfOpenProbes.getD 0

/-- Becoming half-open admits one call, and counts it. -/
theorem Change.halves (change : Change policy b a b' admitted) (before : b.state ≠ .halfOpen)
    (after : b'.state = .halfOpen) : admitted = true ∧ b'.probes = 1 := by
  cases change with
  | wait | pass | refuse => exact absurd after before
  | lapse | trip => cases after
  | tryOut => exact ⟨rfl, rfl⟩
  | probe halfOpen | recover halfOpen => exact absurd halfOpen before
  | hear opened => cases opened.symm.trans after
  | count _ closed => cases closed.symm.trans after
  | close _ closed =>
    rw [state, wrote, closed] at after
    cases after

/-- While the circuit stays half-open every admitted call takes a probe, and
there are only so many. -/
theorem Change.probes_le (change : Change policy b a b' admitted) (before : b.state = .halfOpen)
    (after : b'.state = .halfOpen) (bound : b.probes ≤ policy.halfOpenMaxProbes) :
    b'.probes = b.probes + admitted.toNat ∧ b'.probes ≤ policy.halfOpenMaxProbes := by
  cases change with
  | wait | refuse | recover => exact ⟨by simp [probes, wrote], bound⟩
  | lapse | trip => cases after
  | pass closed => cases before.symm.trans closed
  | tryOut opened => cases before.symm.trans opened
  | probe _ free => exact ⟨rfl, Int.add_one_le_of_lt free⟩
  | hear opened => cases before.symm.trans opened
  | count closed => cases before.symm.trans closed
  | close _ closed =>
    rw [state, wrote, closed] at after
    cases after

theorem Run.probes_le (run : Run policy b trace b') (before : b.state = .halfOpen)
    (stays : ∀ entry ∈ trace, entry.1.state = .halfOpen) (bound : b.probes ≤ policy.halfOpenMaxProbes) :
    b.probes + trace.countP (·.2) ≤ policy.halfOpenMaxProbes := by
  induction run with
  | nil => simpa using bound
  | @cons b next b' a admitted trace taken _ ih =>
    obtain ⟨after, rest⟩ := List.forall_mem_cons.mp stays
    obtain ⟨counted, bound'⟩ := (step_change taken).probes_le before after bound
    have onward := ih after rest bound'
    rw [counted] at onward
    have more : ((next, admitted) :: trace).countP (·.2) = trace.countP (·.2) + admitted.toNat := by
      rw [List.countP_cons]
      cases admitted <;> rfl
    rw [more]
    push_cast
    omega

end Breaker

/-- Whatever the replicas record and whenever the key expires: after the
circuit opened, nobody is admitted before the cooldown has passed; and from the
call that made it half-open on, while it stays so, no more calls are admitted
than there are probes. -/
theorem breaker_admission_safety {policy : CircuitBreakerPolicy} {b b' b'' : Breaker} {a : BreakerAction}
    {admitted : Bool} {trace : List (Breaker × Bool)} (taken : b.step policy a = some (b', admitted))
    (run : Breaker.Run policy b' trace b'') :
    (b.state ≠ .opened → b'.state = .opened → ∃ since, a = .recordFailure since ∧ since ≤ b.clock ∧
      ∀ entry ∈ trace, entry.2 = true → nowEpoch since + policy.openSeconds ≤ nowEpoch entry.1.clock) ∧
    (b.state ≠ .halfOpen → b'.state = .halfOpen → (∀ entry ∈ trace, entry.1.state = .halfOpen) →
      (admitted.toNat + trace.countP (·.2) : Int) ≤ policy.halfOpenMaxProbes) := by
  have change := Breaker.step_change taken
  refine ⟨fun before after => ?_, fun before after stays => ?_⟩
  · obtain ⟨since, failed, read, cooling⟩ := change.opens before after
    exact ⟨since, failed, read, cooling.run run⟩
  · obtain ⟨rfl, one⟩ := change.halves before after
    have bound := run.probes_le after stays (one ▸ policy.probes_pos)
    rw [one] at bound
    exact bound

/-- The fifth failure opens the circuit; a call comes through thirty seconds later. -/
theorem breaker_admission_safety_cooled :
    ∃ b b' trace b'', Breaker.Reachable Sample.circuit b ∧ b.state = .closed ∧
      b.step Sample.circuit (.recordFailure 0) = some (b', false) ∧ b'.state = .opened ∧
      Breaker.Run Sample.circuit b' trace b'' ∧ b''.state = .halfOpen ∧
      ∀ entry ∈ trace, entry.2 = true → nowEpoch 0 + 30 ≤ nowEpoch entry.1.clock := by
  let later : List BreakerAction := [.allow 0, .wait 30000000, .allow 30000000]
  obtain ⟨b, reach, found⟩ := Breaker.reachable_replay Sample.circuit 0 (List.replicate 4 (.recordFailure 0))
    (fun b => b.state = .closed && (b.step Sample.circuit (.recordFailure 0)).any fun next =>
      next.2 = false && next.1.state = .opened &&
        (next.1.replay Sample.circuit later).any (·.state = .halfOpen)) (by decide +kernel)
  simp only [Bool.and_eq_true, Option.any_eq_true, decide_eq_true_eq] at found
  obtain ⟨closed, ⟨b', admitted⟩, taken, ⟨rfl, opened⟩, b'', replayed, halfOpen⟩ := found
  obtain ⟨trace, run⟩ := Breaker.run_of_replay replayed
  obtain ⟨since, same, _, late⟩ := (breaker_admission_safety taken run).1 (by simp [closed]) opened
  cases same
  exact ⟨b, b', trace, b'', reach, closed, taken, opened, run, halfOpen, late⟩

end IntegrationOrchestrator
