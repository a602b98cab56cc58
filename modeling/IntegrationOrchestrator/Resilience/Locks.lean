import IntegrationOrchestrator.Foundation.TaskPool
import IntegrationOrchestrator.Foundation.Leases

namespace IntegrationOrchestrator

open TaskPool Leases

/-- `RedisLock`: one acquisition attempt of a named lock. The token is drawn
when the object is made. -/
structure RedisLock where
  key : String
  token : String
  ttlMs : Nat
  waitSeconds : Rat

/-- `RedisLockManager.lock` over `KeyBuilder.lock`, with the token
`secrets.token_urlsafe` returned. -/
def RedisLock.make (keyspace resource : String) (ttlSeconds : Rat) (waitSeconds : Rat) (token : String) : RedisLock :=
  { key := ":".intercalate [keyspace, "lock", resource], token, ttlMs := ⌊ttlSeconds * 1000⌋.toNat, waitSeconds }

namespace Lock

/-- Lock objects are told apart by a number. -/
abbrev Holder := Nat

/-- The server with its clock, the `_held` flag of every lock object, and the
leases the objects took and have not given back. No code reads the last. -/
structure State where
  store : Keyspace String String
  now : Nat
  held : Holder → Bool
  leases : Book Holder

/-- A task between two commands of the server. -/
inductive Frame where
  | enter (holder : Holder)
  | acquire (holder : Holder) (deadline : Rat)
  | acquired (holder : Holder) (deadline : Rat) (answer : Bool)
  | exit (holder : Holder)
  | release (holder : Holder)
  | released (holder : Holder)
  | clock
  deriving DecidableEq

/-- What a step reads from outside: the event loop's clock, and the
milliseconds that pass on the server's. -/
structure Input where
  loopTime : Rat := 0
  elapsed : Nat := 0

variable (locks : Holder → RedisLock)

/-- `_RELEASE_SCRIPT`. -/
def State.release (s : State) (holder : Holder) : State :=
  { s with store := s.store.deleteIf s.now (locks holder).key (locks holder).token,
           leases := Function.update s.leases holder none }

def exec (frame : Frame) (input : Input) (s : State) : Except Empty (State × List Frame) :=
  match frame with
  | .enter holder => .ok (s, [.acquire holder (input.loopTime + (locks holder).waitSeconds)])
  | .acquire holder deadline =>
    let lock := locks holder
    match s.store.setNX s.now lock.key lock.token lock.ttlMs with
    | none => .ok (s, [.acquired holder deadline false])
    | some store =>
      .ok ({ s with store, leases := Function.update s.leases holder (some (s.now + lock.ttlMs)) },
        [.acquired holder deadline true])
  -- the reply to `SET` is read after the server has moved on
  | .acquired holder deadline answer =>
    if answer then .ok ({ s with held := Function.update s.held holder true }, [])
    else if input.loopTime ≥ deadline then .ok ({ s with held := Function.update s.held holder false }, [])
    else .ok (s, [.acquire holder deadline])
  | .exit holder => .ok (s, if s.held holder then [.release holder] else [])
  | .release holder => .ok (s.release locks holder, [.released holder])
  | .released holder => .ok ({ s with held := Function.update s.held holder false }, [])
  | .clock => .ok ({ s with now := s.now + input.elapsed }, [])

/-- Any object may be entered and left by any number of tasks, in any order. -/
def entry : Frame → Bool
  | .enter _ | .exit _ | .clock => true
  | _ => false

/-- The tasks of every process that shares the server. -/
def program : Program State Frame Input Empty where
  exec := exec locks
  entry := entry
  catches := fun _ => false

/-- No lock object has been used yet; the server may hold anything. -/
def start (store : Keyspace String String) (now : Nat) : Config State Frame where
  state := { store, now, held := fun _ => false, leases := fun _ => none }
  tasks := []

/-- The holder took a lease that is neither given back nor expired. -/
def State.Holds (s : State) (holder : Holder) : Prop := ∃ ends, s.leases holder = some ends ∧ s.now < ends

/-- The store backs every unexpired lease. -/
def State.Sound (s : State) : Prop :=
  Backed (fun holder => (locks holder).key) (fun holder => (locks holder).token) s.store s.now s.leases

variable {locks} {s s' : State} {frame : Frame} {pushed : List Frame} {input : Input}

theorem sound_exec (distinct : Function.Injective (fun holder => (locks holder).token)) (sound : s.Sound locks)
    (ran : exec locks frame input s = .ok (s', pushed)) : s'.Sound locks := by
  cases frame with
  | enter holder => cases ran; exact sound
  | acquire holder deadline =>
    simp only [exec] at ran
    split at ran
    next => cases ran; exact sound
    next store wrote => cases ran; exact sound.acquire wrote
  | acquired holder deadline answer =>
    simp only [exec] at ran
    split at ran
    · cases ran; exact sound
    · split at ran
      · cases ran; exact sound
      · cases ran; exact sound
  | exit holder => cases ran; exact sound
  | release holder => cases ran; exact sound.release distinct holder
  | released holder => cases ran; exact sound
  | clock => cases ran; exact sound.pass input.elapsed

variable {c : Config State Frame}

theorem sound_reachable (distinct : Function.Injective (fun holder => (locks holder).token))
    {store : Keyspace String String} {now : Nat}
    (reach : (program locks).Reach (fun _ _ => True) (start store now) c) : c.state.Sound locks := by
  refine reach.state_invariant (State.Sound locks) ?_ ?_
  · intro holder ends held
    cases held
  · intro c task input frame rest state pushed _ sound _ _ ran
    exact sound_exec distinct sound ran

theorem next_release {task : Nat} {holder : Holder} {rest : List Frame}
    (atTask : c.tasks[task]? = some (.release holder :: rest)) (input : Input) :
    (program locks).next c (.run task input) =
      some { state := c.state.release locks holder, tasks := c.tasks.set task (.released holder :: rest) } := by
  have ran : (program locks).exec (.release holder) input c.state =
      .ok (c.state.release locks holder, [.released holder]) := rfl
  rw [next_run_ok atTask ran]
  rfl

/-- However the steps of the lock objects interleave with each other and with
the server's clock, two unexpired leases on one key belong to one object, and a
release by one object leaves the unexpired lease of every other in place. The
releaser's own lease may have expired or been taken over long ago. -/
theorem lock_excludes (locks : Holder → RedisLock) (distinct : Function.Injective (fun holder => (locks holder).token))
    (store : Keyspace String String) (now : Nat) (c : Config State Frame)
    (reach : (program locks).Reach (fun _ _ => True) (start store now) c) :
    (∀ first second, (locks first).key = (locks second).key → c.state.Holds first → c.state.Holds second →
      first = second) ∧
    ∀ task input releaser rest c', c.tasks[task]? = some (.release releaser :: rest) →
      (program locks).next c (.run task input) = some c' → ∀ other ≠ releaser, c.state.Holds other →
      c'.state.Holds other ∧
        (c'.state.store.get c'.state.now (locks other).key).map Lease.token = some (locks other).token := by
  have sound := sound_reachable distinct reach
  constructor
  · rintro first second same ⟨ends, one, live⟩ ⟨ends', two, live'⟩
    exact sound.exclusive distinct same one live two live'
  · rintro task input releaser rest c' atTask step other differs ⟨ends, held, live⟩
    rw [next_release atTask] at step
    cases step
    have stored : c.state.store.deleteIf c.state.now (locks releaser).key (locks releaser).token (locks other).key =
        some ⟨(locks other).token, ends⟩ :=
      deleteIf_keeps (sound other ends held live) live (fun same => differs (distinct same))
    have kept : Function.update c.state.leases releaser none other = some ends := by
      rw [Function.update_of_ne differs, held]
    refine ⟨⟨ends, kept, live⟩, ?_⟩
    exact congrArg (Option.map Lease.token) (Keyspace.get_of_live stored live)

/-- Lock objects on one provider's token, told apart by the length of their
tokens. -/
def Sample.refreshLocks (holder : Holder) : RedisLock :=
  RedisLock.make "iorch" "token-refresh:northstar" 30 5 (String.ofList (List.replicate holder 'a'))

theorem Sample.refreshLocks_distinct : Function.Injective (fun holder => (Sample.refreshLocks holder).token) := by
  intro first second same
  have lengths := congrArg String.length same
  simpa [Sample.refreshLocks, RedisLock.make] using lengths

/-- A holder outlives its lease, a second one takes the lock, and the first is
about to release. -/
def Sample.slowHolder : List (Action Frame Input) :=
  [.spawn (.enter 0), .run 0 {}, .run 0 {}, .run 0 {}, .spawn .clock, .run 1 { elapsed := 30000 },
    .spawn (.enter 1), .run 2 {}, .run 2 {}, .run 2 {}, .spawn (.exit 0), .run 3 {}]

theorem lock_excludes_slow_holder :
    ∃ c, (program Sample.refreshLocks).Reach (fun _ _ => True) (start (fun _ => none) 0) c ∧
      c.state.held 0 = true ∧ ¬ c.state.Holds 0 ∧ c.tasks[3]? = some [.release 0] ∧
      ∃ c', (program Sample.refreshLocks).next c (.run 3 {}) = some c' ∧ c'.state.Holds 1 := by
  have replayed : ((program Sample.refreshLocks).replay (fun _ _ => true) (start (fun _ => none) 0)
      Sample.slowHolder).any (fun c => c.state.held 0 && c.state.now == 30000 && c.state.leases 0 == some 30000 &&
        c.state.leases 1 == some 60000 && c.tasks[3]? == some [.release 0]) = true := by
    decide +kernel
  obtain ⟨c, run, passed⟩ := (Option.any_eq_true ..).mp replayed
  simp only [Bool.and_eq_true, beq_iff_eq] at passed
  obtain ⟨⟨⟨⟨held, now⟩, lapsed⟩, taken⟩, atTask⟩ := passed
  have reach : (program Sample.refreshLocks).Reach (fun _ _ => True) (start (fun _ => none) 0) c :=
    .of_replay (fun _ _ _ => trivial) run
  have next := @next_release Sample.refreshLocks c 3 0 [] atTask {}
  have holds : c.state.Holds 1 := ⟨60000, taken, by omega⟩
  refine ⟨c, reach, held, ?_, atTask, _, next, ?_⟩
  · rintro ⟨ends, same, live⟩
    rw [lapsed] at same
    cases same
    omega
  · exact ((lock_excludes _ Sample.refreshLocks_distinct _ _ c reach).2 3 {} 0 [] _ atTask next 1 (by decide) holds).1

end Lock

end IntegrationOrchestrator
