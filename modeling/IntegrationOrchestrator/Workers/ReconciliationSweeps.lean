import IntegrationOrchestrator.Dispatch.LateSuccess
import IntegrationOrchestrator.Foundation.Ranking
import IntegrationOrchestrator.System.Succession

namespace IntegrationOrchestrator

open IntegrationRequest RequestDispatcher

variable {settings : Settings} {input looks writes : Input} {s s' s'' : State} {pushed : List Frame}
  {q q' : IntegrationRequest} {batch passed watched : List IntegrationRequest} {cutoff cutoff' : Instant} {limit : Nat}

/-! ### One sweep of the worker -/

/-- The row is in flight and was not written since. -/
def IntegrationRequest.isStale (q : IntegrationRequest) (olderThan : Instant) : Bool :=
  q.status ∈ reconcilableStatuses && q.updatedAt ≤ olderThan

def Database.staleInFlight (db : Database) (olderThan : Instant) : List IntegrationRequest :=
  db.requests.rows.filter (·.isStale olderThan)

/-- The order in which a query reads the rows. It decides between rows that were
written at the same time. -/
structure Scan where
  order : List IntegrationRequest → List IntegrationRequest
  perm : ∀ rows, (order rows).Perm rows

/-- `find_stale_in_flight`: the stale rows, those that waited longest first. -/
def Database.findStaleInFlight (db : Database) (scan : Scan) (olderThan : Instant) (limit : Nat) :
    List IntegrationRequest :=
  ((scan.order (db.staleInFlight olderThan)).insertionSort fun first second =>
    first.updatedAt ≤ second.updatedAt).take limit

/-- `ReconciliationService.reconcile`: look the operation up, and then apply the
answer or escalate in a transaction of its own. The worker drops what it raises. -/
def reconcile (settings : Settings) (q : IntegrationRequest) (looks writes : Input) (s : State) : State :=
  match Frame.exec settings (.reconcile q) looks s with
  | .ok (s', [next]) =>
    match next.exec settings writes s' with
    | .ok (s'', _) => s''
    | .error _ => s'
  | .ok (s', _) => s'
  | .error _ => s

/-- `run_once`, with the inputs of the units of work for each request. -/
def ReconciliationWorker.runOnce (settings : Settings) (limit : Nat) (scan : Scan) (now : Instant)
    (inputs : UUID → Input × Input) (s : State) : State :=
  (s.db.findStaleInFlight scan (now - settings.staleAfterSeconds * 1000000) limit).foldl
    (fun s q => reconcile settings q (inputs q.id).1 (inputs q.id).2 s) s

theorem mem_staleInFlight {db : Database} :
    q ∈ db.staleInFlight cutoff ↔ db.requests.get q.id = some q ∧ q.isStale cutoff = true := by
  rw [Database.staleInFlight, List.mem_filter, Table.mem_rows_iff]

theorem staleInFlight_nodup (db : Database) (cutoff : Instant) : ((db.staleInFlight cutoff).map (·.id)).Nodup :=
  db.requests.unique.sublist (List.filter_sublist.map _)

theorem isStale_later (stale : q.isStale cutoff = true) (order : cutoff ≤ cutoff') :
    q.isStale cutoff' = true := by
  simp only [isStale, Bool.and_eq_true, decide_eq_true_eq] at stale ⊢
  exact ⟨stale.1, stale.2.trans order⟩

/-! ### What reconciling one request does to it -/

/-- The provider is asked about the request. -/
def Settings.looksUp (settings : Settings) (q : IntegrationRequest) : Bool :=
  q.providerReference.isSome && (settings.descriptor q.provider).any (·.supportsStatusLookup)

/-- The provider, asked about the request, confirms its status or cannot be
reached. -/
def Settings.confirms (settings : Settings) (q : IntegrationRequest) (input : Input) : Bool :=
  (settings.descriptor q.provider).any fun descriptor =>
    match (getOperationStatus descriptor input.weather).result with
    | .ok result => result.normalizedStatus ≠ .unknown &&
        (projectNormalizedStatus result.normalizedStatus).all fun target => ¬ isForwardProgress q.status target
    | .error (.provider _) => true
    | .error _ => false

/-- The rows of the other requests stay, and this one stays or is escalated. -/
structure Reconciled (settings : Settings) (q : IntegrationRequest) (s s' : State) : Prop where
  others : ∀ requestId, requestId ≠ q.id → s'.db.requests.get requestId = s.db.requests.get requestId
  here : s'.db.requests.get q.id = s.db.requests.get q.id ∨
    settings.looksUp q = false ∧ ∃ q', s'.db.requests.get q.id = some q' ∧ q'.status = .manualReview

theorem Reconciled.of_requests (same : s'.db.requests = s.db.requests) : Reconciled settings q s s' :=
  ⟨fun _ _ => by rw [same], .inl (by rw [same])⟩

theorem escalateRequest_reconciled {reason : String} (unasked : settings.looksUp q = false)
    (stored : s.db.requests.get q.id = some q)
    (run : Frame.execEscalateRequest q reason input s = .ok (s', pushed)) : Reconciled settings q s s' := by
  obtain ⟨current, found, run⟩ := Rows.bind_eq_ok.mp run
  cases (State.request_ok found).1.symm.trans stored
  split at run
  · cases run
    exact .of_requests rfl
  · obtain ⟨⟨q', records⟩, escalated, run⟩ := Rows.bind_eq_ok.mp run
    obtain ⟨saved, wrote, done⟩ := Rows.bind_eq_ok.mp run
    cases done
    have moved := escalate_moved escalated
    obtain ⟨wrote, _⟩ := State.savedRequest_ok wrote stored moved.id
    refine ⟨fun requestId other => by rw [wrote.get, if_neg other], .inr ⟨unasked, q', ?_, moved.status⟩⟩
    rw [wrote.get, if_pos rfl]

theorem applyProviderState_confirmed {result : ProviderOperationResult} (stored : s.db.requests.get q.id = some q)
    (confirmed : (projectNormalizedStatus result.normalizedStatus).all
      (fun target => ¬ isForwardProgress q.status target) = true)
    (run : Frame.execApplyProviderState q result input s = .ok (s', pushed)) : Reconciled settings q s s' := by
  obtain ⟨current, found, run⟩ := Rows.bind_eq_ok.mp run
  cases (State.request_ok found).1.symm.trans stored
  obtain ⟨⟨made, q'⟩, applied, run⟩ := Rows.bind_eq_ok.mp run
  cases made with
  | none =>
    cases run
    exact .of_requests rfl
  | some made =>
    -- a status that is no progress makes no transition
    simp only [applyNormalizedStatus, Mutator.call_bind, Mutator.call_get, Except.bind] at applied
    split at applied
    · simp at applied
    · rename_i target projected
      rw [projected, Option.all_some, decide_eq_true_eq] at confirmed
      rw [Mutator.call_ite, if_pos confirmed] at applied
      simp at applied

theorem escalateIfOld_reconciled {reason : String} {now : Instant} {next : Frame} (unasked : settings.looksUp q = false)
    (stored : s.db.requests.get q.id = some q) (pushes : Frame.escalateIfOld settings q now reason = [next])
    (run : next.exec settings input s = .ok (s', pushed)) : Reconciled settings q s s' := by
  unfold Frame.escalateIfOld at pushes
  split at pushes
  · cases pushes
  · cases pushes
    exact escalateRequest_reconciled unasked stored run

/-- The unit of work that a lookup leaves to do, under an answer that confirms
or does not come. -/
theorem execReconcile_reconciled {next : Frame} {s₁ : State} (stored : s.db.requests.get q.id = some q)
    (obliging : settings.looksUp q = true → settings.confirms q looks = true)
    (looked : Frame.execReconcile settings q looks s = .ok (s₁, [next]))
    (run : next.exec settings writes s₁ = .ok (s', pushed)) : Reconciled settings q s s' := by
  unfold Frame.execReconcile at looked
  split at looked
  · rename_i unnamed
    injection looked with looked
    obtain ⟨rfl, pushes⟩ := Prod.mk.inj looked
    have unasked : settings.looksUp q = false := by
      simp only [Option.isNone_iff_eq_none] at unnamed
      simp [Settings.looksUp, unnamed]
    exact escalateIfOld_reconciled unasked stored pushes run
  · rename_i named
    split at looked
    · cases looked
    · rename_i descriptor known
      split at looked
      · rename_i unsupported
        injection looked with looked
        obtain ⟨rfl, pushes⟩ := Prod.mk.inj looked
        have unasked : settings.looksUp q = false := by
          simp only [Settings.looksUp, known, Option.any_some, Bool.and_eq_false_iff]
          exact .inr (by simpa using unsupported)
        exact escalateIfOld_reconciled unasked stored pushes run
      · rename_i supported
        have asked : settings.looksUp q = true := by
          simp only [Settings.looksUp, known, Option.any_some, Bool.and_eq_true]
          refine ⟨?_, by simpa using supported⟩
          cases reference : q.providerReference with
          | none => simp [reference] at named
          | some => rfl
        have confirmed := obliging asked
        simp only [Settings.confirms, known, Option.any_some] at confirmed
        split at looked
        · rename_i result answer
          simp only [answer, Bool.and_eq_true, decide_eq_true_eq] at confirmed
          rw [if_neg confirmed.1] at looked
          cases looked
          exact applyProviderState_confirmed stored confirmed.2 run
        all_goals
          rename_i answer
          simp only [answer] at confirmed
          cases confirmed
          try cases looked

theorem reconcile_reconciled (stored : s.db.requests.get q.id = some q)
    (obliging : settings.looksUp q = true → settings.confirms q looks = true) :
    Reconciled settings q s (reconcile settings q looks writes s) := by
  have looked : ∀ {s₁ next}, Frame.exec settings (.reconcile q) looks s = .ok (s₁, next) →
      s₁.db.requests = s.db.requests := by
    intro s₁ next run
    rw [Frame.execReconcile_state run]
  unfold reconcile
  split
  · rename_i s₁ next first
    split
    · rename_i second
      exact execReconcile_reconciled stored obliging first second
    · exact .of_requests (looked first)
  · rename_i s₁ frames _ first
    exact .of_requests (looked first)
  · exact .of_requests rfl

/-! ### Consecutive sweeps -/

/-- What else happens leaves the rows of the watched requests alone, and what it
writes is newer than they are. -/
structure Elsewhere (watched : List IntegrationRequest) (cutoff : Instant) (s s' : State) : Prop where
  same : ∀ q ∈ watched, s'.db.requests.get q.id = s.db.requests.get q.id
  newer : ∀ q ∈ s'.db.staleInFlight cutoff, q.id ∈ watched.map (·.id)

/-- The worker passes the requests of its batch to `reconcile` one after the
other. The provider confirms what it is asked of the watched ones or cannot be
reached. -/
inductive Visits (settings : Settings) (watched : List IntegrationRequest) (cutoff : Instant) :
    State → List IntegrationRequest → State → Prop
  | done {s : State} : Visits settings watched cutoff s [] s
  | reconciles {s s' : State} {q : IntegrationRequest} {rest : List IntegrationRequest} {looks writes : Input} :
      q ∈ watched → (settings.looksUp q = true → settings.confirms q looks = true) →
      Visits settings watched cutoff (reconcile settings q looks writes s) rest s' →
      Visits settings watched cutoff s (q :: rest) s'
  | other {s s' s'' : State} {q : IntegrationRequest} {rest : List IntegrationRequest} :
      q ∉ watched → Elsewhere watched cutoff s s' → Visits settings watched cutoff s' rest s'' →
      Visits settings watched cutoff s (q :: rest) s''
  | elsewhere {s s' s'' : State} {batch : List IntegrationRequest} :
      Elsewhere watched cutoff s s' → Visits settings watched cutoff s' batch s'' →
      Visits settings watched cutoff s batch s''

/-- A number of consecutive sweeps and the requests they passed to `reconcile`. -/
inductive Sweeps (settings : Settings) (limit : Nat) (watched : List IntegrationRequest) (cutoff : Instant)
    (s : State) : Nat → List IntegrationRequest → State → Prop
  | start : Sweeps settings limit watched cutoff s 0 [] s
  | next {count : Nat} {passed : List IntegrationRequest} {s' s'' : State} {now : Instant} (scan : Scan) :
      Sweeps settings limit watched cutoff s count passed s' →
      cutoff ≤ now - settings.staleAfterSeconds * 1000000 →
      Visits settings watched cutoff s'
        (s'.db.findStaleInFlight scan (now - settings.staleAfterSeconds * 1000000) limit) s'' →
      Sweeps settings limit watched cutoff s (count + 1)
        (passed ++ s'.db.findStaleInFlight scan (now - settings.staleAfterSeconds * 1000000) limit) s''

/-- How many of the requests are in manual review. -/
def State.escalated (s : State) (watched : List IntegrationRequest) : Nat :=
  watched.countP fun q => (s.db.requests.get q.id).any (·.status = .manualReview)

/-- A sweep over watched requests that nothing else interferes with. -/
theorem visits_foldl {inputs : UUID → Input × Input} (s : State) (known : ∀ q ∈ batch, q ∈ watched)
    (obliging : ∀ q ∈ batch, settings.looksUp q = true → settings.confirms q (inputs q.id).1 = true) :
    Visits settings watched cutoff s batch
      (batch.foldl (fun s q => reconcile settings q (inputs q.id).1 (inputs q.id).2 s) s) := by
  induction batch generalizing s with
  | nil => exact .done
  | cons q rest ih =>
    have visits := ih (reconcile settings q (inputs q.id).1 (inputs q.id).2 s)
      (fun other inside => known other (List.mem_cons_of_mem _ inside))
      fun other inside => obliging other (List.mem_cons_of_mem _ inside)
    exact .reconciles (known q (List.mem_cons_self ..)) (obliging q (List.mem_cons_self ..)) visits

/-- The watched requests are as they were or were escalated, and none that was
stale from the start is missing among them. -/
structure Watches (settings : Settings) (watched : List IntegrationRequest) (cutoff : Instant) (s : State) : Prop where
  rows : ∀ q ∈ watched, s.db.requests.get q.id = some q ∨
    settings.looksUp q = false ∧ ∃ q', s.db.requests.get q.id = some q' ∧ q'.status = .manualReview
  all : ∀ q ∈ s.db.staleInFlight cutoff, q.id ∈ watched.map (·.id)

theorem manualReview_not_stale (review : q.status = .manualReview) : q.isStale cutoff = false := by
  simp [isStale, review, reconcilableStatuses]

theorem Watches.start (settings : Settings) (s : State) (cutoff : Instant) :
    Watches settings (s.db.staleInFlight cutoff) cutoff s :=
  ⟨fun _ member => .inl (mem_staleInFlight.mp member).1, fun _ member => List.mem_map_of_mem member⟩

theorem Elsewhere.watches (elsewhere : Elsewhere watched cutoff s s') (watches : Watches settings watched cutoff s) :
    Watches settings watched cutoff s' :=
  ⟨fun q member => by rw [elsewhere.same q member]; exact watches.rows q member, elsewhere.newer⟩

/-- What was stale from the start is one of the watched rows. -/
theorem Watches.mem_of_stale (watches : Watches settings watched cutoff s) (stale : q ∈ s.db.staleInFlight cutoff) :
    q ∈ watched := by
  obtain ⟨old, member, same⟩ := List.mem_map.mp (watches.all q stale)
  obtain ⟨stored, fresh⟩ := mem_staleInFlight.mp stale
  rcases watches.rows old member with kept | ⟨_, q', review, status⟩
  · rw [same, stored] at kept
    cases kept
    exact member
  · rw [same, stored] at review
    cases review
    rw [manualReview_not_stale status] at fresh
    cases fresh

theorem Watches.reconciled (watches : Watches settings watched cutoff s) (distinct : (watched.map (·.id)).Nodup)
    (member : q ∈ watched) (reconciled : Reconciled settings q s s') : Watches settings watched cutoff s' := by
  refine ⟨fun other inside => ?_, fun stale fresh => ?_⟩
  · by_cases same : other.id = q.id
    · have here : other = q := List.inj_on_of_nodup_map distinct inside member same
      subst here
      rcases reconciled.here with kept | review
      · rw [kept]
        exact watches.rows other inside
      · exact .inr review
    · rw [reconciled.others other.id same]
      exact watches.rows other inside
  · obtain ⟨stored, old⟩ := mem_staleInFlight.mp fresh
    by_cases same : stale.id = q.id
    · exact same ▸ List.mem_map_of_mem member
    · rw [reconciled.others stale.id same] at stored
      exact watches.all stale (mem_staleInFlight.mpr ⟨stored, old⟩)

/-- The visits leave what they do not visit. -/
theorem Visits.watches (visits : Visits settings watched cutoff s batch s') (distinct : (watched.map (·.id)).Nodup)
    (once : (batch.map (·.id)).Nodup) (current : ∀ q ∈ batch, q ∈ watched → s.db.requests.get q.id = some q)
    (watches : Watches settings watched cutoff s) :
    Watches settings watched cutoff s' ∧
      ∀ q ∈ watched, q.id ∉ batch.map (·.id) → s'.db.requests.get q.id = s.db.requests.get q.id := by
  induction visits with
  | done => exact ⟨watches, fun _ _ _ => rfl⟩
  | @reconciles s _ q rest looks writes member obliging _ ih =>
    obtain ⟨apart, once⟩ := List.nodup_cons.mp once
    have stored := current q (List.mem_cons_self ..) member
    have reconciled := @reconcile_reconciled settings looks writes s q stored obliging
    have others : ∀ other ∈ rest, other ∈ watched →
        (reconcile settings q looks writes s).db.requests.get other.id = some other := by
      intro other inside watching
      have elsewhere : other.id ≠ q.id := fun same => apart (List.mem_map.mpr ⟨other, inside, same⟩)
      rw [reconciled.others other.id elsewhere]
      exact current other (List.mem_cons_of_mem _ inside) watching
    obtain ⟨after, kept⟩ := ih once others (watches.reconciled distinct member reconciled)
    refine ⟨after, fun other watching outside => ?_⟩
    rw [List.map_cons, List.mem_cons, not_or] at outside
    rw [kept other watching outside.2, reconciled.others other.id outside.1]
  | other _ elsewhere _ ih =>
    obtain ⟨_, once⟩ := List.nodup_cons.mp once
    obtain ⟨after, kept⟩ := ih once (fun q inside watching => by
      rw [elsewhere.same q watching]
      exact current q (List.mem_cons_of_mem _ inside) watching) (elsewhere.watches watches)
    refine ⟨after, fun q watching outside => ?_⟩
    rw [List.map_cons, List.mem_cons, not_or] at outside
    rw [kept q watching outside.2, elsewhere.same q watching]
  | elsewhere elsewhere _ ih =>
    obtain ⟨after, kept⟩ := ih once (fun q inside watching => by
      rw [elsewhere.same q watching]
      exact current q inside watching) (elsewhere.watches watches)
    refine ⟨after, fun q watching outside => ?_⟩
    rw [kept q watching outside, elsewhere.same q watching]

section selection

variable {scan : Scan}

/-- The stale rows in the order of the query. -/
def Database.arranged (db : Database) (scan : Scan) (olderThan : Instant) : List IntegrationRequest :=
  (scan.order (db.staleInFlight olderThan)).insertionSort fun first second => first.updatedAt ≤ second.updatedAt

theorem arranged_perm (db : Database) (scan : Scan) (olderThan : Instant) :
    (db.arranged scan olderThan).Perm (db.staleInFlight olderThan) :=
  (List.perm_insertionSort _ _).trans (scan.perm _)

theorem arranged_sorted (db : Database) (scan : Scan) (olderThan : Instant) :
    (db.arranged scan olderThan).Pairwise (·.updatedAt ≤ ·.updatedAt) := by
  have total : Std.Total fun first second : IntegrationRequest => first.updatedAt ≤ second.updatedAt :=
    ⟨fun first second => le_total first.updatedAt second.updatedAt⟩
  have trans : IsTrans IntegrationRequest fun first second => first.updatedAt ≤ second.updatedAt :=
    ⟨fun _ _ _ => le_trans⟩
  exact List.pairwise_insertionSort _ _

theorem arranged_nodup (db : Database) (scan : Scan) (olderThan : Instant) :
    ((db.arranged scan olderThan).map (·.id)).Nodup :=
  ((arranged_perm db scan olderThan).map _).nodup_iff.mpr (staleInFlight_nodup db olderThan)

theorem findStaleInFlight_nodup (db : Database) (scan : Scan) (olderThan : Instant) (limit : Nat) :
    ((db.findStaleInFlight scan olderThan limit).map (·.id)).Nodup :=
  (arranged_nodup db scan olderThan).sublist ((List.take_sublist _ _).map _)

theorem findStaleInFlight_stale (member : q ∈ s.db.findStaleInFlight scan cutoff' limit) :
    s.db.requests.get q.id = some q ∧ q.isStale cutoff' = true :=
  mem_staleInFlight.mp ((arranged_perm s.db scan cutoff').mem_iff.mp (List.mem_of_mem_take member))

/-- The watched requests that reconciliation left where they were. -/
def State.remaining (s : State) (watched : List IntegrationRequest) : List IntegrationRequest :=
  watched.filter fun q => ¬ (s.db.requests.get q.id).any (·.status = .manualReview)

theorem State.escalated_add_remaining (s : State) (watched : List IntegrationRequest) :
    s.escalated watched + (s.remaining watched).length = watched.length := by
  rw [escalated, remaining, ← List.countP_eq_length_filter, List.length_eq_countP_add_countP]

theorem Watches.mem_remaining (watches : Watches settings watched cutoff s)
    (stale : ∀ q ∈ watched, q.isStale cutoff = true) :
    q ∈ s.remaining watched ↔ q ∈ watched ∧ s.db.requests.get q.id = some q := by
  rw [State.remaining, List.mem_filter]
  refine and_congr_right fun member => ?_
  constructor
  · intro kept
    rcases watches.rows q member with stored | ⟨_, q', review, status⟩
    · exact stored
    · simp [review, status] at kept
  · intro stored
    have inFlight := stale q member
    simp only [stored, Option.any_some, decide_eq_true_eq]
    intro review
    rw [manualReview_not_stale review] at inFlight
    cases inFlight

/-- If few are left, the query finds all of them. -/
theorem Watches.finds (watches : Watches settings watched cutoff s) (stale : ∀ q ∈ watched, q.isStale cutoff = true)
    (order : cutoff ≤ cutoff') (few : (s.remaining watched).length ≤ limit)
    (member : q ∈ s.remaining watched) : q ∈ s.db.findStaleInFlight scan cutoff' limit := by
  obtain ⟨watching, stored⟩ := (watches.mem_remaining stale).mp member
  have inside : q ∈ s.db.arranged scan cutoff' :=
    (arranged_perm s.db scan cutoff').mem_iff.mpr (mem_staleInFlight.mpr ⟨stored, isStale_later (stale q watching) order⟩)
  refine Ranking.mem_take_of_countP_le (arranged_sorted s.db scan cutoff') inside (le_trans ?_ few)
  rw [List.countP_eq_length_filter]
  have nodup : ((s.db.arranged scan cutoff').filter fun other => other.updatedAt ≤ q.updatedAt).Nodup :=
    (List.Nodup.of_map _ (arranged_nodup s.db scan cutoff')).filter _
  refine (nodup.subperm fun other found => ?_).length_le
  -- what was written before a watched row was stale from the start
  obtain ⟨here, earlier⟩ := List.mem_filter.mp found
  obtain ⟨stored', inFlight⟩ := mem_staleInFlight.mp ((arranged_perm s.db scan cutoff').mem_iff.mp here)
  have fresh : other.isStale cutoff = true := by
    have bound := stale q watching
    simp only [isStale, Bool.and_eq_true, decide_eq_true_eq] at bound inFlight earlier ⊢
    exact ⟨inFlight.1, earlier.trans bound.2⟩
  have watching' := watches.mem_of_stale (mem_staleInFlight.mpr ⟨stored', fresh⟩)
  exact (watches.mem_remaining stale).mpr ⟨watching', stored'⟩

/-- The query finds the request that was written last only if few are left. -/
theorem Watches.found_last (watches : Watches settings watched cutoff s) (stale : ∀ q ∈ watched, q.isStale cutoff = true)
    (distinct : (watched.map (·.id)).Nodup) (order : cutoff ≤ cutoff')
    (last : ∀ other ∈ watched, other ≠ q → other.updatedAt < q.updatedAt)
    (found : q ∈ s.db.findStaleInFlight scan cutoff' limit) : (s.remaining watched).length ≤ limit := by
  have before := Ranking.countP_lt_of_mem_take (arranged_sorted s.db scan cutoff') found
  rw [List.countP_eq_length_filter] at before
  have nodup : (s.remaining watched).Nodup := (List.Nodup.of_map _ distinct).filter _
  have covers : s.remaining watched ⊆
      q :: (s.db.arranged scan cutoff').filter (fun other => other.updatedAt < q.updatedAt) := by
    intro other left
    obtain ⟨watching, stored⟩ := (watches.mem_remaining stale).mp left
    by_cases same : other = q
    · exact same ▸ List.mem_cons_self ..
    · refine List.mem_cons_of_mem _ (List.mem_filter.mpr ⟨?_, decide_eq_true (last other watching same)⟩)
      exact (arranged_perm s.db scan cutoff').mem_iff.mpr
        (mem_staleInFlight.mpr ⟨stored, isStale_later (stale other watching) order⟩)
  have length := (nodup.subperm covers).length_le
  rw [List.length_cons] at length
  omega

end selection

/-- What the sweeps have done so far: who is no longer as before was visited, and
a visit of the last in line means that few are left. -/
structure Swept (settings : Settings) (limit : Nat) (watched : List IntegrationRequest) (cutoff : Instant)
    (passed : List IntegrationRequest) (s : State) : Prop where
  watches : Watches settings watched cutoff s
  visited : ∀ q ∈ watched, q ∉ s.remaining watched → q ∈ passed
  few : ∀ q ∈ passed, (∀ other ∈ watched, other ≠ q → other.updatedAt < q.updatedAt) →
    (s.remaining watched).length ≤ limit

theorem Sweeps.swept {count : Nat} (sweeps : Sweeps settings limit watched cutoff s count passed s')
    (stale : ∀ q ∈ watched, q.isStale cutoff = true) (distinct : (watched.map (·.id)).Nodup)
    (start : Watches settings watched cutoff s) (whole : ∀ q ∈ watched, s.db.requests.get q.id = some q) :
    Swept settings limit watched cutoff passed s' := by
  induction sweeps with
  | start =>
    refine ⟨start, fun q member gone => ?_, fun q member => by cases member⟩
    exact absurd ((start.mem_remaining stale).mpr ⟨member, whole q member⟩) gone
  | @next count passed s' s'' now scan _ order visits ih =>
    obtain ⟨watches, visited, few⟩ := ih
    obtain ⟨after, kept⟩ := visits.watches distinct (findStaleInFlight_nodup ..)
      (fun q inside _ => (findStaleInFlight_stale inside).1) watches
    -- a request that left the queue is not found again
    have left : ∀ q ∈ watched, q ∉ s'.remaining watched → q ∉ s''.remaining watched := by
      intro q member gone still
      refine gone ((watches.mem_remaining stale).mpr ⟨member, ?_⟩)
      have stored := ((after.mem_remaining stale).mp still).2
      rcases watches.rows q member with here | ⟨_, q', review, status⟩
      · exact here
      · rw [← kept q member, stored]
        intro inside
        obtain ⟨found, inBatch, same⟩ := List.mem_map.mp inside
        obtain ⟨stored', inFlight⟩ := findStaleInFlight_stale inBatch
        rw [same, review] at stored'
        cases stored'
        rw [manualReview_not_stale status] at inFlight
        cases inFlight
    have fewer : (s''.remaining watched).length ≤ (s'.remaining watched).length := by
      have nodup : (s''.remaining watched).Nodup := (List.Nodup.of_map _ distinct).filter _
      refine (nodup.subperm fun q still => ?_).length_le
      by_contra gone
      exact left q (List.mem_of_mem_filter still) gone still
    refine ⟨after, fun q member gone => ?_, fun q inside last => ?_⟩
    · by_cases here : q ∈ s'.remaining watched
      · refine List.mem_append_right _ ?_
        have stored := ((watches.mem_remaining stale).mp here).2
        by_contra outside
        refine gone ((after.mem_remaining stale).mpr ⟨member, (kept q member fun inside => ?_).trans stored⟩)
        obtain ⟨found, inBatch, same⟩ := List.mem_map.mp inside
        have stored' := (findStaleInFlight_stale inBatch).1
        rw [same, stored] at stored'
        cases stored'
        exact outside inBatch
      · exact List.mem_append_left _ (visited q member here)
    · rcases List.mem_append.mp inside with earlier | found
      · exact fewer.trans (few q earlier last)
      · exact fewer.trans (watches.found_last stale distinct order last found)

theorem Sweeps.swept_start {count : Nat}
    (sweeps : Sweeps settings limit (s.db.staleInFlight cutoff) cutoff s count passed s') :
    Swept settings limit (s.db.staleInFlight cutoff) cutoff passed s' :=
  sweeps.swept (fun _ member => (mem_staleInFlight.mp member).2) (staleInFlight_nodup s.db cutoff)
    (.start settings s cutoff) fun _ member => (mem_staleInFlight.mp member).1

/-- One more sweep of the worker, by itself and at the time of the first. -/
theorem Sweeps.runOnce {count : Nat} {now : Instant} {inputs : UUID → Input × Input} (scan : Scan)
    (sweeps : Sweeps settings limit (s.db.staleInFlight (now - settings.staleAfterSeconds * 1000000))
      (now - settings.staleAfterSeconds * 1000000) s count passed s')
    (obliging : ∀ q ∈ s'.db.findStaleInFlight scan (now - settings.staleAfterSeconds * 1000000) limit,
      settings.looksUp q = true → settings.confirms q (inputs q.id).1 = true) :
    Sweeps settings limit (s.db.staleInFlight (now - settings.staleAfterSeconds * 1000000))
      (now - settings.staleAfterSeconds * 1000000) s (count + 1)
      (passed ++ s'.db.findStaleInFlight scan (now - settings.staleAfterSeconds * 1000000) limit)
      (ReconciliationWorker.runOnce settings limit scan now inputs s') := by
  refine sweeps.next scan le_rfl (visits_foldl s' (fun q inside => ?_) obliging)
  exact sweeps.swept_start.watches.mem_of_stale (mem_staleInFlight.mpr (findStaleInFlight_stale inside))

/-- After any number of sweeps in which nobody else touches the stale requests
and the provider confirms what it is asked or cannot be reached, all of them have
been passed to `reconcile` if at most a batch of them was left when the last sweep
began. If no two were written at the same time this is needed as well. Only
requests that cannot be looked up leave the queue. -/
theorem sweeps_reach_all_iff (settings : Settings) (limit : Nat) (cutoff : Instant) {count : Nat} {now : Instant}
    (scan : Scan) (sweeps : Sweeps settings limit (s.db.staleInFlight cutoff) cutoff s count passed s')
    (order : cutoff ≤ now - settings.staleAfterSeconds * 1000000) :
    ((s.db.staleInFlight cutoff).length ≤ limit + s'.escalated (s.db.staleInFlight cutoff) →
      ∀ q ∈ s.db.staleInFlight cutoff,
        q ∈ passed ++ s'.db.findStaleInFlight scan (now - settings.staleAfterSeconds * 1000000) limit) ∧
    (((s.db.staleInFlight cutoff).map (·.updatedAt)).Nodup →
      (∀ q ∈ s.db.staleInFlight cutoff,
        q ∈ passed ++ s'.db.findStaleInFlight scan (now - settings.staleAfterSeconds * 1000000) limit) →
      (s.db.staleInFlight cutoff).length ≤ limit + s'.escalated (s.db.staleInFlight cutoff)) ∧
    ((∀ q ∈ s.db.staleInFlight cutoff, settings.looksUp q = true) → s'.escalated (s.db.staleInFlight cutoff) = 0) := by
  have stale : ∀ q ∈ s.db.staleInFlight cutoff, q.isStale cutoff = true := fun q member => (mem_staleInFlight.mp member).2
  have distinct := staleInFlight_nodup s.db cutoff
  obtain ⟨watches, visited, few⟩ := sweeps.swept_start
  have total := s'.escalated_add_remaining (s.db.staleInFlight cutoff)
  generalize s.db.staleInFlight cutoff = watched at *
  refine ⟨fun enough q member => ?_, fun apart all => ?_, fun asked => ?_⟩
  · rw [List.mem_append]
    by_cases left : q ∈ s'.remaining watched
    · exact .inr (watches.finds stale order (by omega) left)
    · exact .inl (visited q member left)
  · rcases watched.eq_nil_or_concat with none | some
    · simp [none]
    · have inhabited : ∃ q, q ∈ watched := by
        obtain ⟨_, q, whole⟩ := some
        exact ⟨q, by simp [whole]⟩
      obtain ⟨last, member, most⟩ :=
        Set.exists_max_image {q | q ∈ watched} (·.updatedAt) (List.finite_toSet watched) inhabited
      have behind : ∀ other ∈ watched, other ≠ last → other.updatedAt < last.updatedAt := by
        intro other inside differs
        refine lt_of_le_of_ne (most other inside) fun same => differs ?_
        exact List.inj_on_of_nodup_map apart inside member same
      have left : (s'.remaining watched).length ≤ limit := by
        rcases List.mem_append.mp (all last member) with earlier | found
        · exact few last earlier behind
        · exact watches.found_last stale distinct order behind found
      omega
  · refine List.countP_eq_zero.mpr fun q member => ?_
    have inFlight := stale q member
    rcases watches.rows q member with stored | ⟨unasked, _⟩
    · rw [stored, Option.any_some, decide_eq_true_eq]
      intro review
      rw [manualReview_not_stale review] at inFlight
      cases inFlight
    · rw [asked q member] at unasked
      cases unasked

namespace Sample

/-- The operations of two clients' requests are accepted one after the other. -/
def bothAccepted : List Action :=
  accepted ++ .spawn create :: work 1 4 300 2 ++ answer 1 5 (answered .pending "op-2") :: work 1 6 0 3

def inOrder : Scan := ⟨id, fun rows => .refl rows⟩

/-- The provider says of every operation that it is pending. -/
def stillPending (_ : UUID) : Input × Input :=
  (Sample.input 100000000 0 (answered .pending "op-1"), Sample.input 100000000 0 .crashed)

abbrev sweepTime : Instant := 100000000

/-- What a sweep selects at this time. -/
abbrev found (limit : Nat) (s : State) : List IntegrationRequest :=
  s.db.findStaleInFlight inOrder (sweepTime - Sample.settings.staleAfterSeconds * 1000000) limit

abbrev swept (limit : Nat) (s : State) : State :=
  ReconciliationWorker.runOnce Sample.settings limit inOrder sweepTime stillPending s

abbrev stale (s : State) : List IntegrationRequest :=
  s.db.staleInFlight (sweepTime - Sample.settings.staleAfterSeconds * 1000000)

end Sample

/-- Two requests are stale, and the provider confirms both whenever it is asked.
Two sweeps of one request each pass the same one to `reconcile` twice. -/
theorem stale_request_starved :
    ∃ c q passed s', Reachable Sample.settings c ∧ (Sample.stale c.state).length = 2 ∧
      Sweeps Sample.settings 1 (Sample.stale c.state) (Sample.sweepTime - Sample.settings.staleAfterSeconds * 1000000)
        c.state 2 passed s' ∧
      q ∈ Sample.stale c.state ∧ Sample.settings.looksUp q = true ∧ q ∉ passed := by
  obtain ⟨c, reach, test⟩ := reachable_replay Sample.settings Sample.bothAccepted
    (fun (c : Config) => (Sample.stale c.state).length = 2 &&
      (Sample.stale c.state).any (fun q => q.id = 300 && Sample.settings.looksUp q) &&
      (Sample.found 1 c.state ++ Sample.found 1 (Sample.swept 1 c.state)).all fun q =>
        q.id ≠ 300 && Sample.settings.confirms q (Sample.stillPending q.id).1) (by decide +kernel)
  simp only [Bool.and_eq_true, decide_eq_true_eq, List.all_eq_true, List.any_eq_true, List.mem_append] at test
  obtain ⟨⟨two, q, member, other, asked⟩, batches⟩ := test
  have first : Sweeps Sample.settings 1 (Sample.stale c.state) _ c.state 1 _ (Sample.swept 1 c.state) :=
    Sweeps.start.runOnce Sample.inOrder fun q inside _ => (batches q (.inl inside)).2
  have both : Sweeps Sample.settings 1 (Sample.stale c.state) _ c.state 2 _ (Sample.swept 1 (Sample.swept 1 c.state)) :=
    first.runOnce Sample.inOrder fun q inside _ => (batches q (.inr inside)).2
  refine ⟨c, q, _, _, reach, two, both, member, asked, fun passed => ?_⟩
  rcases List.mem_append.mp passed with once | again
  · exact (batches q (.inl (by simpa using once))).1 other
  · exact (batches q (.inr again)).1 other

/-- A batch of two is enough. -/
theorem sweeps_reach_all_two :
    ∃ c, Reachable Sample.settings c ∧ (Sample.stale c.state).length = 2 ∧
      ∀ q ∈ Sample.stale c.state, q ∈ Sample.found 2 c.state ++ Sample.found 2 (Sample.swept 2 c.state) := by
  obtain ⟨c, reach, test⟩ := reachable_replay Sample.settings Sample.bothAccepted
    (fun (c : Config) => (Sample.stale c.state).length = 2 &&
      (Sample.found 2 c.state).all fun q => Sample.settings.confirms q (Sample.stillPending q.id).1) (by decide +kernel)
  simp only [Bool.and_eq_true, decide_eq_true_eq, List.all_eq_true] at test
  obtain ⟨two, batch⟩ := test
  have sweeps : Sweeps Sample.settings 2 (Sample.stale c.state) _ c.state 1 _ (Sample.swept 2 c.state) :=
    Sweeps.start.runOnce Sample.inOrder fun q inside _ => batch q inside
  refine ⟨c, reach, two, fun q member => ?_⟩
  have all := (sweeps_reach_all_iff Sample.settings 2 _ Sample.inOrder sweeps le_rfl).1
    (by rw [two]; exact Nat.le_add_right ..) q member
  simpa using all

end IntegrationOrchestrator
