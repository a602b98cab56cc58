import IntegrationOrchestrator.Domain.Request

namespace IntegrationOrchestrator

open Mutator

/-- What a provider reports about an operation, by webhook or status poll. -/
structure ProviderReport where
  status : NormalizedStatus
  failure : Option FailureDetail

def NormalizedStatus.isFinal (status : NormalizedStatus) : Bool := status ∈ [.succeeded, .failed, .cancelled]

/-- How far a report says that the operation has come. -/
def NormalizedStatus.progress : NormalizedStatus → Nat
  | .unknown => 0
  | .accepted => 1
  | .pending => 1
  | .succeeded => 2
  | .failed => 2
  | .cancelled => 2

/-- How far the operation of a request has come. -/
def RequestStatus.progress : RequestStatus → Nat
  | .dispatching => 0
  | .pending => 1
  | _ => 2

/-- A status on the way to the outcome. -/
def RequestStatus.Towards (outcome status : RequestStatus) : Prop :=
  status = .dispatching ∨ status = .pending ∨ status = outcome

/-- The report is no outcome, or this one. -/
def NormalizedStatus.Agrees (outcome : RequestStatus) (status : NormalizedStatus) : Prop :=
  status.isFinal = true → projectNormalizedStatus status = some outcome

section progress

variable {outcome current target : RequestStatus} {status : NormalizedStatus}

theorem progress_le_of_stays (final : outcome ∈ [.succeeded, .failed, .cancelled]) (towards : outcome.Towards current)
    (agrees : status.Agrees outcome)
    (stays : ∀ target, projectNormalizedStatus status = some target → isForwardProgress current target = false) :
    status.progress ≤ current.progress := by
  simp only [List.mem_cons, List.not_mem_nil, or_false] at final
  rcases towards with rfl | rfl | rfl
  · cases status <;>
      simp_all [projectNormalizedStatus, isForwardProgress, canTransition, transitions, RequestStatus.isTerminal,
        NormalizedStatus.progress]
  · cases status <;>
      simp_all [projectNormalizedStatus, isForwardProgress, canTransition, transitions, RequestStatus.isTerminal,
        NormalizedStatus.progress, RequestStatus.progress]
  · have last : current.progress = 2 := by rcases final with rfl | rfl | rfl <;> rfl
    rw [last]
    cases status <;> simp [NormalizedStatus.progress]

theorem progress_of_moves (final : outcome ∈ [.succeeded, .failed, .cancelled]) (towards : outcome.Towards current)
    (agrees : status.Agrees outcome) (projected : projectNormalizedStatus status = some target)
    (forward : isForwardProgress current target = true) :
    outcome.Towards target ∧ target.progress = max current.progress status.progress := by
  have reached : outcome.Towards target ∧ target.progress = status.progress := by
    cases status with
    | accepted | pending =>
      cases projected
      exact ⟨Or.inr (Or.inl rfl), rfl⟩
    | succeeded | failed | cancelled =>
      have same := projected.symm.trans (agrees rfl)
      cases projected
      exact ⟨Or.inr (Or.inr (Option.some.inj same)), rfl⟩
    | unknown => cases projected
  refine ⟨reached.1, ?_⟩
  rw [← reached.2, eq_comm, max_eq_right]
  simp only [List.mem_cons, List.not_mem_nil, or_false] at final
  rcases towards with rfl | rfl | rfl
  · exact Nat.zero_le _
  · rcases reached.1 with rfl | rfl | rfl
    · simp [isForwardProgress, canTransition, transitions, RequestStatus.isTerminal] at forward
    · exact le_rfl
    · rcases final with rfl | rfl | rfl <;> decide
  · rcases final with rfl | rfl | rfl <;> rcases reached.1 with rfl | rfl | rfl <;>
      simp [isForwardProgress, canTransition, transitions, RequestStatus.isTerminal] at forward

theorem isForwardProgress_allowed (forward : isForwardProgress current target = true) :
    canTransition current target = true := by
  unfold isForwardProgress at forward
  split at forward
  · cases forward
  · split at forward
    · cases forward
    · exact forward

end progress

/-- How far the furthest of the reports goes. -/
def furthest (reports : List (ProviderReport × Instant)) : Nat :=
  (reports.map fun entry => entry.1.status.progress).toFinset.sup id

theorem furthest_cons (report : ProviderReport) (now : Instant) (rest : List (ProviderReport × Instant)) :
    furthest ((report, now) :: rest) = max report.status.progress (furthest rest) := by
  simp [furthest, List.toFinset_cons, Finset.sup_insert]

theorem furthest_congr {first second : List (ProviderReport × Instant)}
    (same : ∀ report, report ∈ first.map Prod.fst ↔ report ∈ second.map Prod.fst) :
    furthest first = furthest second := by
  have split : ∀ reports : List (ProviderReport × Instant), (reports.map fun entry => entry.1.status.progress) =
      (reports.map Prod.fst).map fun report => report.status.progress := by
    intro reports
    rw [List.map_map]
    rfl
  have levels : (first.map fun entry => entry.1.status.progress).toFinset =
      (second.map fun entry => entry.1.status.progress).toFinset := by
    ext level
    rw [split, split, List.mem_toFinset, List.mem_toFinset, List.mem_map, List.mem_map]
    simp only [same]
  rw [furthest, furthest, levels]

namespace IntegrationRequest

variable {q q' : IntegrationRequest} {reference : String}

/-- Apply the reports of a provider that names the reference, one after the
other and each at its own time. -/
def applyReports (reference : String) (q : IntegrationRequest) :
    List (ProviderReport × Instant) → Except Exn IntegrationRequest
  | [] => .ok q
  | (report, now) :: rest => do
    let (_, q) ← call (applyNormalizedStatus report.status now (some reference) report.failure) q
    q.applyReports reference rest

theorem linked_of_unnamed {reported : Option String} (unnamed : truthy reported = false) : q.linked reported = q := by
  simp [linked, unnamed]

theorem linked_of_known (known : q.providerReference = some reference) (nonempty : reference ≠ "")
    (reported : Option String) : q.linked reported = q := by
  simp [linked, truthy, known, nonempty]

/-- The projection of a report names one of the four statuses that a provider
can bring about. -/
theorem applyTarget_unchanged {status : NormalizedStatus} {target : RequestStatus} {now : Instant}
    {reported : Option String} {failure : Option FailureDetail}
    (projected : projectNormalizedStatus status = some target)
    (run : call (applyTarget target now reported failure) (q.linked reported) = .ok (none, q')) : q' = q := by
  unfold applyTarget at run
  split at run
  case h_4 =>
    simp only [call_bind, call_get, Except.bind, call_ite] at run
    by_cases named : truthy reported = true
    · rw [if_pos named, if_neg (not_not.mpr named)] at run
      obtain ⟨_, made, _⟩ := call_some_map run
      cases made
    · have unnamed : truthy reported = false := by simpa using named
      rw [linked_of_unnamed unnamed, if_neg named] at run
      split at run
      · simp only [call_pure, Except.ok.injEq, Prod.mk.injEq, true_and] at run
        exact run.symm
      · obtain ⟨_, made, _⟩ := call_some_map run
        cases made
  case h_5 notSucceeded notFailed notCancelled notPending =>
    cases status with
    | accepted | pending => exact absurd (Option.some.inj projected).symm notPending
    | succeeded => exact absurd (Option.some.inj projected).symm notSucceeded
    | failed => exact absurd (Option.some.inj projected).symm notFailed
    | cancelled => exact absurd (Option.some.inj projected).symm notCancelled
    | unknown => cases projected
  all_goals
    obtain ⟨_, made, _⟩ := call_some_map run
    cases made

/-- A report that makes no status change writes nothing. -/
theorem applyNormalizedStatus_unchanged {status : NormalizedStatus} {now : Instant} {reported : Option String}
    {failure : Option FailureDetail}
    (run : call (applyNormalizedStatus status now reported failure) q = .ok (none, q')) : q' = q := by
  simp only [applyNormalizedStatus, call_bind, call_get, Except.bind] at run
  split at run
  · simp only [call_pure, Except.ok.injEq, Prod.mk.injEq, true_and] at run
    exact run.symm
  · rename_i target projected
    rw [call_ite] at run
    split at run
    · simp only [call_pure, Except.ok.injEq, Prod.mk.injEq, true_and] at run
      exact run.symm
    · exact applyTarget_unchanged projected run

/-- A report that carries no forward progress. -/
theorem call_report_stays {status : NormalizedStatus} (now : Instant) (reported : Option String)
    (failure : Option FailureDetail)
    (stays : ∀ target, projectNormalizedStatus status = some target → isForwardProgress q.status target = false) :
    call (applyNormalizedStatus status now reported failure) q = .ok (none, q) := by
  simp only [applyNormalizedStatus, call_bind, call_get, Except.bind]
  split
  · rfl
  · rename_i target projected
    rw [call_ite, if_pos (by simp [stays target projected]), call_pure]

/-- A report that carries forward progress, about a request whose reference it
names. -/
theorem call_report_moves {status : NormalizedStatus} {target : RequestStatus} (now : Instant)
    (failure : Option FailureDetail) (known : q.providerReference = some reference) (nonempty : reference ≠ "")
    (projected : projectNormalizedStatus status = some target)
    (forward : isForwardProgress q.status target = true) :
    ∃ made q', call (applyNormalizedStatus status now (some reference) failure) q = .ok (some made, q') ∧
      q'.status = target ∧ q'.providerReference = some reference := by
  have allowed := isForwardProgress_allowed forward
  have named : truthy (some reference) = true := by simp [truthy, nonempty]
  simp only [applyNormalizedStatus, call_bind, call_get, Except.bind, projected]
  rw [call_ite, if_neg (by simp [forward])]
  simp only [call_bind, call_modify, Except.bind, linked_of_known known nonempty]
  cases status with
  | accepted | pending =>
    cases projected
    simp only [applyTarget, call_bind, call_get, Except.bind, named, if_true, not_true_eq_false, if_false]
    rw [call_map, Option.getD_some, markAccepted, if_neg nonempty, call_transitionThen, if_pos allowed]
    exact ⟨_, _, rfl, rfl, rfl⟩
  | succeeded =>
    cases projected
    rw [applyTarget, call_map, markSucceeded, call_transitionThen, if_pos allowed]
    exact ⟨_, _, rfl, rfl, by simp [named, clearedError]⟩
  | failed =>
    cases projected
    rw [applyTarget, call_map, markFailed, call_transitionThen, if_pos allowed]
    exact ⟨_, _, rfl, rfl, known⟩
  | cancelled =>
    cases projected
    rw [applyTarget, call_map, markCancelled, call_transitionThen, if_pos allowed]
    exact ⟨_, _, rfl, rfl, known⟩
  | unknown => cases projected

/-- One report takes the request as far as it says, and never back. -/
theorem call_report {outcome : RequestStatus} (final : outcome ∈ [.succeeded, .failed, .cancelled])
    (known : q.providerReference = some reference) (nonempty : reference ≠ "") (towards : outcome.Towards q.status)
    (report : ProviderReport) (agrees : report.status.Agrees outcome) (now : Instant) :
    ∃ made q', call (applyNormalizedStatus report.status now (some reference) report.failure) q = .ok (made, q') ∧
      q'.providerReference = some reference ∧ outcome.Towards q'.status ∧
      q'.status.progress = max q.status.progress report.status.progress := by
  by_cases stays : ∀ target, projectNormalizedStatus report.status = some target →
      isForwardProgress q.status target = false
  · have behind := progress_le_of_stays final towards agrees stays
    exact ⟨none, q, call_report_stays now _ _ stays, known, towards, (max_eq_left behind).symm⟩
  · push Not at stays
    obtain ⟨target, projected, forward⟩ := stays
    have forward : isForwardProgress q.status target = true := by simpa using forward
    obtain ⟨made, q', run, status, kept⟩ := call_report_moves now report.failure known nonempty projected forward
    obtain ⟨towards', progress⟩ := progress_of_moves final towards agrees projected forward
    rw [← status] at towards' progress
    exact ⟨some made, q', run, kept, towards', progress⟩

/-- Where a sequence of reports leads depends on the furthest of them only. -/
theorem applyReports_progress {outcome : RequestStatus} (final : outcome ∈ [.succeeded, .failed, .cancelled])
    (nonempty : reference ≠ "") (reports : List (ProviderReport × Instant)) (known : q.providerReference = some reference)
    (towards : outcome.Towards q.status) (agree : ∀ report ∈ reports.map Prod.fst, report.status.Agrees outcome) :
    ∃ q', q.applyReports reference reports = .ok q' ∧ q'.providerReference = some reference ∧
      outcome.Towards q'.status ∧ q'.status.progress = max q.status.progress (furthest reports) := by
  induction reports generalizing q with
  | nil => exact ⟨q, rfl, known, towards, (max_eq_left (Nat.zero_le _)).symm⟩
  | cons entry rest ih =>
    obtain ⟨report, now⟩ := entry
    obtain ⟨_, middle, run, known', towards', first⟩ :=
      call_report final known nonempty towards report (agree report (by simp)) now
    have agree' : ∀ report ∈ rest.map Prod.fst, report.status.Agrees outcome :=
      fun other member => agree other (List.mem_cons_of_mem _ member)
    obtain ⟨q', after, known'', towards'', remaining⟩ := ih known' towards' agree'
    refine ⟨q', ?_, known'', towards'', ?_⟩
    · rw [applyReports, run]
      exact after
    · rw [remaining, first, furthest_cons, max_assoc]

theorem status_of_progress {outcome status status' : RequestStatus}
    (final : outcome ∈ [.succeeded, .failed, .cancelled]) (towards : outcome.Towards status)
    (towards' : outcome.Towards status') (same : status.progress = status'.progress) : status = status' := by
  have last : outcome.progress = 2 := by
    simp only [List.mem_cons, List.not_mem_nil, or_false] at final
    rcases final with rfl | rfl | rfl <;> rfl
  have start : RequestStatus.progress .dispatching = 0 := rfl
  have second : RequestStatus.progress .pending = 1 := rfl
  rcases towards with rfl | rfl | rfl <;> rcases towards' with rfl | rfl | rfl <;> first | rfl | omega

/-- Reports that contain at most one kind of outcome have an outcome they all
agree with. -/
theorem common_outcome {reports : List ProviderReport}
    (single : ∀ a ∈ reports, ∀ b ∈ reports, a.status.isFinal = true → b.status.isFinal = true → a.status = b.status) :
    ∃ outcome ∈ [RequestStatus.succeeded, .failed, .cancelled],
      ∀ report ∈ reports, report.status.Agrees outcome := by
  by_cases settled : ∃ report ∈ reports, report.status.isFinal = true
  · obtain ⟨report, member, isFinal⟩ := settled
    obtain ⟨outcome, final, projected⟩ : ∃ outcome ∈ [RequestStatus.succeeded, .failed, .cancelled],
        projectNormalizedStatus report.status = some outcome := by
      cases status : report.status <;> rw [status] at isFinal <;>
        first | exact ⟨_, by decide, rfl⟩ | cases isFinal
    refine ⟨outcome, final, fun other inside otherFinal => ?_⟩
    rw [single other inside report member otherFinal isFinal, projected]
  · push Not at settled
    exact ⟨.succeeded, by decide, fun report member isFinal => absurd isFinal (settled report member)⟩

/-- Reports about the operation of a request in flight may be applied in any
order and any number of times: no application raises, the status and the
reference they lead to are the same, and a report that makes no status change
writes nothing. -/
theorem reports_order_insensitive (inFlight : q.status = .dispatching ∨ q.status = .pending)
    (known : q.providerReference = some reference) (nonempty : reference ≠ "")
    {first second : List (ProviderReport × Instant)}
    (same : ∀ report, report ∈ first.map Prod.fst ↔ report ∈ second.map Prod.fst)
    (single : ∀ a ∈ first.map Prod.fst, ∀ b ∈ first.map Prod.fst,
      a.status.isFinal = true → b.status.isFinal = true → a.status = b.status) :
    (∃ q₁ q₂, q.applyReports reference first = .ok q₁ ∧ q.applyReports reference second = .ok q₂ ∧
      q₁.status = q₂.status ∧ q₁.providerReference = q₂.providerReference) ∧
    ∀ (middle after : IntegrationRequest) (report : ProviderReport) (now : Instant),
      call (applyNormalizedStatus report.status now (some reference) report.failure) middle = .ok (none, after) →
      after = middle := by
  refine ⟨?_, fun middle after report now run => applyNormalizedStatus_unchanged run⟩
  obtain ⟨outcome, final, agree⟩ := common_outcome single
  have towards : outcome.Towards q.status := inFlight.elim Or.inl fun pending => Or.inr (Or.inl pending)
  obtain ⟨q₁, run₁, known₁, towards₁, progress₁⟩ := applyReports_progress final nonempty first known towards agree
  obtain ⟨q₂, run₂, known₂, towards₂, progress₂⟩ := applyReports_progress final nonempty second known towards
    fun report member => agree report ((same report).mpr member)
  rw [furthest_congr same, ← progress₂] at progress₁
  exact ⟨q₁, q₂, run₁, run₂, status_of_progress final towards₁ towards₂ progress₁, known₁.trans known₂.symm⟩

end IntegrationRequest

namespace Sample

/-- A request whose operation the provider knows. -/
def awaiting : IntegrationRequest :=
  { IntegrationRequest.create 1 provider .resourceProvision reference [] correlationId 0 with
    status := .dispatching, providerReference := some "op-1" }

def reportAt (status : NormalizedStatus) (now : Instant) : ProviderReport × Instant := (⟨status, none⟩, now)

def sentInOrder : List (ProviderReport × Instant) := [reportAt .accepted 1, reportAt .succeeded 2]

/-- The outcome overtakes the acceptance, and is delivered again. -/
def sentOutOfOrder : List (ProviderReport × Instant) := [reportAt .succeeded 1, reportAt .accepted 2, reportAt .succeeded 3]

end Sample

theorem reports_order_insensitive_overtaken :
    ∃ q₁ q₂, Sample.awaiting.applyReports "op-1" Sample.sentInOrder = .ok q₁ ∧
      Sample.awaiting.applyReports "op-1" Sample.sentOutOfOrder = .ok q₂ ∧ q₁.status = q₂.status := by
  have known : Sample.awaiting.providerReference = some "op-1" := rfl
  have same : ∀ report, report ∈ Sample.sentInOrder.map Prod.fst ↔ report ∈ Sample.sentOutOfOrder.map Prod.fst := by
    intro report
    simp only [Sample.sentInOrder, Sample.sentOutOfOrder, Sample.reportAt, List.map_cons, List.map_nil, List.mem_cons,
      List.not_mem_nil, or_false]
    tauto
  have single : ∀ a ∈ Sample.sentInOrder.map Prod.fst, ∀ b ∈ Sample.sentInOrder.map Prod.fst,
      a.status.isFinal = true → b.status.isFinal = true → a.status = b.status := by
    simp [Sample.sentInOrder, Sample.reportAt, NormalizedStatus.isFinal]
  obtain ⟨⟨q₁, q₂, first, second, status, _⟩, _⟩ :=
    IntegrationRequest.reports_order_insensitive (Or.inl rfl) known (by decide) same single
  exact ⟨q₁, q₂, first, second, status⟩

end IntegrationOrchestrator
