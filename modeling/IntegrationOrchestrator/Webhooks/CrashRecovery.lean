import IntegrationOrchestrator.Webhooks.Settlement

namespace IntegrationOrchestrator

/-- `claim_deferred` selects the receipt. -/
def WebhookReceipt.selected (receipt : WebhookReceipt) (now : Instant) : Bool :=
  receipt.processingStatus = .deferred && receipt.nextAttemptAt.any (fun due => due ≤ now)

/-- The receipt is settled, or the worker will take it up. -/
def WebhookReceipt.Kept (receipt : WebhookReceipt) : Prop :=
  receipt.isSettled = true ∨ ∃ since, ∀ now, since ≤ now → receipt.selected now = true

/-- A receipt that was processed at all is kept. -/
def Receipts.Tended (receipts : Receipts) : Prop :=
  ∀ id row, receipts.get id = some row → row.processingStatus ≠ .received → row.Kept

variable {Digest : Type}

theorem kept_deferred {receipt : WebhookReceipt} (deferred : receipt.processingStatus = .deferred)
    (due : receipt.nextAttemptAt.isSome = true) : receipt.Kept := by
  obtain ⟨since, next⟩ := Option.isSome_iff_exists.mp due
  exact .inr ⟨since, fun now later => by simp [WebhookReceipt.selected, deferred, next, later]⟩

theorem kept_status {receipt : WebhookReceipt} (status : receipt.processingStatus ∈
    [WebhookProcessingStatus.processed, .rejected, .abandoned]) : receipt.Kept := by
  left
  simp only [List.mem_cons, List.not_mem_nil, or_false] at status
  rcases status with same | same | same <;> simp [WebhookReceipt.isSettled, same]

theorem Receipts.Tended.put {receipts : Receipts} (tended : Receipts.Tended receipts) {receipt : WebhookReceipt}
    (kept : receipt.processingStatus ≠ .received → receipt.Kept) : Receipts.Tended (receipts.put receipt) := by
  intro id row found processed
  rw [Table.get_put] at found
  split at found
  · cases found
    exact kept processed
  · exact tended id row found processed

/-- The columns that decide whether a receipt is kept are written whole. -/
theorem updateReceipt_tended {s : WebhookState Digest} {receipt : WebhookReceipt}
    (tended : Receipts.Tended s.receipts) (kept : receipt.Kept) :
    Receipts.Tended (s.updateReceipt receipt).receipts := by
  simp only [WebhookState.updateReceipt]
  split
  · exact tended
  · exact tended.put fun _ => kept

theorem ReceiptStep.tended {s s' : WebhookState Digest} {frame : WebhookFrame} {pushed : List WebhookFrame}
    (step : ReceiptStep s frame s' pushed) (tended : Receipts.Tended s.receipts) :
    Receipts.Tended s'.receipts := by
  cases step with
  | other holdsNone sameRows sameJournal quiet =>
    rw [sameRows]
    exact tended
  | reject holdsNone rejected fresh => exact tended.put fun _ => kept_status (by simp [rejected])
  | insert provider event received fresh => exact tended.put fun other => absurd received other
  | resume => exact tended
  | claim => exact tended
  | decide => exact tended
  | defer same deferred due => exact updateReceipt_tended tended (kept_deferred deferred due)
  | apply orchestrated applied same processed journal quiet =>
    exact updateReceipt_tended tended (kept_status (by simp [processed]))
  | abandon same abandoned => exact updateReceipt_tended tended (kept_status (by simp [abandoned]))

variable [DecidableEq Digest] {settings : WebhookSettings Digest} {c : WebhookConfiguration Digest}

/-- Every interleaving of deliveries, workers and the orchestrator. -/
abbrev WebhookReachable (settings : WebhookSettings Digest) : WebhookConfiguration Digest → Prop :=
  (webhookSystem settings).Reach (fun _ _ => True) WebhookConfiguration.initial

theorem reachable_tended (reach : WebhookReachable settings c) : Receipts.Tended c.state.receipts := by
  refine reach.state_invariant (fun s => Receipts.Tended s.receipts)
    (by simp [Receipts.Tended, WebhookConfiguration.initial]) ?_
  intro c task input frame rest state pushed _ tended _ _ ran
  exact (WebhookFrame.receiptStep ran).tended tended

/-- One unit of a task that goes on with one other. -/
def Continues (settings : WebhookSettings Digest) (now next : WebhookFrame × WebhookState Digest) : Prop :=
  ∃ input, WebhookFrame.exec settings now.1 input now.2 = .ok (next.2, [next.1])

/-- A delivery that arrives now passes the guard and, left to itself, goes on
to process a receipt of its event. -/
def Processed (settings : WebhookSettings Digest) (s : WebhookState Digest) (webhook : InboundWebhook)
    (correlationId : CorrelationId) (input : WebhookInput) : Prop :=
  ∃ metadata event receipt s₁ s₂,
    WebhookFrame.exec settings (.ingest webhook correlationId) input s =
      .ok (s₁, [.persistReceipt webhook event metadata correlationId]) ∧
    Relation.ReflTransGen (Continues settings) (.persistReceipt webhook event metadata correlationId, s₁)
      (.processReceipt receipt event, s₂)

/-- Redis answers, and holds a live key for the signature. -/
def Claimed (settings : WebhookSettings Digest) (s : WebhookState Digest) (webhook : InboundWebhook)
    (input : WebhookInput) : Prop :=
  input.redisReachable = true ∧ ∃ signature expiry,
    extractSignatureHeader webhook.headers = some signature ∧
    ((webhook.provider, settings.builtins.digest signature), expiry) ∈ s.guard ∧
    input.core.readings.now < expiry

section redelivery

variable {s : WebhookState Digest} {webhook : InboundWebhook} {correlationId : CorrelationId}
  {input : WebhookInput} {adapter : Adapter} {config : WebhookConfig} {verification : WebhookVerification}
  {event : ReportedEvent}

/-- A signature that is claimed already is taken for a replay. -/
theorem ingest_claimed (registered : settings.adapter webhook.provider = some (adapter, config))
    (validated : validateWebhook settings.builtins config webhook adapter = some verification)
    (verified : verification.verified = true) (claimed : Claimed settings s webhook input) :
    WebhookFrame.exec settings (.ingest webhook correlationId) input s =
      .ok (s, [.recordRejection webhook verification.signatureMetadata
        "signature replay detected within the dedupe window" correlationId]) := by
  obtain ⟨reachable, signature, expiry, found, held, live⟩ := claimed
  have refused : s.guard.claim settings.builtins settings.guard
      ⟨webhook.provider, signature, input.core.readings.now, input.redisReachable⟩ = (false, s.guard) :=
    claim_refused reachable held live
  simp [WebhookFrame.exec, WebhookFrame.execIngest, registered, validated, verified, found, refused]

theorem ingest_unclaimed (registered : settings.adapter webhook.provider = some (adapter, config))
    (validated : validateWebhook settings.builtins config webhook adapter = some verification)
    (verified : verification.verified = true) (read : settings.normalize webhook = .ok event)
    (unclaimed : ¬ Claimed settings s webhook input) :
    ∃ s₁, s₁.receipts = s.receipts ∧ WebhookFrame.exec settings (.ingest webhook correlationId) input s =
      .ok (s₁, [.persistReceipt webhook event verification.signatureMetadata correlationId]) := by
  obtain ⟨signature, found⟩ := extractSignatureHeader_verified validated verified
  have passes : (s.guard.claim settings.builtins settings.guard
      ⟨webhook.provider, signature, input.core.readings.now, input.redisReachable⟩).1 = true := by
    by_contra refused
    simp only [GuardStore.claim] at refused
    split at refused
    · rename_i reachable
      split at refused
      · rename_i taken
        obtain ⟨entry, member, same⟩ := List.any_eq_true.mp taken
        simp only [decide_eq_true_eq] at same
        refine unclaimed ⟨reachable, signature, entry.2, found, ?_, same.2⟩
        have key : entry.1 = (webhook.provider, settings.builtins.digest signature) := same.1
        rw [← key]
        exact member
      · exact refused rfl
    · exact refused rfl
  refine ⟨{ s with guard := (s.guard.claim settings.builtins settings.guard
    ⟨webhook.provider, signature, input.core.readings.now, input.redisReachable⟩).2 }, rfl, ?_⟩
  simp [WebhookFrame.exec, WebhookFrame.execIngest, registered, validated, verified, found, passes,
    WebhookFrame.normalized, read]

theorem exists_free_id (receipts : Receipts) : ∃ id, receipts.get id = none := by
  obtain ⟨id, free⟩ := Infinite.exists_notMem_finset (receipts.rows.map WebhookReceipt.id).toFinset
  refine ⟨id, Option.eq_none_iff_forall_ne_some.mpr fun row found => free ?_⟩
  have same : row.id = id := Table.get_key found
  rw [List.mem_toFinset, List.mem_map]
  exact ⟨row, Table.mem_rows_iff.mpr (same ▸ found), same⟩

/-- Behind the guard, an event whose receipt is not settled is processed. -/
theorem persistReceipt_continues (input : WebhookInput) {metadata : SignatureMetadata} (named : event.providerEventId ≠ "")
    (unsettled : ∀ row, s.findByEventId webhook.provider event.providerEventId = some row → row.isSettled = false) :
    ∃ receipt s₂, Relation.ReflTransGen (Continues settings)
      (.persistReceipt webhook event metadata correlationId, s) (.processReceipt receipt event, s₂) := by
  cases found : s.findByEventId webhook.provider event.providerEventId with
  | some row =>
    refine ⟨row, s, .single ⟨input, ?_⟩⟩
    simp [WebhookFrame.exec, WebhookFrame.execPersistReceipt, found, unsettled row found]
  | none =>
    obtain ⟨id, free⟩ := exists_free_id s.receipts
    let fresh : WebhookInput := { input with core := { input.core with newId := fun _ => id } }
    have toInsert : Continues settings (.persistReceipt webhook event metadata correlationId, s)
        (.insertReceipt webhook event metadata correlationId, s) :=
      ⟨input, by simp [WebhookFrame.exec, WebhookFrame.execPersistReceipt, found]⟩
    let receipt := WebhookFrame.newReceipt id webhook event metadata correlationId
    have unique : s.conflicts receipt = false := by
      simp [WebhookState.conflicts, receipt, WebhookFrame.newReceipt, free, found]
    refine ⟨receipt, s.addReceipt receipt .received, .tail (.single toInsert) ⟨fresh, ?_⟩⟩
    simp only [WebhookFrame.exec, WebhookFrame.execInsertReceipt, if_neg named, fresh]
    exact if_neg (by simpa using unique)

end redelivery

/-- No webhook is lost to a crash, exactly when the crash comes after the
processing of its receipt was committed, or when Redis holds no live claim of
the signature as the provider delivers it again. -/
theorem crash_recoverable_iff (reach : WebhookReachable settings c) {webhook : InboundWebhook}
    {correlationId : CorrelationId} {input : WebhookInput} {adapter : Adapter} {config : WebhookConfig}
    {verification : WebhookVerification} {event : ReportedEvent}
    (registered : settings.adapter webhook.provider = some (adapter, config))
    (validated : validateWebhook settings.builtins config webhook adapter = some verification)
    (verified : verification.verified = true) (read : settings.normalize webhook = .ok event) :
    ((∃ row, c.state.findByEventId webhook.provider event.providerEventId = some row ∧ row.Kept) ∨
        Processed settings c.state webhook correlationId input) ↔
      ((∃ row, c.state.findByEventId webhook.provider event.providerEventId = some row ∧
          row.processingStatus ≠ .received) ∨
        ¬ Claimed settings c.state webhook input) := by
  constructor
  · rintro (⟨row, found, kept⟩ | ⟨metadata, event', receipt, s₁, s₂, passed, -⟩)
    · refine .inl ⟨row, found, fun received => ?_⟩
      rcases kept with settled | ⟨since, selected⟩
      · simp [WebhookReceipt.isSettled, received] at settled
      · simpa [WebhookReceipt.selected, received] using selected since le_rfl
    · refine .inr fun claimed => ?_
      rw [ingest_claimed registered validated verified claimed] at passed
      simp at passed
  · rintro (⟨row, found, processed⟩ | unclaimed)
    · exact .inl ⟨row, found, reachable_tended reach row.id row (findByEventId_get found).1 processed⟩
    · by_cases settled : ∃ row, c.state.findByEventId webhook.provider event.providerEventId = some row ∧
          row.isSettled = true
      · obtain ⟨row, found, settled⟩ := settled
        exact .inl ⟨row, found, .inl settled⟩
      · obtain ⟨s₁, same, passed⟩ := ingest_unclaimed registered validated verified read unclaimed
        have unsettled : ∀ row, s₁.findByEventId webhook.provider event.providerEventId = some row →
            row.isSettled = false := by
          intro row found
          rw [WebhookState.findByEventId, same] at found
          exact Bool.eq_false_iff.mpr fun yes => settled ⟨row, found, yes⟩
        obtain ⟨receipt, s₂, run⟩ := persistReceipt_continues input (settings.normalize_event webhook event read) unsettled
        exact .inr ⟨_, event, receipt, s₁, s₂, passed, run⟩

namespace Sample

/-- The same headers and body a minute later, within the window. -/
def redelivered : InboundWebhook := { northstar with receivedAt := 60000000 }

def aMinuteLater : WebhookInput := ⟨input 60000000 400 .crashed, true⟩

/-- A delivery that crashes after some units of work. -/
def crashed (count : Nat) : List WebhookAction :=
  .spawn (.ingest northstar correlationId) :: webhookWork 0 1 300 count

theorem redelivered_valid : validateWebhook builtins ⟨some "secret", none, 300⟩ redelivered .northstar =
    some (.accepted { scheme := "hmac-sha256-timestamped", algorithm := some "hmac-sha256"
                      timestamp := some "0", verified := true }) := by
  decide +kernel

/-- Redis remembers the delivery that crashed. -/
def remembers (c : WebhookConfiguration String) : Bool :=
  c.state.guard.any fun entry => entry.1 = (provider, String.ofList (List.replicate 64 '0')) ∧ 60000000 < entry.2

theorem remembers_replay {c : WebhookConfiguration String} (remembered : remembers c = true) :
    ¬ Processed webhookSettings c.state redelivered correlationId aMinuteLater := by
  rintro ⟨metadata, event, receipt, s₁, s₂, passed, -⟩
  have extracted : extractSignatureHeader redelivered.headers = some (String.ofList (List.replicate 64 '0')) := by
    decide +kernel
  obtain ⟨entry, member, same⟩ := List.any_eq_true.mp remembered
  simp only [decide_eq_true_eq] at same
  have held : ((provider, String.ofList (List.replicate 64 '0')), entry.2) ∈ c.state.guard := by
    rw [← same.1]
    exact member
  rw [ingest_claimed rfl redelivered_valid rfl ⟨rfl, _, _, extracted, held, same.2⟩] at passed
  simp at passed

end Sample

/-- A delivery that crashes between the claim of its signature and the insert
of its receipt, or between the insert and its processing: no receipt is
settled or selected by the worker, and the redelivery is taken for a replay. -/
theorem crash_loses_webhook :
    ∃ c c' : WebhookConfiguration String, WebhookReachable Sample.webhookSettings c ∧
      WebhookReachable Sample.webhookSettings c' ∧ c.state.receipts.rows = [] ∧
      (∃ row, c'.state.findByEventId Sample.provider "event-1" = some row ∧ row.isSettled = false ∧
        ∀ now, row.selected now = false) ∧
      (validateWebhook Sample.builtins ⟨some "secret", none, 300⟩ Sample.redelivered .northstar).any
        (·.verified) = true ∧
      ¬ Processed Sample.webhookSettings c.state Sample.redelivered Sample.correlationId Sample.aMinuteLater ∧
      ¬ Processed Sample.webhookSettings c'.state Sample.redelivered Sample.correlationId Sample.aMinuteLater := by
  have early : ((webhookSystem Sample.webhookSettings).replay (fun _ _ => true) WebhookConfiguration.initial
      (Sample.crashed 1)).any (fun (c : WebhookConfiguration String) =>
        c.state.receipts.rows.isEmpty && Sample.remembers c) = true := by decide +kernel
  have late : ((webhookSystem Sample.webhookSettings).replay (fun _ _ => true) WebhookConfiguration.initial
      (Sample.crashed 3)).any (fun (c : WebhookConfiguration String) =>
        (c.state.findByEventId Sample.provider "event-1").any (·.processingStatus = .received) &&
          Sample.remembers c) = true := by decide +kernel
  simp only [Option.any_eq_true, Bool.and_eq_true, decide_eq_true_eq, List.isEmpty_iff] at early late
  obtain ⟨c, run, empty, remembered⟩ := early
  obtain ⟨c', run', ⟨row, found, received⟩, remembered'⟩ := late
  refine ⟨c, c', .of_replay (fun _ _ _ => trivial) run, .of_replay (fun _ _ _ => trivial) run', empty,
    ⟨row, found, ?_, fun now => ?_⟩, ?_, Sample.remembers_replay remembered, Sample.remembers_replay remembered'⟩
  · simp [WebhookReceipt.isSettled, received]
  · simp [WebhookReceipt.selected, received]
  · rw [Sample.redelivered_valid]
    rfl

theorem crash_recoverable_deferred :
    ∃ c : WebhookConfiguration String, WebhookReachable Sample.webhookSettings c ∧
      ((∃ row, c.state.findByEventId Sample.provider "event-1" = some row ∧ row.Kept) ∨
        Processed Sample.webhookSettings c.state Sample.redelivered Sample.correlationId Sample.aMinuteLater) := by
  have deferred : ((webhookSystem Sample.webhookSettings).replay (fun _ _ => true) WebhookConfiguration.initial
      (Sample.crashed 4)).any (fun (c : WebhookConfiguration String) =>
        (c.state.findByEventId Sample.provider "event-1").any (·.processingStatus ≠ .received)) = true := by
    decide +kernel
  simp only [Option.any_eq_true, decide_eq_true_eq] at deferred
  obtain ⟨c, run, row, found, processed⟩ := deferred
  have reach : WebhookReachable Sample.webhookSettings c := .of_replay (fun _ _ _ => trivial) run
  exact ⟨c, reach, (crash_recoverable_iff reach rfl Sample.redelivered_valid rfl rfl).mpr
    (.inl ⟨row, found, processed⟩)⟩

end IntegrationOrchestrator
