import IntegrationOrchestrator.Webhooks.Ingestion

namespace IntegrationOrchestrator

/-- The private copy of a receipt a frame works on. -/
def WebhookFrame.copy : WebhookFrame → Option WebhookReceipt
  | .processReceipt receipt _ | .processDeferred receipt | .abandonReceipt receipt _ => some receipt
  | _ => none

/-- The event is one of the provider that sent the webhook. -/
def WebhookFrame.OwnEvent : WebhookFrame → Prop
  | .persistReceipt webhook event _ _ | .insertReceipt webhook event _ _ => event.provider = webhook.provider
  | .processReceipt receipt event =>
    event.provider = receipt.provider ∧ event.providerEventId = receipt.eventId
  | _ => True

variable {Digest : Type}

/-- Everything a unit of work can do to the receipts and to the events
journalled as applied. -/
inductive ReceiptStep (s : WebhookState Digest) : WebhookFrame → WebhookState Digest → List WebhookFrame → Prop
  | other {frame : WebhookFrame} {s' : WebhookState Digest} {pushed : List WebhookFrame} : frame.copy = none →
      s'.receipts = s.receipts → s'.applied = s.applied →
      (∀ next ∈ pushed, next.copy = none ∧ (frame.OwnEvent → next.OwnEvent)) → ReceiptStep s frame s' pushed
  | reject {frame : WebhookFrame} {receipt : WebhookReceipt} : frame.copy = none →
      receipt.processingStatus = .rejected → s.conflicts receipt = false → ReceiptStep s frame (s.addReceipt receipt .rejected) []
  | insert {webhook : InboundWebhook} {event : ReportedEvent} {metadata : SignatureMetadata}
      {correlationId : CorrelationId} {receipt : WebhookReceipt} : receipt.provider = webhook.provider →
      receipt.eventId = event.providerEventId → receipt.processingStatus = .received →
      s.conflicts receipt = false →
      ReceiptStep s (.insertReceipt webhook event metadata correlationId) (s.addReceipt receipt .received)
        [.processReceipt receipt event]
  | resume {webhook : InboundWebhook} {event : ReportedEvent} {metadata : SignatureMetadata}
      {correlationId : CorrelationId} {receipt : WebhookReceipt} :
      s.findByEventId webhook.provider event.providerEventId = some receipt → receipt.isSettled = false →
      ReceiptStep s (.persistReceipt webhook event metadata correlationId) s [.processReceipt receipt event]
  | claim {receipt : WebhookReceipt} : s.receipts.get receipt.id = some receipt → receipt.isSettled = false →
      ReceiptStep s (.claimDeferred receipt.id) s [.processDeferred receipt]
  | decide {receipt : WebhookReceipt} {next : WebhookFrame} : next.copy = some receipt → next.OwnEvent →
      ReceiptStep s (.processDeferred receipt) s [next]
  | defer {receipt receipt' : WebhookReceipt} {event : ReportedEvent} : receipt'.id = receipt.id →
      receipt'.processingStatus = .deferred → receipt'.nextAttemptAt.isSome = true → ReceiptStep s (.processReceipt receipt event)
        ((s.updateReceipt receipt').recordReceipt receipt'.id .deferred) []
  | apply {receipt receipt' : WebhookReceipt} {event : ReportedEvent} (orchestrated : State)
      (applied : List (ProviderSlug × String)) {pushed : List WebhookFrame} : receipt'.id = receipt.id →
      receipt'.processingStatus = .processed →
      (applied = s.applied ∨ applied = s.applied ++ [(event.provider, event.providerEventId)]) →
      (∀ next ∈ pushed, next.copy = none ∧ next.OwnEvent) →
      ReceiptStep s (.processReceipt receipt event)
        { s.updateReceipt receipt' with core := orchestrated, applied := applied } pushed
  | abandon {receipt receipt' : WebhookReceipt} {reason : String} : receipt'.id = receipt.id →
      receipt'.processingStatus = .abandoned → ReceiptStep s (.abandonReceipt receipt reason)
        ((s.updateReceipt receipt').recordReceipt receipt'.id .abandoned) []

variable {settings : WebhookSettings Digest} {s s' : WebhookState Digest}
  {input : WebhookInput} {pushed : List WebhookFrame}

theorem normalized_frames {webhook : InboundWebhook} {metadata : SignatureMetadata}
    {correlationId : CorrelationId} :
    ∀ next ∈ WebhookFrame.normalized settings webhook metadata correlationId,
      next.copy = none ∧ next.OwnEvent := by
  intro next member
  unfold WebhookFrame.normalized at member
  split at member
  · rename_i event read
    cases List.mem_singleton.mp member
    exact ⟨rfl, settings.normalize_provider webhook event read⟩
  · cases List.mem_singleton.mp member
    exact ⟨rfl, trivial⟩
  · cases List.mem_singleton.mp member
    exact ⟨rfl, trivial⟩

theorem core_frames (next : List Frame) :
    ∀ frame ∈ next.map WebhookFrame.core, frame.copy = none ∧ frame.OwnEvent := by
  intro frame member
  obtain ⟨inner, -, rfl⟩ := List.mem_map.mp member
  exact ⟨rfl, trivial⟩

theorem execProcessReceipt_receiptStep {receipt : WebhookReceipt} {event : ReportedEvent}
    (run : WebhookFrame.execProcessReceipt settings receipt event input s = .ok (s', pushed)) :
    ReceiptStep s (.processReceipt receipt event) s' pushed := by
  unfold WebhookFrame.execProcessReceipt at run
  dsimp only at run
  split at run
  · cases run
    exact .defer rfl rfl rfl
  · split at run
    · cases run
    · rename_i orchestrated next ran
      split at run
      · cases run
        exact .apply orchestrated s.applied rfl rfl (.inl rfl) (List.forall_mem_nil _)
      · cases run
        exact .apply orchestrated _ rfl rfl (.inr rfl) (core_frames next)

theorem execProcessDeferred_receiptStep {receipt : WebhookReceipt}
    (run : WebhookFrame.execProcessDeferred settings receipt input s = .ok (s', pushed)) :
    ReceiptStep s (.processDeferred receipt) s' pushed := by
  unfold WebhookFrame.execProcessDeferred at run
  split at run
  · cases run
    exact .decide rfl trivial
  · split at run
    · cases run
      exact .decide rfl trivial
    · cases run
    · rename_i event rehydrated
      cases run
      exact .decide rfl (WebhookReceipt.rehydrateEvent_ok rehydrated)

theorem execClaimDeferred_receiptStep {receiptId : UUID}
    (run : WebhookFrame.execClaimDeferred receiptId input s = .ok (s', pushed)) :
    ReceiptStep s (.claimDeferred receiptId) s' pushed := by
  unfold WebhookFrame.execClaimDeferred at run
  split at run
  · cases run
    exact .other rfl rfl rfl (List.forall_mem_nil _)
  · rename_i receipt found
    split at run
    · rename_i due
      simp only [Bool.and_eq_true, decide_eq_true_eq] at due
      cases run
      have same := Table.get_key found
      subst same
      exact .claim found (by simp [WebhookReceipt.isSettled, due.1])
    · cases run
      exact .other rfl rfl rfl (List.forall_mem_nil _)

variable [DecidableEq Digest]

theorem execIngest_receiptStep {webhook : InboundWebhook} {correlationId : CorrelationId}
    (run : WebhookFrame.execIngest settings webhook correlationId input s = .ok (s', pushed)) :
    ReceiptStep s (.ingest webhook correlationId) s' pushed := by
  have quiet : ∀ {after : WebhookState Digest} {frames : List WebhookFrame}, after.receipts = s.receipts →
      after.applied = s.applied → (∀ next ∈ frames, next.copy = none ∧ next.OwnEvent) →
      ReceiptStep s (.ingest webhook correlationId) after frames := fun same same' quiet =>
    .other rfl same same' fun next member => ⟨(quiet next member).1, fun _ => (quiet next member).2⟩
  unfold WebhookFrame.execIngest at run
  split at run
  · cases run
  · split at run
    · cases run
    · dsimp only at run
      split at run
      · cases run
        exact quiet rfl rfl (by simp [WebhookFrame.copy, WebhookFrame.OwnEvent])
      · split at run
        · cases run
          exact quiet rfl rfl normalized_frames
        · split at run
          · cases run
            exact quiet rfl rfl normalized_frames
          · cases run
            exact quiet rfl rfl (by simp [WebhookFrame.copy, WebhookFrame.OwnEvent])

/-- One inversion for every unit of work. -/
theorem WebhookFrame.receiptStep {frame : WebhookFrame}
    (run : WebhookFrame.exec settings frame input s = .ok (s', pushed)) : ReceiptStep s frame s' pushed := by
  cases frame with
  | core inner =>
    simp only [WebhookFrame.exec, WebhookFrame.execCore] at run
    split at run
    · cases run
    · rename_i orchestrated next ran
      cases run
      exact .other rfl rfl rfl fun frame member => ⟨(core_frames next frame member).1,
        fun _ => (core_frames next frame member).2⟩
  | ingest webhook correlationId => exact execIngest_receiptStep run
  | recordRejection webhook metadata reason correlationId =>
    simp only [WebhookFrame.exec, WebhookFrame.execRecordRejection] at run
    split at run
    · cases run
    · rename_i fresh
      cases run
      exact .reject rfl rfl (by simpa using fresh)
  | persistReceipt webhook event metadata correlationId =>
    simp only [WebhookFrame.exec, WebhookFrame.execPersistReceipt] at run
    split at run
    · rename_i existing found
      split at run
      · cases run
        exact .other rfl rfl rfl (List.forall_mem_nil _)
      · rename_i unsettled
        cases run
        exact .resume found (by simpa using unsettled)
    · cases run
      exact .other rfl rfl rfl (by simp [WebhookFrame.copy, WebhookFrame.OwnEvent])
  | insertReceipt webhook event metadata correlationId =>
    simp only [WebhookFrame.exec, WebhookFrame.execInsertReceipt] at run
    split at run
    · cases run
    · split at run
      · cases run
        exact .other rfl rfl rfl (by simp [WebhookFrame.copy, WebhookFrame.OwnEvent])
      · rename_i fresh
        cases run
        exact .insert rfl rfl rfl (by simpa using fresh)
  | rereadDuplicate provider eventId =>
    simp only [WebhookFrame.exec, WebhookFrame.execRereadDuplicate] at run
    split at run
    · cases run
    · cases run
      exact .other rfl rfl rfl (List.forall_mem_nil _)
  | processReceipt receipt event => exact execProcessReceipt_receiptStep run
  | claimDeferred receiptId => exact execClaimDeferred_receiptStep run
  | processDeferred receipt => exact execProcessDeferred_receiptStep run
  | abandonReceipt receipt reason =>
    cases run
    exact .abandon rfl rfl

end IntegrationOrchestrator
