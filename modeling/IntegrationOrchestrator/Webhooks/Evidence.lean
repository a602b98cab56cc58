import IntegrationOrchestrator.Webhooks.Settlement

namespace IntegrationOrchestrator

/-- What of the signature header is compared with the digest. -/
def hmacCandidate (signature : String) : List Char :=
  let candidate := strip signature.toList
  let candidate := if '=' ∈ candidate then (candidate.dropWhile (· ≠ '=')).tail else candidate
  (strip candidate).map lower

/-- `hmac.compare_digest` takes text in ASCII only. -/
def isComparable (signature : String) : Bool := (hmacCandidate signature).all isAscii

namespace Adapter

/-- The header of the signed timestamp, where the scheme signs one. -/
def timestampHeader : Adapter → Option String
  | .northstar => some "x-northstar-timestamp"
  | .meridian => none
  | .cobalt => some "x-cobalt-timestamp"

/-- The configuration has the key of the scheme. -/
def Keyed (config : WebhookConfig) : Adapter → Prop
  | .northstar | .meridian => config.webhookSecret.isSome
  | .cobalt => (present config.webhookPublicKey).isSome

end Adapter

section verdict

variable {Digest : Type} (builtins : Builtins Digest) (config : WebhookConfig) (webhook : InboundWebhook)

/-- The decoded signature is the one of the key for the message. -/
def Signs (message : Bytes) (signature : String) : Adapter → Prop
  | .northstar | .meridian =>
    ∃ secret ∈ config.webhookSecret, builtins.hmacSha256 secret message = hmacCandidate signature
  | .cobalt => ∃ text ∈ present config.webhookPublicKey, ∃ key ∈ b64decode text, ∃ raw ∈ b64decode signature,
      key.length = 32 ∧ builtins.ed25519 key message raw

/-- The delivery is signed, and its timestamp within the window on either
side where the scheme signs one. -/
def Genuine (adapter : Adapter) : Prop :=
  (∃ message ∈ signedBytes webhook adapter, ∃ signature ∈ present (webhook.header adapter.signatureHeader),
    Signs builtins config message signature adapter) ∧
  ∀ name ∈ adapter.timestampHeader, ∃ time ∈ parseTimestamp builtins (webhook.header name),
    |webhook.receivedAt - time| ≤ config.replayWindowSeconds * 1000000

/-- The signature header that reaches the comparison with a digest. -/
def comparedSignature : Adapter → Option String
  | .northstar =>
    if withinReplayWindow (parseTimestamp builtins (webhook.header "x-northstar-timestamp")) webhook.receivedAt
        config.replayWindowSeconds then
      present (webhook.header Adapter.northstar.signatureHeader)
    else none
  | .meridian => present (webhook.header Adapter.meridian.signatureHeader)
  | .cobalt => none

variable {builtins config webhook}

theorem verifyHmacSha256_eq (secret : String) (message : Bytes) (signature : String) :
    verifyHmacSha256 builtins secret message signature =
      if isComparable signature then
        some (decide (builtins.hmacSha256 secret message = hmacCandidate signature))
      else none := rfl

theorem verifyEd25519_iff {publicKey signature : String} {message : Bytes} :
    verifyEd25519 builtins publicKey message signature = true ↔
      ∃ key ∈ b64decode publicKey, ∃ raw ∈ b64decode signature,
        key.length = 32 ∧ builtins.ed25519 key message raw := by
  unfold verifyEd25519
  cases b64decode publicKey <;> cases b64decode signature <;> simp

theorem withinReplayWindow_iff {timestamp : Option Instant} {now : Instant} {windowSeconds : Int} :
    withinReplayWindow timestamp now windowSeconds = true ↔
      ∃ time ∈ timestamp, |now - time| ≤ windowSeconds * 1000000 := by
  cases timestamp <;> simp [withinReplayWindow]

/-- A timestamp in the window was there to be signed. -/
theorem timestamp_present {value : Option String} {now : Instant} {windowSeconds : Int}
    (fresh : withinReplayWindow (parseTimestamp builtins value) now windowSeconds = true) :
    ∃ timestamp, present value = some timestamp := by
  obtain ⟨time, parsed, -⟩ := withinReplayWindow_iff.mp fresh
  cases read : present value with
  | none => simp [parseTimestamp, read] at parsed
  | some timestamp => exact ⟨timestamp, rfl⟩

/-- What `validate_webhook` answers: nothing when the compared text is outside
ASCII, and otherwise whether the delivery is genuine. -/
theorem validateWebhook_spec {adapter : Adapter} (keyed : adapter.Keyed config) :
    (validateWebhook builtins config webhook adapter = none ↔
      ∃ signature ∈ comparedSignature builtins config webhook adapter,
        isComparable signature = false) ∧
    ∀ verdict, validateWebhook builtins config webhook adapter = some verdict →
      (verdict.verified = true ↔ Genuine builtins config webhook adapter) := by
  simp only [validateWebhook, comparedSignature, Genuine, ← withinReplayWindow_iff]
  cases adapter with
  | northstar =>
    obtain ⟨secret, known⟩ := Option.isSome_iff_exists.mp keyed
    simp only [Northstar.validateWebhook, known, signedBytes, Signs, Adapter.timestampHeader]
    cases signed : present (webhook.header Adapter.northstar.signatureHeader) with
    | none => simp [WebhookVerification.rejected]
    | some signature =>
      by_cases fresh : withinReplayWindow (parseTimestamp builtins (webhook.header "x-northstar-timestamp"))
          webhook.receivedAt config.replayWindowSeconds = true
      · obtain ⟨timestamp, stamped⟩ := timestamp_present fresh
        simp only [stamped, verifyHmacSha256_eq]
        by_cases equal : builtins.hmacSha256 secret
            (Adapter.northstar.signedPayload "" timestamp webhook.body) = hmacCandidate signature <;>
          cases plain : isComparable signature <;>
          simp [equal, plain, fresh, WebhookVerification.rejected, WebhookVerification.accepted]
      · cases stamped : present (webhook.header "x-northstar-timestamp") <;>
          simp [fresh, WebhookVerification.rejected]
  | meridian =>
    obtain ⟨secret, known⟩ := Option.isSome_iff_exists.mp keyed
    simp only [Meridian.validateWebhook, known, signedBytes, Signs, Adapter.timestampHeader]
    cases signed : present (webhook.header Adapter.meridian.signatureHeader) with
    | none => simp [WebhookVerification.rejected]
    | some signature =>
      simp only [verifyHmacSha256_eq]
      by_cases equal : builtins.hmacSha256 secret
          (Adapter.meridian.signedPayload "" "" webhook.body) = hmacCandidate signature <;>
        cases plain : isComparable signature <;>
        simp [equal, plain, WebhookVerification.rejected, WebhookVerification.accepted]
  | cobalt =>
    obtain ⟨publicKey, known⟩ := Option.isSome_iff_exists.mp keyed
    simp only [Cobalt.validateWebhook, known, signedBytes, Signs, Adapter.timestampHeader,
      ← verifyEd25519_iff]
    cases present (webhook.header Adapter.cobalt.signatureHeader) <;>
      cases present (webhook.header "x-cobalt-timestamp") <;>
      cases present (webhook.header "x-cobalt-key-id") <;>
      try simp [WebhookVerification.rejected]
    split_ifs with fresh valid
    · simp [valid, fresh, WebhookVerification.accepted]
    · simp [valid]
    · simp [fresh]

end verdict

section deliveries

variable {Digest : Type}

/-- No receipt has the identifier, as its own or in a made-up event id. -/
def WebhookState.Unused (s : WebhookState Digest) (id : UUID) : Prop :=
  ∀ row ∈ s.receipts.rows, row.id ≠ id ∧ row.eventId ≠ "unverified:" ++ uuidText id

theorem WebhookState.Unused.not_conflicts {s : WebhookState Digest} {receipt : WebhookReceipt}
    (unused : s.Unused receipt.id) (made : receipt.eventId = "unverified:" ++ uuidText receipt.id) :
    s.conflicts receipt = false := by
  have absent : s.receipts.get receipt.id = none := by
    cases stored : s.receipts.get receipt.id with
    | none => rfl
    | some row => exact absurd (Table.get_key stored) (unused row (Table.mem_of_get stored)).1
  have unread : s.findByEventId receipt.provider receipt.eventId = none := by
    cases found : s.findByEventId receipt.provider receipt.eventId with
    | none => rfl
    | some row =>
      obtain ⟨stored, -, event⟩ := findByEventId_get found
      exact absurd (event.trans made) (unused row (Table.mem_of_get stored)).2
  simp [conflicts, absent, unread]

variable [DecidableEq Digest]

/-- The two units of work of a delivery that is not accepted, wherever they
are scheduled: the first changes nothing, and the second commits a rejected
receipt and leaves the orchestrator's tables alone. -/
def LeavesEvidence (settings : WebhookSettings Digest) (webhook : InboundWebhook)
    (correlationId : CorrelationId) : Prop :=
  ∃ metadata reason,
    (∀ (c : WebhookConfiguration Digest) task rest input,
      c.tasks[task]? = some (.ingest webhook correlationId :: rest) →
      (webhookSystem settings).next c (.run task input) = some
        { c with tasks := c.tasks.set task (.recordRejection webhook metadata reason correlationId :: rest) }) ∧
    ∀ (c : WebhookConfiguration Digest) task rest input,
      c.tasks[task]? = some (.recordRejection webhook metadata reason correlationId :: rest) →
      c.state.Unused (input.core.newId 0) →
      ∃ c' receipt, (webhookSystem settings).next c (.run task input) = some c' ∧
        c'.tasks = c.tasks.set task rest ∧ c'.state.core = c.state.core ∧
        c'.state.receipts.get (input.core.newId 0) = some receipt ∧
        receipt.provider = webhook.provider ∧ receipt.processingStatus = .rejected

variable {settings : WebhookSettings Digest} {webhook : InboundWebhook} {correlationId : CorrelationId}
  {adapter : Adapter} {config : WebhookConfig} {verdict : WebhookVerification}

theorem recordRejection_ok (settings : WebhookSettings Digest) (webhook : InboundWebhook)
    (metadata : SignatureMetadata) (reason : String) (correlationId : CorrelationId) {s : WebhookState Digest}
    {input : WebhookInput} (unused : s.Unused (input.core.newId 0)) :
    ∃ receipt, receipt.id = input.core.newId 0 ∧ receipt.provider = webhook.provider ∧
      receipt.processingStatus = .rejected ∧
      (webhookSystem settings).exec (.recordRejection webhook metadata reason correlationId) input s =
        .ok (s.addReceipt receipt .rejected, []) := by
  refine ⟨_, rfl, rfl, rfl, if_neg ?_⟩
  rw [Bool.not_eq_true]
  exact unused.not_conflicts rfl

theorem leavesEvidence_of_rejected (registered : settings.adapter webhook.provider = some (adapter, config))
    (validated : validateWebhook settings.builtins config webhook adapter = some verdict)
    (rejected : verdict.verified = false) : LeavesEvidence settings webhook correlationId := by
  refine ⟨verdict.signatureMetadata, verdict.reason.getD "signature verification failed", ?_, ?_⟩
  · intro c task rest input atTask
    have ran : (webhookSystem settings).exec (.ingest webhook correlationId) input c.state =
        .ok (c.state, [.recordRejection webhook verdict.signatureMetadata
          (verdict.reason.getD "signature verification failed") correlationId]) := by
      simp [webhookSystem, WebhookFrame.exec, WebhookFrame.execIngest, registered, validated, rejected]
    exact TaskPool.next_run_ok atTask ran
  · intro c task rest input atTask unused
    obtain ⟨receipt, made, provider, status, ran⟩ := recordRejection_ok settings webhook verdict.signatureMetadata
      (verdict.reason.getD "signature verification failed") correlationId unused
    refine ⟨_, receipt, TaskPool.next_run_ok atTask ran, rfl, rfl, ?_, provider, status⟩
    rw [← made]
    exact Table.get_put_self c.state.receipts receipt

end deliveries

namespace Sample

/-- A delivery whose signature header holds one character. -/
def signedWith (c : Char) : InboundWebhook :=
  { northstar with
    headers := [(Adapter.northstar.signatureHeader, String.ofList [c]), ("x-northstar-timestamp", "0")]
    distinct := northstar.distinct
    lowered := by
      intro header member
      rcases List.mem_pair.mp member with rfl | rfl
      · exact (by decide : lowerText Adapter.northstar.signatureHeader = Adapter.northstar.signatureHeader)
      · decide }

end Sample

end IntegrationOrchestrator
