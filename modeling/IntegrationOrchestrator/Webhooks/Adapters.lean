import IntegrationOrchestrator.Webhooks.Signatures

namespace IntegrationOrchestrator

/-- The adapters, one a signature scheme. -/
inductive Adapter where
  | northstar
  | meridian
  | cobalt
  deriving DecidableEq, Repr

namespace Adapter

def signatureHeader : Adapter → String
  | .northstar => "x-northstar-signature"
  | .meridian => "x-meridian-signature"
  | .cobalt => "x-cobalt-signature"

/-- The bytes a signature of the scheme covers: the raw header strings and the
body, joined by full stops. -/
def signedPayload (adapter : Adapter) (keyId timestampRaw : String) (body : Bytes) : Bytes :=
  match adapter with
  | .northstar => encode timestampRaw ++ encode "." ++ body
  | .meridian => body
  | .cobalt => encode keyId ++ encode "." ++ (encode timestampRaw ++ encode "." ++ body)

end Adapter

section validation

variable {Digest : Type} (builtins : Builtins Digest) (config : WebhookConfig) (webhook : InboundWebhook)

def Northstar.validateWebhook : Option WebhookVerification :=
  let timestampRaw := webhook.header "x-northstar-timestamp"
  let metadata : SignatureMetadata :=
    { scheme := "hmac-sha256-timestamped", algorithm := some "hmac-sha256", timestamp := timestampRaw }
  match present (webhook.header Adapter.northstar.signatureHeader), present timestampRaw with
  | some signature, some timestamp =>
    match config.webhookSecret with
    | none => some (.rejected metadata "no webhook secret is configured")
    | some secret =>
      -- freshness before the signature: the cheaper check
      if withinReplayWindow (parseTimestamp builtins timestampRaw) webhook.receivedAt
          config.replayWindowSeconds then
        match verifyHmacSha256 builtins secret (Adapter.northstar.signedPayload "" timestamp webhook.body)
            signature with
        | none => none
        | some false => some (.rejected metadata "the signature does not match")
        | some true => some (.accepted { metadata with verified := true })
      else some (.rejected metadata "the timestamp is outside the replay window")
  | _, _ => some (.rejected metadata "missing signature or timestamp header")

/-- Meridian signs the body only. -/
def Meridian.validateWebhook : Option WebhookVerification :=
  let metadata : SignatureMetadata := { scheme := "hmac-sha256-body", algorithm := some "hmac-sha256" }
  match present (webhook.header Adapter.meridian.signatureHeader) with
  | some signature =>
    match config.webhookSecret with
    | none => some (.rejected metadata "no webhook secret is configured")
    | some secret =>
      match verifyHmacSha256 builtins secret (Adapter.meridian.signedPayload "" "" webhook.body) signature with
      | none => none
      | some false => some (.rejected metadata "the signature does not match")
      | some true => some (.accepted { metadata with verified := true })
  | none => some (.rejected metadata "missing signature header")

def Cobalt.validateWebhook : Option WebhookVerification :=
  let timestampRaw := webhook.header "x-cobalt-timestamp"
  let keyId := webhook.header "x-cobalt-key-id"
  let metadata : SignatureMetadata :=
    { scheme := "ed25519-timestamped", algorithm := some "ed25519", keyId := keyId, timestamp := timestampRaw }
  match present (webhook.header Adapter.cobalt.signatureHeader), present timestampRaw, present keyId with
  | some signature, some timestamp, some key =>
    match present config.webhookPublicKey with
    | none => some (.rejected metadata "no webhook public key is configured")
    | some publicKey =>
      if withinReplayWindow (parseTimestamp builtins timestampRaw) webhook.receivedAt
          config.replayWindowSeconds then
        if verifyEd25519 builtins publicKey (Adapter.cobalt.signedPayload key timestamp webhook.body)
            signature then
          some (.accepted { metadata with verified := true })
        else some (.rejected metadata "the signature does not match")
      else some (.rejected metadata "the timestamp is outside the replay window")
  | _, _, _ => some (.rejected metadata "missing signature, timestamp, or key identifier header")

/-- `validate_webhook`; `none` when the comparison raises. -/
def validateWebhook : Adapter → Option WebhookVerification
  | .northstar => Northstar.validateWebhook builtins config webhook
  | .meridian => Meridian.validateWebhook builtins config webhook
  | .cobalt => Cobalt.validateWebhook builtins config webhook

end validation

/-- The message whose signature `validate_webhook` checks, when the headers it
is made of are there. -/
def signedBytes (webhook : InboundWebhook) : Adapter → Option Bytes
  | .northstar => do
    let timestamp ← present (webhook.header "x-northstar-timestamp")
    return Adapter.northstar.signedPayload "" timestamp webhook.body
  | .meridian => some (Adapter.meridian.signedPayload "" "" webhook.body)
  | .cobalt => do
    let timestamp ← present (webhook.header "x-cobalt-timestamp")
    let keyId ← present (webhook.header "x-cobalt-key-id")
    return Adapter.cobalt.signedPayload keyId timestamp webhook.body

inductive Encoding where
  | utf8
  | utf8Sig
  | other
  deriving DecidableEq

/-- `json.detect_encoding`; the UTF-16 and UTF-32 forms are `other`. -/
def detectEncoding (raw : Bytes) : Encoding :=
  if raw.take 4 ∈ [[0x00, 0x00, 0xFE, 0xFF], [0xFF, 0xFE, 0x00, 0x00]] ∨
      raw.take 2 ∈ [[0xFE, 0xFF], [0xFF, 0xFE]] then .other
  else if raw.take 3 = [0xEF, 0xBB, 0xBF] then .utf8Sig
  else if (4 ≤ raw.length ∨ raw.length = 2) ∧ 0 ∈ raw.take 2 then .other
  else .utf8

/-- The text of a body in UTF-8, without its byte order mark. -/
def decodeText (raw : Bytes) : Option (List Nat) :=
  match detectEncoding raw with
  | .utf8 => Utf8.decode raw
  | .utf8Sig => Utf8.decode (raw.drop 3)
  | .other => none

/-- `_decode_body` for a body in UTF-8: the text of the JSON object. -/
def decodeBody (raw : Bytes) : Option (List Nat) :=
  (decodeText raw).filter JsonText.isObject

end IntegrationOrchestrator
