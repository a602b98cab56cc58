import IntegrationOrchestrator.Domain.ValueObjects
import IntegrationOrchestrator.Foundation.JsonText
import IntegrationOrchestrator.Foundation.Utf8

namespace IntegrationOrchestrator

abbrev Bytes := List UInt8

/-- `str.encode("utf-8")`. -/
def encode (text : String) : Bytes := text.toList.flatMap String.utf8EncodeChar

def isAscii (c : Char) : Bool := c.toNat < 0x80

/-- `str.lower`, as far as it decides equality with text of ASCII letters. -/
def lowerText (text : String) : String := String.ofList (text.toList.map lower)

/-- Truth of an optional string. -/
def present (value : Option String) : Option String := value.filter (· ≠ "")

/-- What the verification takes from its libraries. The assumptions are those
of cryptography: one valid signature a message, and no two strings of one
digest. -/
structure Builtins (Digest : Type) where
  /-- `hmac.new(secret, message, sha256).hexdigest()`. -/
  hmacSha256 : String → Bytes → List Char
  hmac_hex : ∀ secret message, ∀ c ∈ hmacSha256 secret message, c ∈ "0123456789abcdef".toList
  hmac_length : ∀ secret message, (hmacSha256 secret message).length = 64
  /-- Whether the key's owner made the signature, the last argument. -/
  ed25519 : Bytes → Bytes → Bytes → Bool
  ed25519_unique : ∀ key message signature signature', ed25519 key message signature →
    ed25519 key message signature' → signature = signature'
  /-- `sha256(signature.encode("utf-8")).hexdigest()[:32]`. -/
  digest : String → Digest
  digest_injective : Function.Injective digest
  /-- `datetime.fromtimestamp(float(text), tz=UTC)`. -/
  fromTimestamp : List Char → Option Instant
  /-- `datetime.fromisoformat(text)`, taken as UTC when it has no offset. -/
  fromIsoFormat : List Char → Option Instant

structure InboundWebhook where
  provider : ProviderSlug
  headers : List (String × String)
  body : Bytes
  receivedAt : Instant
  remoteAddress : Option String := none
  -- the headers are a dictionary, and arrive lowercased
  distinct : (headers.map Prod.fst).Nodup
  lowered : ∀ header ∈ headers, lowerText header.1 = header.1

def InboundWebhook.header (webhook : InboundWebhook) (name : String) : Option String :=
  webhook.headers.lookup (lowerText name)

structure SignatureMetadata where
  scheme : String
  keyId : Option String := none
  timestamp : Option String := none
  algorithm : Option String := none
  verified : Bool := false
  deriving DecidableEq, Repr

structure WebhookVerification where
  verified : Bool
  signatureMetadata : SignatureMetadata
  reason : Option String := none
  deriving DecidableEq, Repr

def WebhookVerification.accepted (metadata : SignatureMetadata) : WebhookVerification :=
  { verified := true, signatureMetadata := metadata }

def WebhookVerification.rejected (metadata : SignatureMetadata) (reason : String) : WebhookVerification :=
  { verified := false, signatureMetadata := metadata, reason := some reason }

/-- The webhook side of a provider's configuration. -/
structure WebhookConfig where
  webhookSecret : Option String
  webhookPublicKey : Option String
  replayWindowSeconds : Int

section verification

variable {Digest : Type} (builtins : Builtins Digest)

/-- Providers vary on whether they name the algorithm in front of the
signature. The comparison raises on text outside ASCII, here `none`. -/
def verifyHmacSha256 (secret : String) (message : Bytes) (signature : String) : Option Bool :=
  let expected := builtins.hmacSha256 secret message
  let candidate := strip signature.toList
  let candidate := if '=' ∈ candidate then (candidate.dropWhile (· ≠ '=')).tail else candidate
  let candidate := (strip candidate).map lower
  if candidate.all isAscii then some (expected = candidate) else none

def base64Value (c : Char) : Option Nat :=
  if 'A' ≤ c ∧ c ≤ 'Z' then some (c.toNat - 'A'.toNat)
  else if 'a' ≤ c ∧ c ≤ 'z' then some (c.toNat - 'a'.toNat + 26)
  else if '0' ≤ c ∧ c ≤ '9' then some (c.toNat - '0'.toNat + 52)
  else if c = '+' then some 62
  else if c = '/' then some 63
  else none

/-- `binascii.a2b_base64` when it is not strict: `quad` characters of the
current four are read, `left` holds the bits that wait for the next one, and
characters outside the alphabet are skipped. -/
def a2bBase64 (quad left pads : Nat) : List Char → Option Bytes
  | [] => if quad = 0 then some [] else none
  | c :: rest =>
    if c = '=' then
      if 2 ≤ quad then
        if 4 ≤ quad + (pads + 1) then some [] else a2bBase64 quad left (pads + 1) rest
      else a2bBase64 quad left pads rest
    else match base64Value c with
      | none => a2bBase64 quad left pads rest
      | some v =>
        match quad with
        | 0 => a2bBase64 1 v 0 rest
        | 1 => (a2bBase64 2 (v % 16) 0 rest).map (.ofNat (left * 4 + v / 16) :: ·)
        | 2 => (a2bBase64 3 (v % 4) 0 rest).map (.ofNat (left * 16 + v / 4) :: ·)
        | _ => (a2bBase64 0 0 0 rest).map (.ofNat (left * 64 + v) :: ·)

/-- `base64.b64decode`. -/
def b64decode (text : String) : Option Bytes :=
  if text.toList.all isAscii then a2bBase64 0 0 0 text.toList else none

def verifyEd25519 (publicKeyB64 : String) (message : Bytes) (signatureB64 : String) : Bool :=
  match b64decode publicKeyB64, b64decode signatureB64 with
  | some key, some signature => key.length = 32 && builtins.ed25519 key message signature
  | _, _ => false

/-- A timestamp header, as Unix seconds or in ISO 8601. -/
def parseTimestamp (value : Option String) : Option Instant := do
  let value ← present value
  let stripped := strip value.toList
  builtins.fromTimestamp stripped <|>
    builtins.fromIsoFormat (stripped.flatMap fun c => if c = 'Z' then "+00:00".toList else [c])

/-- The window is checked in both directions. -/
def withinReplayWindow (timestamp : Option Instant) (now : Instant) (windowSeconds : Int) : Bool :=
  match timestamp with
  | none => false
  | some timestamp => |now - timestamp| ≤ windowSeconds * 1000000

end verification

end IntegrationOrchestrator
