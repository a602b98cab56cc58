import IntegrationOrchestrator.Domain.Errors

namespace IntegrationOrchestrator

/-- `str.isspace` for one character. -/
def isSpace (c : Char) : Bool :=
  c.toNat ∈ [0x09, 0x0a, 0x0b, 0x0c, 0x0d, 0x1c, 0x1d, 0x1e, 0x1f, 0x20, 0x85, 0xa0, 0x1680,
    0x2000, 0x2001, 0x2002, 0x2003, 0x2004, 0x2005, 0x2006, 0x2007, 0x2008, 0x2009, 0x200a,
    0x2028, 0x2029, 0x202f, 0x205f, 0x3000]

/-- `str.strip`. -/
def strip (text : List Char) : List Char :=
  ((text.dropWhile isSpace).reverse.dropWhile isSpace).reverse

/-- `str.lower` on the characters whose lower case is an ASCII letter; the
Kelvin sign is the only one outside ASCII. No other character can be part of
a provider slug, in either case. -/
def lower (c : Char) : Char := if c.toNat = 0x212a then 'k' else c.toLower

/-- `^[a-z][a-z0-9_-]{1,39}$`, where `$` also matches before a final newline. -/
def isProviderSlug (text : List Char) : Bool :=
  let body := if text.getLast? = some '\n' then text.dropLast else text
  match body with
  | [] => false
  | first :: rest =>
    first.isLower && 1 ≤ rest.length && rest.length ≤ 39 &&
      rest.all fun c => c.isLower || c.isDigit || c = '_' || c = '-'

/-- Stable identifier for a provider. -/
structure ProviderSlug where
  value : String
  valid : isProviderSlug value.toList = true
  deriving DecidableEq

def ProviderSlug.new (value : String) : Except Exn ProviderSlug :=
  if valid : isProviderSlug value.toList = true then .ok ⟨value, valid⟩
  else .error (.validation ("a provider slug must be lowercase alphanumeric with dashes or " ++
    "underscores, 2 to 40 characters"))

theorem ProviderSlug.new_value (provider : ProviderSlug) : ProviderSlug.new provider.value = .ok provider := by
  simp [ProviderSlug.new, provider.valid]

/-- Normalize and validate caller-supplied provider identity. -/
def ProviderSlug.parse (value : String) : Except Exn ProviderSlug :=
  if strip value.toList = [] then .error (.validation "a provider must be supplied")
  else ProviderSlug.new (String.ofList ((strip value.toList).map lower))

/-- Identifier threaded through every log line, span, event and audit row. -/
structure CorrelationId where
  value : String
  valid : value ≠ "" ∧ value.length ≤ 128
  deriving DecidableEq

def CorrelationId.new (value : String) : Except Exn CorrelationId :=
  if valid : value ≠ "" ∧ value.length ≤ 128 then .ok ⟨value, valid⟩
  else .error (.validation "a correlation id must be 1 to 128 characters")

theorem CorrelationId.new_value (correlationId : CorrelationId) :
    CorrelationId.new correlationId.value = .ok correlationId := by
  simp [CorrelationId.new, correlationId.valid]

/-- `uuid.hex`: 32 hexadecimal digits. -/
def hex (id : UUID) : List Char :=
  ((List.replicate 32 '0' ++ Nat.toDigits 16 id).reverse.take 32).reverse

/-- `str(uuid)`. -/
def uuidText (id : UUID) : String :=
  let digits := hex id
  String.ofList (digits.take 8 ++ '-' :: (digits.drop 8).take 4 ++ '-' :: (digits.drop 12).take 4 ++
    '-' :: (digits.drop 16).take 4 ++ '-' :: digits.drop 20)

theorem length_hex (id : UUID) : (hex id).length = 32 := by
  rw [hex, List.length_reverse, List.length_take, List.length_reverse, List.length_append, List.length_replicate]
  omega

theorem length_uuidText (id : UUID) : (uuidText id).length = 36 := by
  simp only [uuidText, String.length_ofList, List.length_append, List.length_cons, List.length_take,
    List.length_drop, length_hex]
  rfl

def CorrelationId.generate (id : UUID) : CorrelationId :=
  { value := uuidText id
    valid := by
      refine ⟨fun empty => ?_, (length_uuidText id).le.trans (by decide)⟩
      have length := length_uuidText id
      rw [empty] at length
      exact absurd length (by decide) }

/-- Accept an inbound correlation id, or mint one when it is blank. -/
def CorrelationId.parse (minted : UUID) (value : String) : Except Exn CorrelationId :=
  if strip value.toList = [] then CorrelationId.new (uuidText minted)
  else CorrelationId.new (String.ofList ((strip value.toList).take 128))

/-- The caller's own identifier for whatever a request is about. -/
structure ExternalReference where
  value : String
  valid : strip value.toList ≠ [] ∧ value.length ≤ 255
  deriving DecidableEq

def ExternalReference.new (value : String) : Except Exn ExternalReference :=
  if strip value.toList = [] then .error (.validation "an external reference must not be empty")
  else if valid : strip value.toList ≠ [] ∧ value.length ≤ 255 then .ok ⟨value, valid⟩
  else .error (.validation "an external reference must be at most 255 characters")

theorem ExternalReference.new_value (reference : ExternalReference) :
    ExternalReference.new reference.value = .ok reference := by
  simp [ExternalReference.new, reference.valid]

namespace Sample

def provider : ProviderSlug := ⟨"northstar", by decide⟩

def correlationId : CorrelationId := ⟨"sample", by decide⟩

def reference : ExternalReference := ⟨"sample", by decide⟩

def order : ExternalReference := ⟨"order-1", by decide⟩

end Sample

end IntegrationOrchestrator
