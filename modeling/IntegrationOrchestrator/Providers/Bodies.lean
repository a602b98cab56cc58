import IntegrationOrchestrator.Domain.Contracts
import IntegrationOrchestrator.Webhooks.Signatures

namespace IntegrationOrchestrator

/-- What `json.loads` makes of a body. A number of more than 4300 digits is
refused with a plain `ValueError`, too deep a nesting with a `RecursionError`. -/
inductive Loaded where
  | malformed
  | tooManyDigits
  | tooDeep
  | value (json : Json)

/-- What the adapters take from the interpreter. -/
structure Interpreter where
  loads : Bytes → Loaded
  str : Json → String

/-- `dict.get(key)`, `None` when the key is not there. -/
def Payload.value (payload : Payload) (key : String) : Json := (payload.get key).getD .null

/-- `_first_present`: the first of some alternative spellings. -/
def Payload.firstPresent (body : Payload) : List String → Json
  | [] => .null
  | key :: rest => match body.value key with
    | .null => body.firstPresent rest
    | found => found

/-- `isinstance(value, dict)`. -/
def Json.isDict : Json → Bool
  | .obj _ => true
  | _ => false

/-- `value if isinstance(value, dict) else {}`. -/
def Json.dictionary : Json → Payload
  | .obj fields => fields
  | _ => []

/-- `_optional_str` and `_as_str`. -/
def Interpreter.asStr (python : Interpreter) : Json → Option String
  | .null => none
  | value => some (python.str value)

/-- `_map_status` of a text. -/
def mapStatus (raw : Option String) (mapping : List (String × NormalizedStatus)) : NormalizedStatus :=
  match raw with
  | none => .unknown
  | some raw => (mapping.lookup (lowerText (String.ofList (strip raw.toList)))).getD .unknown

/-- `_map_status` of a field as it stands in the body; `none` when it is no
text, which has no `strip`. -/
def mapField (raw : Json) (mapping : List (String × NormalizedStatus)) : Option NormalizedStatus :=
  match raw with
  | .null => some (mapStatus none mapping)
  | .str raw => some (mapStatus (some raw) mapping)
  | _ => none

/-- The field can be mapped. -/
def Json.isStatus : Json → Bool
  | .null | .str _ => true
  | _ => false

theorem mapField_isSome (raw : Json) (mapping : List (String × NormalizedStatus)) :
    (mapField raw mapping).isSome = raw.isStatus := by
  cases raw <;> rfl

def Northstar.statusMap : List (String × NormalizedStatus) :=
  [("queued", .accepted), ("accepted", .accepted), ("running", .pending), ("in_progress", .pending),
    ("complete", .succeeded), ("completed", .succeeded), ("error", .failed), ("failed", .failed)]

def Meridian.statusMap : List (String × NormalizedStatus) :=
  [("received", .accepted), ("processing", .pending), ("pending", .pending), ("fulfilled", .succeeded),
    ("success", .succeeded), ("rejected", .failed), ("failure", .failed), ("cancelled", .cancelled)]

def Cobalt.statusMap : List (String × NormalizedStatus) :=
  [("accepted", .accepted), ("scheduled", .accepted), ("executing", .pending), ("succeeded", .succeeded),
    ("failed", .failed), ("cancelled", .cancelled), ("canceled", .cancelled)]

/-- The error of an operation that the provider says has failed. -/
def reportedFailure (message : String) (providerCode : Option String) : ProviderErrorInfo :=
  { code := "provider_reported_failure", message := message, category := .providerValidation, retryable := false
    providerCode := providerCode }

def Meridian.failure (python : Interpreter) (body : Payload) : ProviderErrorInfo :=
  let reason := body.firstPresent ["reason", "failureReason", "message"]
  reportedFailure (python.str (if reason.truth then reason else .str "Meridian reported the request was rejected"))
    (python.asStr (body.firstPresent ["reasonCode", "errorCode"]))

/-- From the job, or the answer about it. -/
def Cobalt.failure (python : Interpreter) (job : Payload) : ProviderErrorInfo :=
  let failure := (job.value "failure").dictionary
  reportedFailure (python.str ((failure.get "message").getD (.str "Cobalt reported the job failed")))
    (python.asStr (failure.value "code"))

end IntegrationOrchestrator
