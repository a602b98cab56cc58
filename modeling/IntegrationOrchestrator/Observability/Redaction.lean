import IntegrationOrchestrator.Domain.JsonEquality
import IntegrationOrchestrator.Domain.ValueObjects

namespace IntegrationOrchestrator

/-- `REDACTED`. -/
def redactedText : String := "[redacted]"

/-- `_SENSITIVE_KEY_FRAGMENTS`. -/
def sensitiveKeyFragments : List String :=
  ["password", "passwd", "secret", "token", "apikey", "api_key", "authorization", "auth", "credential", "signature",
    "privatekey", "private_key", "sessionid", "cookie", "ssn", "taxid", "cardnumber", "cvv", "iban", "accountnumber",
    "email", "phone", "address", "dateofbirth", "date_of_birth"]

/-- `_ALLOWED_KEYS`. -/
def allowedKeys : List String :=
  ["authtype", "auth_type", "authenticationtype", "authentication_type", "tokentype", "token_type", "hasapikey",
    "signaturescheme", "signature_scheme", "emaildomain"]

def maxDepth : Nat := 6

def maxSequenceItems : Nat := 50

def maxStringLength : Nat := 512

/-- `str.lower`, as far as a lowercase ASCII letter can come of it. The dotted
capital I is the one character that gives more than a letter; what it adds is
not alphanumeric. -/
def lowerKeyChar (c : Char) : Char := if c.toNat = 0x130 then 'i' else lower c

/-- The key in lower case without what `_NON_ALNUM` matches. -/
def normalisedKey (key : String) : List Char :=
  (key.toList.map lowerKeyChar).filter fun c => c.isLower || c.isDigit

def isSensitiveKey (key : String) : Bool :=
  let normalised := normalisedKey key
  if String.ofList normalised ∈ allowedKeys then false
  else if allowedKeys.any (fun allowed => allowed == String.ofList normalised) then false
  else sensitiveKeyFragments.any fun fragment => decide (fragment.toList.filter (· ≠ '_') <:+: normalised)

/-- `_summarise`. -/
def summarise : Json → Json
  | .obj fields => .str ("[dict with " ++ toString fields.length ++ " keys]")
  | .arr items => .str ("[sequence with " ++ toString items.length ++ " items]")
  | _ => .str "[truncated]"

/-- The note behind a sequence that was cut. -/
def omittedItems (length : Nat) : List Json :=
  if maxSequenceItems < length then [.str ("[" ++ toString (length - maxSequenceItems) ++ " more items omitted]")]
  else []

def truncatedText (value : String) : String :=
  if maxStringLength < value.length then String.ofList (value.toList.take maxStringLength) ++ "...[truncated]" else value

mutual

def redact : Nat → Json → Json
  | depth, .obj fields => if maxDepth ≤ depth then summarise (.obj fields) else .obj (redactFields (depth + 1) fields)
  | depth, .arr items =>
    if maxDepth ≤ depth then summarise (.arr items)
    else .arr (redactItems (depth + 1) maxSequenceItems items ++ omittedItems items.length)
  | depth, .str value => if maxDepth ≤ depth then summarise (.str value) else .str (truncatedText value)
  | depth, value => if maxDepth ≤ depth then summarise value else value

/-- The items up to the length that is kept. -/
def redactItems : Nat → Nat → List Json → List Json
  | _, _, [] => []
  | _, 0, _ :: _ => []
  | depth, left + 1, item :: rest => redact depth item :: redactItems depth left rest

def redactFields : Nat → List (String × Json) → List (String × Json)
  | _, [] => []
  | depth, (key, item) :: rest =>
    (key, if isSensitiveKey key then .str redactedText else redact depth item) :: redactFields depth rest

end

namespace Json

mutual

/-- The value with nothing left under the hidden keys, at any depth. -/
def blanked (hidden : String → Bool) : Json → Json
  | .arr items => .arr (blankedItems hidden items)
  | .obj fields => .obj (blankedFields hidden fields)
  | value => value

def blankedItems (hidden : String → Bool) : List Json → List Json
  | [] => []
  | item :: rest => item.blanked hidden :: blankedItems hidden rest

def blankedFields (hidden : String → Bool) : List (String × Json) → List (String × Json)
  | [] => []
  | (key, item) :: rest => (key, if hidden key then .null else item.blanked hidden) :: blankedFields hidden rest

end

theorem blankedItems_eq (hidden : String → Bool) (items : List Json) :
    blankedItems hidden items = items.map (blanked hidden) := by
  induction items with
  | nil => rfl
  | cons item rest ih => rw [blankedItems, ih, List.map_cons]

theorem blankedFields_eq (hidden : String → Bool) (fields : List (String × Json)) :
    blankedFields hidden fields =
      fields.map fun field => (field.1, if hidden field.1 then .null else field.2.blanked hidden) := by
  induction fields with
  | nil => rfl
  | cons field rest ih => rw [blankedFields, ih, List.map_cons]

end Json

variable {depth : Nat} {a b : Json}

theorem redactItems_eq (depth left : Nat) (items : List Json) :
    redactItems depth left items = (items.take left).map (redact depth) := by
  induction items generalizing left with
  | nil => simp [redactItems]
  | cons item rest ih => cases left <;> simp [redactItems, ih]

theorem redactFields_eq (depth : Nat) (fields : List (String × Json)) :
    redactFields depth fields =
      fields.map fun field => (field.1, if isSensitiveKey field.1 then .str redactedText else redact depth field.2) := by
  induction fields with
  | nil => rfl
  | cons field rest ih => rw [redactFields, ih, List.map_cons]

/-- What is under a sensitive key may as well be missing. -/
theorem redact_blanked (depth : Nat) (a : Json) : redact depth (a.blanked isSensitiveKey) = redact depth a := by
  induction a using Json.induct generalizing depth with
  | null | bool _ | int _ | float _ | str _ => rfl
  | arr items ih =>
    have same : ((items.map (Json.blanked isSensitiveKey)).take maxSequenceItems).map (redact (depth + 1)) =
        (items.take maxSequenceItems).map (redact (depth + 1)) := by
      rw [← List.map_take, List.map_map]
      exact List.map_congr_left fun item member => ih item (List.mem_of_mem_take member) (depth + 1)
    simp only [Json.blanked, Json.blankedItems_eq, redact, summarise, redactItems_eq, List.length_map, same]
  | obj fields ih =>
    have same : (fields.map fun field => (field.1, if isSensitiveKey field.1 then Json.str redactedText
        else redact (depth + 1) (if isSensitiveKey field.1 then .null else field.2.blanked isSensitiveKey))) =
        fields.map fun field =>
          (field.1, if isSensitiveKey field.1 then .str redactedText else redact (depth + 1) field.2) := by
      refine List.map_congr_left fun field member => ?_
      cases isSensitiveKey field.1 with
      | true => rfl
      | false => simp [ih field member (depth + 1)]
    simp only [Json.blanked, Json.blankedFields_eq, redact, summarise, redactFields_eq, List.length_map, List.map_map,
      Function.comp_def, same]

@[simp] theorem Json.same_str (text : String) : (Json.str text).same (.str text) = true := by
  simp [Json.same]

theorem redact_number {value : Rat} (number : a.number? = some value) :
    redact depth a = if maxDepth ≤ depth then .str "[truncated]" else a := by
  cases a with
  | int n => rfl
  | float q => rfl
  | _ => cases number

theorem redact_same_number {value : Rat} (number : a.number? = some value) (number' : b.number? = some value) :
    (redact depth a).same (redact depth b) = true := by
  rw [redact_number number, redact_number number']
  split
  · exact Json.same_str _
  · cases a with
    | int n => exact beq_iff_eq.mpr (number'.trans number.symm)
    | float q => exact beq_iff_eq.mpr (number'.trans number.symm)
    | _ => cases number

theorem get_redactFields (depth : Nat) (fields : Payload) (key : String) :
    Payload.get (redactFields depth fields) key =
      (Payload.get fields key).map fun item => if isSensitiveKey key then .str redactedText else redact depth item := by
  induction fields with
  | nil => rfl
  | cons field rest ih =>
    obtain ⟨name, item⟩ := field
    rw [redactFields, Payload.get_cons, Payload.get_cons, ih]
    by_cases found : name = key
    · simp [found]
    · simp [found]

/-- Equal values have equal redactions. -/
theorem redact_same (same : a.same b = true) : (redact depth a).same (redact depth b) = true := by
  induction a using Json.induct generalizing b depth with
  | null =>
    cases b with
    | null => unfold redact; split <;> rfl
    | _ => cases same
  | bool value =>
    cases b with
    | bool value' =>
      cases beq_iff_eq.mp same
      unfold redact
      split <;> simp [summarise, Json.same]
    | _ => cases same
  | int value => exact redact_same_number rfl (beq_iff_eq.mp same)
  | float value => exact redact_same_number rfl (beq_iff_eq.mp same)
  | str value =>
    cases b with
    | str value' =>
      cases beq_iff_eq.mp same
      unfold redact
      split <;> exact Json.same_str _
    | _ => cases same
  | arr items ih =>
    obtain ⟨items', rfl, pairs⟩ := Json.same_arr.mp same
    have lengths := pairs.length_eq
    unfold redact
    split
    · rw [summarise, summarise, lengths]
      exact Json.same_str _
    · have redacted : List.Forall₂ (fun item item' => (redact (depth + 1) item).same (redact (depth + 1) item') = true)
          items items' := by
        rw [List.forall₂_iff_zip] at pairs ⊢
        exact ⟨pairs.1, fun pair => ih _ (List.of_mem_zip pair).1 (pairs.2 pair)⟩
      have kept := List.forall₂_take maxSequenceItems redacted
      rw [Json.same_arr, lengths, redactItems_eq, redactItems_eq]
      refine ⟨_, rfl, List.rel_append (List.forall₂_map_left_iff.mpr (List.forall₂_map_right_iff.mpr kept)) ?_⟩
      unfold omittedItems
      split
      · exact .cons (Json.same_str _) .nil
      · exact .nil
  | obj fields ih =>
    obtain ⟨fields', rfl, lengths, each⟩ := Json.same_obj.mp same
    unfold redact
    split
    · rw [summarise, summarise, lengths]
      exact Json.same_str _
    · rw [Json.same_obj]
      refine ⟨_, rfl, by simp [redactFields_eq, lengths], ?_⟩
      intro field member
      rw [redactFields_eq] at member
      obtain ⟨old, inside, rfl⟩ := List.mem_map.mp member
      obtain ⟨b, found, alike⟩ := each old inside
      refine ⟨_, by rw [get_redactFields, found]; rfl, ?_⟩
      split
      · exact Json.same_str _
      · exact ih old inside alike

/-- Two values that are equal outside the sensitive keys are redacted to one
value, at any depth. If they are equal there up to the order of keys and the
type of integral numbers, so are their redactions. -/
theorem redact_hides_sensitive (depth : Nat) (a b : Json) :
    (a.blanked isSensitiveKey = b.blanked isSensitiveKey → redact depth a = redact depth b) ∧
    ((a.blanked isSensitiveKey).same (b.blanked isSensitiveKey) = true →
      (redact depth a).same (redact depth b) = true) := by
  constructor
  · intro equal
    rw [← redact_blanked depth a, equal, redact_blanked]
  · intro same
    rw [← redact_blanked depth a, ← redact_blanked depth b]
    exact redact_same same

namespace Sample

/-- A payload with a credential. -/
def account (credential : Json) : Json :=
  .obj [("account", .obj [("api_key", credential), ("region", .str "eu")]), ("size", .int 1)]

theorem account_blanked (credential : Json) :
    (account credential).blanked isSensitiveKey = (account .null).blanked isSensitiveKey := by
  have sensitive : isSensitiveKey "api_key" = true := by decide +kernel
  simp [account, Json.blanked, Json.blankedFields, sensitive]

end Sample

/-- The same payload with its keys in another order and a float for the size. -/
def Sample.accountFloating : Json :=
  .obj [("size", .float 1), ("account", .obj [("region", .str "eu"), ("api_key", .null)])]

theorem redact_hides_credential :
    redact 0 (Sample.account (.str "k-1")) = redact 0 (Sample.account (.arr [.int 1, .int 2])) ∧
    (redact 0 (Sample.account (.str "k-1"))).same (redact 0 Sample.accountFloating) = true := by
  refine ⟨(redact_hides_sensitive 0 _ _).1 ?_, (redact_hides_sensitive 0 _ _).2 ?_⟩
  · exact (Sample.account_blanked _).trans (Sample.account_blanked _).symm
  · decide +kernel

end IntegrationOrchestrator
