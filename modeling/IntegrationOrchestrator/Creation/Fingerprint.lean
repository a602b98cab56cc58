import IntegrationOrchestrator.Creation.Idempotency
import IntegrationOrchestrator.Domain.Canonical
import IntegrationOrchestrator.Webhooks.Signatures

namespace IntegrationOrchestrator

open JsonWriter

/-- `hashlib.sha256(data).hexdigest()`. -/
structure Sha256 where
  hexdigest : Bytes → String
  length_hexdigest : ∀ data, (hexdigest data).length = 64

/-- No collision of the two. -/
def Sha256.Separates (hash : Sha256) (a b : Bytes) : Prop := hash.hexdigest a = hash.hexdigest b → a = b

/-- A canonical hash of a creation request. -/
@[ext] structure RequestFingerprint where
  value : String
  valid : value.length = 64

/-- The dictionary that is hashed. -/
def fingerprinted (provider : ProviderSlug) (operationType : String) (externalReference : ExternalReference)
    (payload : Payload) : Json :=
  .obj [("provider", .str provider.value), ("operation_type", .str operationType),
    ("external_reference", .str externalReference.value), ("payload", .obj payload)]

def RequestFingerprint.of (hash : Sha256) (floats : FloatText) (provider : ProviderSlug) (operationType : String)
    (externalReference : ExternalReference) (payload : Payload) : RequestFingerprint where
  value := hash.hexdigest
    (encode ((fingerprinted provider operationType externalReference payload).canonicalJson floats))
  valid := hash.length_hexdigest _

namespace CreateCommand

/-- What `execute` hashes for a command. -/
def hashed (command : CreateCommand) : Json :=
  fingerprinted command.provider command.operationType.value command.externalReference command.payload

/-- The fingerprint `execute` compares and stores. -/
def fingerprint (hash : Sha256) (floats : FloatText) (command : CreateCommand) : RequestFingerprint :=
  .of hash floats command.provider command.operationType.value command.externalReference command.payload

/-- Provider, operation type, external reference and payload agree. -/
def Agrees (a b : CreateCommand) : Prop :=
  a.provider = b.provider ∧ a.operationType = b.operationType ∧ a.externalReference = b.externalReference ∧
    (Json.obj a.payload).same (.obj b.payload) = true

end CreateCommand

/-- Creation with the fingerprints of the source. -/
def CreationSettings.hashing (core : Settings) (hash : Sha256) (floats : FloatText) : CreationSettings where
  core
  fingerprint command := (command.fingerprint hash floats).value

theorem encode_injective : Function.Injective encode := by
  intro a b same
  have bytes : a.toList.utf8Encode = b.toList.utf8Encode := congrArg List.toByteArray same
  rw [← String.toByteArray_ofList, ← String.toByteArray_ofList, String.toByteArray_inj] at bytes
  simpa using bytes

theorem canonicalJson_eq_iff {floats : FloatText} {a b : Json} (distinct : a.distinct = true)
    (distinct' : b.distinct = true) : a.canonicalJson floats = b.canonicalJson floats ↔ a.same b = true := by
  rw [← Json.canonical_eq_iff distinct distinct', Json.canonicalJson, Json.canonicalJson, String.ofList_inj,
    Doc.write_injective.eq_iff, Json.canonical, Json.canonical]

theorem ProviderSlug.value_injective : Function.Injective ProviderSlug.value := by
  rintro ⟨value, _⟩ ⟨value', _⟩ same
  cases same
  rfl

theorem ExternalReference.value_injective : Function.Injective ExternalReference.value := by
  rintro ⟨value, _⟩ ⟨value', _⟩ same
  cases same
  rfl

theorem OperationType.value_injective : Function.Injective OperationType.value := by
  intro a b same
  have members := congrArg (memberOf members value) same
  rwa [memberOf_value, memberOf_value, Option.some.injEq] at members

namespace CreateCommand

variable {a b : CreateCommand}

theorem hashed_distinct (distinct : (Json.obj a.payload).distinct = true) : a.hashed.distinct = true := by
  simp [hashed, fingerprinted, Json.distinct, Json.distinctFields] at distinct ⊢
  exact distinct

theorem hashed_same : a.hashed.same b.hashed = true ↔ a.Agrees b := by
  simp [hashed, fingerprinted, Json.same, Json.sameFields, Payload.get, Agrees, ProviderSlug.value_injective.eq_iff,
    OperationType.value_injective.eq_iff, ExternalReference.value_injective.eq_iff]

end CreateCommand

theorem fingerprint_eq_iff {hash : Sha256} {floats : FloatText} {a b : CreateCommand}
    (distinct : (Json.obj a.payload).distinct = true) (distinct' : (Json.obj b.payload).distinct = true)
    (separates : hash.Separates (encode (a.hashed.canonicalJson floats)) (encode (b.hashed.canonicalJson floats))) :
    a.fingerprint hash floats = b.fingerprint hash floats ↔ a.Agrees b := by
  rw [← CreateCommand.hashed_same, ← canonicalJson_eq_iff (CreateCommand.hashed_distinct distinct)
    (CreateCommand.hashed_distinct distinct')]
  constructor
  · intro same
    exact encode_injective (separates (congrArg RequestFingerprint.value same))
  · intro same
    have digests : (a.fingerprint hash floats).value = (b.fingerprint hash floats).value :=
      congrArg (fun text => hash.hexdigest (encode text)) same
    exact RequestFingerprint.ext digests

/-- A repeated idempotency key is replayed exactly for a command that agrees
with the one that was stored, and refused as a conflict for any other. -/
theorem matches_iff_agrees {core : Settings} {hash : Sha256} {floats : FloatText} {a b : CreateCommand}
    {record : IdempotencyRecord} (stored : record.fingerprint = (CreationSettings.hashing core hash floats).fingerprint a)
    (distinct : (Json.obj a.payload).distinct = true) (distinct' : (Json.obj b.payload).distinct = true)
    (separates : hash.Separates (encode (a.hashed.canonicalJson floats)) (encode (b.hashed.canonicalJson floats))) :
    record.matches ((CreationSettings.hashing core hash floats).fingerprint b) = true ↔ a.Agrees b := by
  rw [← fingerprint_eq_iff distinct distinct' separates, RequestFingerprint.ext_iff, IdempotencyRecord.matches, stored,
    decide_eq_true_eq]
  rfl

/-- Two values have one canonical text exactly if they are equal up to the
order of keys and the type of integral numbers. So two commands with payloads
that are dictionaries, whose texts SHA-256 does not confuse, have one
fingerprint exactly if provider, operation type, external reference and payload
agree. -/
theorem fingerprint_identifies (floats : FloatText) :
    (∀ a b : Json, a.distinct = true → b.distinct = true →
      (a.canonicalJson floats = b.canonicalJson floats ↔ a.same b = true)) ∧
    ∀ (hash : Sha256) (a b : CreateCommand), (Json.obj a.payload).distinct = true →
      (Json.obj b.payload).distinct = true →
      hash.Separates (encode (a.hashed.canonicalJson floats)) (encode (b.hashed.canonicalJson floats)) →
      (a.fingerprint hash floats = b.fingerprint hash floats ↔ a.Agrees b) :=
  ⟨fun _ _ distinct distinct' => canonicalJson_eq_iff distinct distinct',
    fun _ _ _ distinct distinct' separates => fingerprint_eq_iff distinct distinct' separates⟩

namespace Sample

/-- A fraction written with an `e` between its parts. -/
def fractionText (value : Rat) : List Char := (toString value.num).toList ++ 'e' :: (toString (value.den : Int)).toList

theorem fractionText_literal (value : Rat) : ∀ c ∈ fractionText value, isLiteral c = true := by
  intro c member
  simp only [fractionText, List.mem_append, List.mem_cons] at member
  rcases member with digit | rfl | digit
  · exact isLiteral_of_digit (intText_chars _ c digit)
  · rfl
  · exact isLiteral_of_digit (intText_chars _ c digit)

theorem no_e_in_intText (value : Int) : 'e' ∉ (toString value).toList := by
  intro member
  have digit := intText_chars value 'e' member
  revert digit
  decide

def floats : FloatText where
  render value := ⟨fractionText value, by simp [fractionText], fractionText_literal value⟩
  starts value c first := by
    have nonempty := intText_nonempty value.num
    refine intText_chars value.num c ?_
    cases spelled : (toString value.num).toList with
    | nil => exact absurd spelled nonempty
    | cons head tail =>
      simp only [fractionText, spelled, List.cons_append, List.head?_cons, Option.mem_some_iff] at first
      exact List.mem_cons.mpr (.inl first.symm)
  injective a b _ _ same := by
    have texts := congrArg Literal.text same
    obtain ⟨num, -, den⟩ := (List.append_cons_inj_of_notMem (no_e_in_intText _) (no_e_in_intText _)).mp texts
    have nums := Int.repr_injective (String.toList_inj.mp num)
    have dens := Int.repr_injective (String.toList_inj.mp den)
    exact Rat.ext nums (Int.ofNat_inj.mp dens)
  notInteger value _ integer same := by
    have texts : fractionText value = (toString integer).toList := congrArg Literal.text same
    have member : 'e' ∈ fractionText value := by simp [fractionText]
    rw [texts] at member
    exact no_e_in_intText integer member

/-- The first bytes, padded. -/
def hash : Sha256 where
  hexdigest data := String.ofList ((data.map fun byte => Char.ofNat byte.toNat).take 64 ++
    List.replicate (64 - data.length) '0')
  length_hexdigest data := by
    simp only [String.length_ofList, List.length_append, List.length_take, List.length_map, List.length_replicate]
    omega

/-- One creation as two clients write it. -/
def resized (payload : Payload) : CreateCommand := { first.toCreateCommand with payload }

def integral : CreateCommand := resized [("size", .int 1), ("zones", .arr [.str "a"])]

def floating : CreateCommand := resized [("zones", .arr [.str "a"]), ("size", .float 1)]

end Sample

theorem fingerprint_identifies_reordered :
    Sample.integral.fingerprint Sample.hash Sample.floats = Sample.floating.fingerprint Sample.hash Sample.floats := by
  have texts := ((fingerprint_identifies Sample.floats).1 Sample.integral.hashed Sample.floating.hashed
    (by decide +kernel) (by decide +kernel)).mpr (by decide +kernel)
  refine ((fingerprint_identifies Sample.floats).2 Sample.hash _ _ (by decide +kernel) (by decide +kernel) ?_).mpr ?_
  · intro _
    rw [texts]
  · exact ⟨rfl, rfl, rfl, by decide +kernel⟩

end IntegrationOrchestrator
