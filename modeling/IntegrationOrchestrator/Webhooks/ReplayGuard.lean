import IntegrationOrchestrator.Webhooks.Adapters

namespace IntegrationOrchestrator

/-- `_SIGNATURE_HEADERS`, in the order they are looked up, whoever sent the
webhook. -/
def signatureHeaders : List String := [Adapter.northstar, .meridian, .cobalt].map Adapter.signatureHeader

/-- The first known provider signature header that is not empty. -/
def extractSignatureHeader (headers : List (String × String)) : Option String :=
  -- of two headers that differ in case only, a dictionary keeps the later
  let lowered := (headers.map fun header => (lowerText header.1, header.2)).reverse
  signatureHeaders.findSome? fun name => present (lowered.lookup name)

structure ReplayGuardSettings where
  ttlSeconds : Int
  valid : 60 ≤ ttlSeconds

/-- One call of `claim`, and whether Redis answers it. -/
structure GuardClaim where
  provider : ProviderSlug
  signature : String
  time : Instant
  reachable : Bool

section guard

variable {Digest : Type} [DecidableEq Digest] (builtins : Builtins Digest) (settings : ReplayGuardSettings)

/-- The keys Redis holds, and when each expires. -/
abbrev GuardStore (Digest : Type) := List ((ProviderSlug × Digest) × Instant)

def GuardClaim.key (claim : GuardClaim) : ProviderSlug × Digest :=
  (claim.provider, builtins.digest claim.signature)

def GuardClaim.expiresAt (claim : GuardClaim) : Instant := claim.time + settings.ttlSeconds * 1000000

/-- `SET key 1 NX PX ttl`; when Redis cannot be reached the guard lets the
webhook pass. -/
def GuardStore.claim (store : GuardStore Digest) (claim : GuardClaim) : Bool × GuardStore Digest :=
  if claim.reachable then
    if store.any fun entry => entry.1 = claim.key builtins ∧ claim.time < entry.2 then (false, store)
    else (true, (claim.key builtins, claim.expiresAt settings) ::
      store.filter fun entry => entry.1 ≠ claim.key builtins)
  else (true, store)

/-- The store after some claims. -/
def GuardStore.afterClaims (store : GuardStore Digest) (claims : List GuardClaim) : GuardStore Digest :=
  claims.foldl (fun store claim => (store.claim builtins settings claim).2) store

/-- The digest a webhook claims. -/
def claimedDigest (webhook : InboundWebhook) : Option Digest :=
  (extractSignatureHeader webhook.headers).map builtins.digest

/-- The claim a webhook makes. -/
def GuardClaim.MadeBy (webhook : InboundWebhook) (claim : GuardClaim) : Prop :=
  claim.provider = webhook.provider ∧ extractSignatureHeader webhook.headers = some claim.signature

/-- Of the claims of two webhooks within the time to live, both answered by
Redis, at most one passes, whatever other claims come before and between. -/
def AtMostOnePasses (webhook webhook' : InboundWebhook) : Prop :=
  ∀ (store : GuardStore Digest) (first second : GuardClaim) (between : List GuardClaim),
    first.MadeBy webhook → second.MadeBy webhook' → first.reachable → second.reachable →
    first.time ≤ second.time → second.time < first.expiresAt settings →
    (∀ claim ∈ between, claim.time < first.expiresAt settings) →
    ¬ ((store.claim builtins settings first).1 ∧
      (((store.claim builtins settings first).2.afterClaims builtins settings between).claim builtins
        settings second).1)

variable {builtins} {settings} {store : GuardStore Digest} {claim : GuardClaim}

theorem claim_refused (reachable : claim.reachable) {expiry : Instant}
    (held : (claim.key builtins, expiry) ∈ store) (live : claim.time < expiry) :
    store.claim builtins settings claim = (false, store) := by
  have taken : store.any fun entry => entry.1 = claim.key builtins ∧ claim.time < entry.2 :=
    List.any_eq_true.mpr ⟨_, held, by simpa using live⟩
  rw [GuardStore.claim, if_pos reachable, if_pos taken]

theorem claim_sets (reachable : claim.reachable) (passed : (store.claim builtins settings claim).1) :
    (claim.key builtins, claim.expiresAt settings) ∈ (store.claim builtins settings claim).2 := by
  rw [GuardStore.claim, if_pos reachable] at passed ⊢
  split
  · rename_i taken
    rw [if_pos taken] at passed
    cases passed
  · simp

/-- A key stays until it expires. -/
theorem claim_keeps {entry : (ProviderSlug × Digest) × Instant} (held : entry ∈ store)
    (live : claim.time < entry.2) : entry ∈ (store.claim builtins settings claim).2 := by
  by_cases reachable : claim.reachable
  · by_cases same : entry.1 = claim.key builtins
    · have held' : (claim.key builtins, entry.2) ∈ store := same ▸ held
      rw [claim_refused reachable held' live]
      exact held
    · rw [GuardStore.claim, if_pos reachable]
      split
      · exact held
      · simp [held, same]
  · rw [GuardStore.claim, if_neg reachable]
    exact held

theorem afterClaims_keeps {entry : (ProviderSlug × Digest) × Instant} {claims : List GuardClaim}
    (held : entry ∈ store) (live : ∀ claim ∈ claims, claim.time < entry.2) :
    entry ∈ store.afterClaims builtins settings claims := by
  induction claims generalizing store with
  | nil => exact held
  | cons claim rest ih =>
    have kept : entry ∈ (store.claim builtins settings claim).2 := claim_keeps held (live claim (by simp))
    exact ih kept fun later member => live later (by simp [member])

theorem claim_new (reachable : claim.reachable) (fresh : ∀ entry ∈ store, entry.1 ≠ claim.key builtins) :
    (store.claim builtins settings claim).1 := by
  have free : ¬ store.any fun entry => entry.1 = claim.key builtins ∧ claim.time < entry.2 := by
    intro taken
    obtain ⟨entry, member, same⟩ := List.any_eq_true.mp taken
    simp only [decide_eq_true_eq] at same
    exact fresh entry member same.1
  rw [GuardStore.claim, if_pos reachable, if_neg free]

/-- The guard tells strings apart, not signatures. -/
theorem atMostOnePasses_iff {webhook webhook' : InboundWebhook} {signature signature' : String}
    (oneProvider : webhook.provider = webhook'.provider)
    (found : extractSignatureHeader webhook.headers = some signature)
    (found' : extractSignatureHeader webhook'.headers = some signature') :
    AtMostOnePasses builtins settings webhook webhook' ↔ signature = signature' := by
  constructor
  · intro atMostOne
    by_contra different
    let first : GuardClaim := ⟨webhook.provider, signature, 0, true⟩
    let second : GuardClaim := ⟨webhook'.provider, signature', 0, true⟩
    have positive : (0 : Int) < first.expiresAt settings := by
      have valid := settings.valid
      show (0 : Int) < 0 + settings.ttlSeconds * 1000000
      omega
    refine atMostOne [] first second [] ⟨rfl, found⟩ ⟨rfl, found'⟩ rfl rfl le_rfl positive nofun ⟨?_, ?_⟩
    · exact claim_new rfl nofun
    · refine claim_new rfl fun entry member same => different ?_
      have set : entry = (first.key builtins, first.expiresAt settings) := by
        simpa [GuardStore.afterClaims, GuardStore.claim, first] using member
      rw [set] at same
      exact builtins.digest_injective (Prod.mk.inj same).2
  · rintro rfl store first second between ⟨ofFirst, by₁⟩ ⟨ofSecond, by₂⟩ reached reached' - within early
    rintro ⟨passed, passed'⟩
    have same : second.key builtins = first.key builtins := by
      have sign := Option.some.inj (by₁.symm.trans (found.trans (found'.symm.trans by₂)))
      rw [GuardClaim.key, GuardClaim.key, ofFirst, ofSecond, sign, oneProvider]
    have held : (first.key builtins, first.expiresAt settings) ∈
        (store.claim builtins settings first).2.afterClaims builtins settings between :=
      afterClaims_keeps (claim_sets reached passed) early
    rw [claim_refused reached' (same ▸ held) within] at passed'
    cases passed'

end guard

section headers

theorem lookup_eq_some_iff_mem {entries : List (String × String)} (distinct : (entries.map Prod.fst).Nodup)
    {name value : String} : entries.lookup name = some value ↔ (name, value) ∈ entries := by
  induction entries with
  | nil => simp
  | cons entry rest ih =>
    obtain ⟨key, text⟩ := entry
    rw [List.map_cons, List.nodup_cons] at distinct
    rw [List.lookup_cons]
    by_cases same : name = key
    · subst same
      have notLater : (name, value) ∉ rest := fun member =>
        distinct.1 (List.mem_map.mpr ⟨_, member, rfl⟩)
      simp [notLater, eq_comm]
    · have other : (name == key) = false := by simpa using same
      simp [other, same, ih distinct.2]

theorem lookup_reverse {entries : List (String × String)} (distinct : (entries.map Prod.fst).Nodup)
    (name : String) : entries.reverse.lookup name = entries.lookup name := by
  have distinct' : (entries.reverse.map Prod.fst).Nodup := by
    rw [List.map_reverse, List.nodup_reverse]
    exact distinct
  ext value
  rw [lookup_eq_some_iff_mem distinct, lookup_eq_some_iff_mem distinct', List.mem_reverse]

theorem extractSignatureHeader_eq (webhook : InboundWebhook) :
    extractSignatureHeader webhook.headers =
      signatureHeaders.findSome? fun name => present (webhook.headers.lookup name) := by
  have same : (webhook.headers.map fun header => (lowerText header.1, header.2)) = webhook.headers := by
    conv_rhs => rw [← List.map_id webhook.headers]
    refine List.map_congr_left fun header member => ?_
    rw [webhook.lowered header member]
    rfl
  simp only [extractSignatureHeader, same, lookup_reverse webhook.distinct]

/-- A verified webhook has a signature for the guard. -/
theorem extractSignatureHeader_verified {Digest : Type} {builtins : Builtins Digest} {config : WebhookConfig}
    {webhook : InboundWebhook} {adapter : Adapter} {verification : WebhookVerification}
    (validated : validateWebhook builtins config webhook adapter = some verification)
    (verified : verification.verified) : ∃ signature, extractSignatureHeader webhook.headers = some signature := by
  have lowercase : lowerText adapter.signatureHeader = adapter.signatureHeader := by cases adapter <;> decide
  have named : (present (webhook.headers.lookup adapter.signatureHeader)).isSome := by
    by_contra missing
    have absent : present (webhook.header adapter.signatureHeader) = none := by
      rw [InboundWebhook.header, lowercase]
      simpa using missing
    cases adapter <;>
      simp only [validateWebhook, Northstar.validateWebhook, Meridian.validateWebhook,
        Cobalt.validateWebhook, absent, Option.some.injEq] at validated <;>
      subst validated <;> cases verified
  rw [← Option.isSome_iff_exists, extractSignatureHeader_eq, List.findSome?_isSome_iff]
  exact ⟨adapter.signatureHeader, by cases adapter <;> decide, named⟩

end headers

section respelling

variable {Digest : Type} {builtins : Builtins Digest} {secret : String} {message : Bytes}

theorem dropWhile_all_false {p : Char → Bool} {text : List Char} (none : ∀ c ∈ text, p c = false) :
    text.dropWhile p = text := by
  cases text with
  | nil => rfl
  | cons c rest => rw [List.dropWhile_cons_of_neg (by simp [none c])]

theorem strip_solid {text : List Char} (solid : ∀ c ∈ text, isSpace c = false) : strip text = text := by
  rw [strip, dropWhile_all_false solid, dropWhile_all_false fun c member => solid c (List.mem_reverse.mp member),
    List.reverse_reverse]

theorem hex_solid : ∀ c ∈ "0123456789abcdef".toList, isSpace c = false ∧ c ≠ '=' ∧ lower c = c ∧ isAscii c := by
  simp [isSpace, lower, isAscii]

/-- The signature is accepted as the provider computes it, and behind the name
of the algorithm. -/
theorem verifyHmacSha256_spelled {mark : List Char} (known : mark = [] ∨ mark = "sha256=".toList) :
    verifyHmacSha256 builtins secret message (String.ofList (mark ++ builtins.hmacSha256 secret message)) =
      some true := by
  have hex := fun c member => hex_solid c (builtins.hmac_hex secret message c member)
  have solid : ∀ c ∈ mark ++ builtins.hmacSha256 secret message, isSpace c = false := by
    intro c member
    rcases List.mem_append.mp member with marked | digit
    · have blank : ∀ c ∈ "sha256=".toList, isSpace c = false := by simp [isSpace]
      rcases known with rfl | rfl
      · cases marked
      · exact blank c marked
    · exact (hex c digit).1
  have noMark : '=' ∉ builtins.hmacSha256 secret message := fun member => (hex _ member).2.1 rfl
  have lowers : (builtins.hmacSha256 secret message).map lower = builtins.hmacSha256 secret message := by
    conv_rhs => rw [← List.map_id (builtins.hmacSha256 secret message)]
    exact List.map_congr_left fun c member => (hex c member).2.2.1
  have ascii : (builtins.hmacSha256 secret message).all isAscii :=
    List.all_eq_true.mpr fun c member => (hex c member).2.2.2
  have candidate : (if '=' ∈ mark ++ builtins.hmacSha256 secret message
        then ((mark ++ builtins.hmacSha256 secret message).dropWhile (· ≠ '=')).tail
        else mark ++ builtins.hmacSha256 secret message) = builtins.hmacSha256 secret message := by
    rcases known with rfl | rfl
    · rw [List.nil_append, if_neg noMark]
    · rw [if_pos (List.mem_append_left _ (by decide))]
      rfl
  simp only [verifyHmacSha256, String.toList_ofList, strip_solid solid, candidate,
    strip_solid fun c member => (hex c member).1, lowers, ascii, if_true, decide_true]

/-- The delivery of a body to Meridian, its signature spelled so. -/
def Sample.meridian (provider : ProviderSlug) (receivedAt : Instant) (body : Bytes) (signature : String) :
    InboundWebhook where
  provider := provider
  headers := [(Adapter.meridian.signatureHeader, signature)]
  body := body
  receivedAt := receivedAt
  distinct := by simp
  lowered := by
    intro header member
    cases List.mem_singleton.mp member
    show lowerText Adapter.meridian.signatureHeader = Adapter.meridian.signatureHeader
    decide

@[simp]
theorem Sample.meridian_body {provider : ProviderSlug} {receivedAt : Instant} {body : Bytes}
    {signature : String} : (Sample.meridian provider receivedAt body signature).body = body := rfl

theorem Sample.meridian_signature {provider : ProviderSlug} {receivedAt : Instant} {body : Bytes}
    {signature : String} (nonempty : signature ≠ "") :
    present ((Sample.meridian provider receivedAt body signature).header Adapter.meridian.signatureHeader) =
      some signature := by
  have lowercase : lowerText Adapter.meridian.signatureHeader = Adapter.meridian.signatureHeader := by decide
  simp [InboundWebhook.header, lowercase, Sample.meridian, present, nonempty]

theorem Sample.meridian_extract {provider : ProviderSlug} {receivedAt : Instant} {body : Bytes}
    {signature : String} (nonempty : signature ≠ "") :
    extractSignatureHeader (Sample.meridian provider receivedAt body signature).headers = some signature := by
  have first : Adapter.northstar.signatureHeader ≠ Adapter.meridian.signatureHeader := by decide
  rw [extractSignatureHeader_eq]
  simp [signatureHeaders, Sample.meridian, present, nonempty, first]

theorem spelled_nonempty (mark : List Char) : String.ofList (mark ++ builtins.hmacSha256 secret message) ≠ "" := by
  intro empty
  have length := congrArg (fun text => text.toList.length) empty
  simp [builtins.hmac_length] at length

theorem spelled_twice : String.ofList ([] ++ builtins.hmacSha256 secret message) ≠
    String.ofList ("sha256=".toList ++ builtins.hmacSha256 secret message) := by
  intro same
  have length := congrArg (fun text => text.toList.length) same
  simp at length
  omega

/-- Either spelling is verified. -/
theorem Sample.meridian_verified (builtins : Builtins Digest) (secret : String) (provider : ProviderSlug) (receivedAt : Instant) (body : Bytes)
    (window : Int) {mark : List Char} (known : mark = [] ∨ mark = "sha256=".toList) :
    validateWebhook builtins ⟨some secret, none, window⟩
        (Sample.meridian provider receivedAt body
          (String.ofList (mark ++ builtins.hmacSha256 secret body))) .meridian =
      some (.accepted { scheme := "hmac-sha256-body", algorithm := some "hmac-sha256", verified := true }) := by
  simp only [validateWebhook, Meridian.validateWebhook, Sample.meridian_signature (spelled_nonempty mark),
    Adapter.signedPayload, Sample.meridian_body, verifyHmacSha256_spelled known]

end respelling

section theorems

variable {Digest : Type} [DecidableEq Digest]

/-- The guard against replays: two verified deliveries to one provider claim
one digest, and at most one of them passes the guard, exactly when the first
signature header found holds one string in both. -/
theorem replay_guard_admits_one_iff (builtins : Builtins Digest) (settings : ReplayGuardSettings)
    (config : WebhookConfig) (adapter : Adapter) (webhook webhook' : InboundWebhook)
    (verification verification' : WebhookVerification) (oneProvider : webhook.provider = webhook'.provider)
    (validated : validateWebhook builtins config webhook adapter = some verification)
    (validated' : validateWebhook builtins config webhook' adapter = some verification')
    (verified : verification.verified) (verified' : verification'.verified) :
    (claimedDigest builtins webhook = claimedDigest builtins webhook' ∧
        AtMostOnePasses builtins settings webhook webhook') ↔
      extractSignatureHeader webhook.headers = extractSignatureHeader webhook'.headers := by
  obtain ⟨signature, found⟩ := extractSignatureHeader_verified validated verified
  obtain ⟨signature', found'⟩ := extractSignatureHeader_verified validated' verified'
  have digests : claimedDigest builtins webhook = claimedDigest builtins webhook' ↔ signature = signature' := by
    rw [claimedDigest, claimedDigest, found, found', Option.map_some, Option.map_some, Option.some.injEq]
    exact builtins.digest_injective.eq_iff
  rw [digests, atMostOnePasses_iff oneProvider found found', and_self, found, found', Option.some.injEq]

/-- Cryptography of one signature and no collisions, at the beginning of time:
enough to run the model. -/
def Sample.builtins : Builtins String where
  hmacSha256 _ _ := List.replicate 64 '0'
  hmac_hex _ _ c member := by
    rw [List.eq_of_mem_replicate member]
    decide
  hmac_length _ _ := List.length_replicate
  ed25519 _ _ _ := false
  ed25519_unique _ _ _ _ := nofun
  digest := id
  digest_injective := Function.injective_id
  fromTimestamp _ := some 0
  fromIsoFormat _ := none

theorem replay_guard_admits_one_same_spelling :
    AtMostOnePasses Sample.builtins ⟨900, by decide⟩
      (Sample.meridian ⟨"meridian", by decide⟩ 0 [] (String.ofList (List.replicate 64 '0')))
      (Sample.meridian ⟨"meridian", by decide⟩ 60000000 [] (String.ofList (List.replicate 64 '0'))) := by
  have validated := Sample.meridian_verified Sample.builtins "secret" ⟨"meridian", by decide⟩ 0 [] 300 (.inl rfl)
  have validated' := Sample.meridian_verified Sample.builtins "secret" ⟨"meridian", by decide⟩ 60000000 [] 300
    (.inl rfl)
  exact ((replay_guard_admits_one_iff Sample.builtins ⟨900, by decide⟩ _ .meridian _ _ _ _ rfl validated validated'
    rfl rfl).mpr rfl).2

/-- Meridian accepts its signature with the name of the algorithm in front
and without: the two spellings of one delivery claim different digests, and
both pass. -/
theorem respelling_passes_guard (builtins : Builtins Digest) (settings : ReplayGuardSettings)
    (secret : String) (window : Int) (provider : ProviderSlug) (receivedAt : Instant) (body : Bytes) :
    ∃ (webhook webhook' : InboundWebhook) (verification verification' : WebhookVerification),
      webhook.provider = provider ∧ webhook'.provider = provider ∧
      validateWebhook builtins ⟨some secret, none, window⟩ webhook .meridian = some verification ∧
      validateWebhook builtins ⟨some secret, none, window⟩ webhook' .meridian = some verification' ∧
      verification.verified ∧ verification'.verified ∧
      signedBytes webhook .meridian = some body ∧ signedBytes webhook' .meridian = some body ∧
      claimedDigest builtins webhook ≠ claimedDigest builtins webhook' ∧
      ¬ AtMostOnePasses builtins settings webhook webhook' := by
  have plain := Sample.meridian_verified builtins secret provider receivedAt body window (.inl rfl)
  have named := Sample.meridian_verified builtins secret provider receivedAt body window (.inr rfl)
  refine ⟨_, _, _, _, rfl, rfl, plain, named, rfl, rfl, rfl, rfl, fun same => ?_, fun atMostOne => ?_⟩
  · rw [claimedDigest, claimedDigest, Sample.meridian_extract (spelled_nonempty _),
      Sample.meridian_extract (spelled_nonempty _)] at same
    exact spelled_twice (builtins.digest_injective (Option.some.inj same))
  · have one := (atMostOnePasses_iff (by rfl) (Sample.meridian_extract (spelled_nonempty _))
      (Sample.meridian_extract (spelled_nonempty _))).mp atMostOne
    exact spelled_twice one

theorem respelled_signature_passes_twice :
    ∃ (webhook webhook' : InboundWebhook) (verification verification' : WebhookVerification),
      validateWebhook Sample.builtins ⟨some "secret", none, 300⟩ webhook .meridian = some verification ∧
      validateWebhook Sample.builtins ⟨some "secret", none, 300⟩ webhook' .meridian = some verification' ∧
      verification.verified ∧ verification'.verified ∧ webhook.provider = webhook'.provider ∧
      signedBytes webhook .meridian = signedBytes webhook' .meridian ∧
      claimedDigest Sample.builtins webhook ≠ claimedDigest Sample.builtins webhook' ∧
      ¬ AtMostOnePasses Sample.builtins ⟨900, by decide⟩ webhook webhook' := by
  obtain ⟨webhook, webhook', verification, verification', provider, provider', validated, validated', verified,
    verified', signed, signed', apart, both⟩ :=
    respelling_passes_guard Sample.builtins ⟨900, by decide⟩ "secret" 300 ⟨"meridian", by decide⟩ 0 []
  exact ⟨webhook, webhook', verification, verification', validated, validated', verified, verified',
    provider.trans provider'.symm, signed.trans signed'.symm, apart, both⟩

end theorems

end IntegrationOrchestrator
