import IntegrationOrchestrator.Api.Ownership
import IntegrationOrchestrator.Foundation.Keyset
import IntegrationOrchestrator.Store

namespace IntegrationOrchestrator

/-- A position in the order `(created_at DESC, id DESC)`. -/
structure Cursor where
  createdAt : Instant
  requestId : UUID
  deriving DecidableEq

def maxPageSize : Nat := 200

/-- Criteria for listing integration requests. -/
structure IntegrationRequestFilter where
  provider : Option ProviderSlug := none
  statuses : List RequestStatus := []
  operationType : Option OperationType := none
  externalReference : Option String := none
  createdAfter : Option Instant := none
  createdBefore : Option Instant := none
  limit : Nat := 25
  cursor : Option Cursor := none
  valid_limit : 1 ≤ limit ∧ limit ≤ maxPageSize := by decide
  valid_window : ∀ after ∈ createdAfter, ∀ before ∈ createdBefore, after ≤ before := by simp

abbrev Page := Keyset.Page IntegrationRequest Cursor

namespace IntegrationRequestFilter

/-- `_apply_request_filters`. -/
def admits (criteria : IntegrationRequestFilter) (q : IntegrationRequest) : Bool :=
  criteria.provider.all (q.provider = ·) && (criteria.statuses.isEmpty || q.status ∈ criteria.statuses) &&
    criteria.operationType.all (q.operationType = ·) && criteria.externalReference.all (q.externalReference.value = ·) &&
    criteria.createdAfter.all (· ≤ q.createdAt) && criteria.createdBefore.all (q.createdAt ≤ ·)

/-- The keyset seek: strictly older than the cursor. -/
def behind (criteria : IntegrationRequestFilter) (q : IntegrationRequest) : Bool :=
  criteria.cursor.all fun cursor => q.createdAt < cursor.createdAt ||
    (q.createdAt = cursor.createdAt && q.id < cursor.requestId)

end IntegrationRequestFilter

def IntegrationRequest.notOlder (a b : IntegrationRequest) : Prop :=
  b.createdAt < a.createdAt ∨ (b.createdAt = a.createdAt ∧ b.id ≤ a.id)

instance : DecidableRel IntegrationRequest.notOlder := fun a b =>
  inferInstanceAs (Decidable (b.createdAt < a.createdAt ∨ (b.createdAt = a.createdAt ∧ b.id ≤ a.id)))

/-- `ORDER BY created_at DESC, id DESC`. -/
def newestFirst (rows : List IntegrationRequest) : List IntegrationRequest :=
  rows.insertionSort IntegrationRequest.notOlder

/-- `SqlIntegrationRequestRepository.list`: one row more than a page is read,
to see whether there is a next one. -/
def Database.listRequests (db : Database) (criteria : IntegrationRequestFilter) : Page :=
  let rows := (newestFirst (db.requests.rows.filter fun q => criteria.admits q && criteria.behind q)).take
    (criteria.limit + 1)
  let pageRows := rows.take criteria.limit
  { items := pageRows
    nextCursor := if criteria.limit < rows.length then
        pageRows.getLast?.map fun last => { createdAt := last.createdAt, requestId := last.id }
      else none }

/-- The list endpoint. -/
def listIntegrationRequests (enforce : Bool) (principal : Principal) (criteria : IntegrationRequestFilter)
    (db : Database) : Page :=
  let page := db.listRequests criteria
  if enforce && ¬ principal.hasScope operationsAdmin then
    { items := page.items.filter (·.ownerSubject = some principal.subject), nextCursor := none }
  else page

/-- What a client collects that follows `next_cursor` from the first page. -/
def followListing (enforce : Bool) (principal : Principal) (criteria : IntegrationRequestFilter) (db : Database)
    (fuel : Nat) : List IntegrationRequest :=
  Keyset.follow (fun cursor => listIntegrationRequests enforce principal { criteria with cursor := cursor } db) fuel none

/-! ### The order of a listing -/

instance : LinearOrder Cursor :=
  LinearOrder.lift' (fun cursor => toLex (cursor.createdAt, cursor.requestId)) fun a b same => by
    cases a
    cases b
    simpa using same

def IntegrationRequest.position (q : IntegrationRequest) : Cursor := { createdAt := q.createdAt, requestId := q.id }

theorem Cursor.lt_iff {a b : Cursor} :
    a < b ↔ a.createdAt < b.createdAt ∨ (a.createdAt = b.createdAt ∧ a.requestId < b.requestId) :=
  Prod.Lex.toLex_lt_toLex

theorem Cursor.le_iff {a b : Cursor} :
    a ≤ b ↔ a.createdAt < b.createdAt ∨ (a.createdAt = b.createdAt ∧ a.requestId ≤ b.requestId) :=
  Prod.Lex.toLex_le_toLex

theorem IntegrationRequest.notOlder_iff {a b : IntegrationRequest} : a.notOlder b ↔ b.position ≤ a.position :=
  Iff.symm (Cursor.le_iff (a := b.position) (b := a.position))

instance : Std.Total IntegrationRequest.notOlder :=
  ⟨fun a b => by simpa only [IntegrationRequest.notOlder_iff] using le_total b.position a.position⟩

instance : IsTrans IntegrationRequest IntegrationRequest.notOlder :=
  ⟨fun a b c => by
    simp only [IntegrationRequest.notOlder_iff]
    exact fun first second => second.trans first⟩

open Keyset (Descending)

theorem newestFirst_perm (rows : List IntegrationRequest) : (newestFirst rows).Perm rows :=
  List.perm_insertionSort _ _

/-- Rows of one table are at different positions, so the order is strict. -/
theorem newestFirst_descending {rows : List IntegrationRequest} (distinct : (rows.map (·.id)).Nodup) :
    Descending IntegrationRequest.position (newestFirst rows) := by
  have sorted : (newestFirst rows).Pairwise IntegrationRequest.notOlder := List.pairwise_insertionSort _ _
  have apart : (newestFirst rows).Pairwise fun a b => a.id ≠ b.id := by
    have nodup := ((newestFirst_perm rows).map IntegrationRequest.id).nodup_iff.mpr distinct
    exact List.pairwise_map.mp nodup
  refine (sorted.and apart).imp fun {a b} both => ?_
  have below : b.position ≤ a.position := IntegrationRequest.notOlder_iff.mp both.1
  exact lt_of_le_of_ne below fun same => both.2 (congrArg Cursor.requestId same).symm

/-- The rows a listing goes through, page by page. -/
def Database.admitted (db : Database) (criteria : IntegrationRequestFilter) : List IntegrationRequest :=
  newestFirst (db.requests.rows.filter criteria.admits)

theorem admitted_descending (db : Database) (criteria : IntegrationRequestFilter) :
    Descending IntegrationRequest.position (db.admitted criteria) :=
  newestFirst_descending (db.requests.unique.sublist (List.filter_sublist.map _))

theorem mem_admitted {db : Database} {criteria : IntegrationRequestFilter} {q : IntegrationRequest} :
    q ∈ db.admitted criteria ↔ q ∈ db.requests.rows ∧ criteria.admits q = true :=
  (newestFirst_perm _).mem_iff.trans List.mem_filter

theorem Descending.eq_of_perm {xs ys : List IntegrationRequest} (first : Descending IntegrationRequest.position xs)
    (second : Descending IntegrationRequest.position ys) (perm : xs.Perm ys) : xs = ys :=
  List.Perm.eq_of_pairwise (fun _ _ _ _ above below => absurd above (not_lt.mpr below.le)) first second perm

/-- The repository's page is a page of keyset pagination. -/
theorem listRequests_eq_page (db : Database) (criteria : IntegrationRequestFilter) (cursor : Option Cursor) :
    db.listRequests { criteria with cursor := cursor } =
      Keyset.page IntegrationRequest.position (db.admitted criteria) criteria.limit cursor := by
  have rows : newestFirst (db.requests.rows.filter fun q => criteria.admits q &&
      ({ criteria with cursor := cursor } : IntegrationRequestFilter).behind q) =
      Keyset.seek IntegrationRequest.position (db.admitted criteria) cursor := by
    refine Descending.eq_of_perm (newestFirst_descending (db.requests.unique.sublist (List.filter_sublist.map _)))
      ((admitted_descending db criteria).seek cursor) ?_
    refine (newestFirst_perm _).trans ?_
    have filtered := ((newestFirst_perm (db.requests.rows.filter criteria.admits)).filter
      fun q => cursor.all fun at_ => q.position < at_).symm
    rw [List.filter_filter] at filtered
    refine (List.Perm.of_eq (List.filter_congr fun q _ => ?_)).trans filtered
    rw [Bool.and_comm]
    cases cursor with
    | none => rfl
    | some at_ => simp [IntegrationRequestFilter.behind, Cursor.lt_iff, IntegrationRequest.position]
  unfold Database.listRequests Keyset.page
  rw [show newestFirst (db.requests.rows.filter fun q =>
    ({ criteria with cursor := cursor } : IntegrationRequestFilter).admits q && _) = _ from rows]
  dsimp only
  rw [List.take_take, Nat.min_eq_left (Nat.le_succ _), List.length_take]
  by_cases more : criteria.limit < (Keyset.seek IntegrationRequest.position (db.admitted criteria) cursor).length
  · rw [if_pos (by omega), if_pos more]
    rfl
  · rw [if_neg (by omega), if_neg more]

/-- A client under isolation sees one page, of which it gets its own rows. -/
theorem followListing_isolated {principal : Principal} {criteria : IntegrationRequestFilter} {db : Database}
    {fuel : Nat} (client : principal.hasScope operationsAdmin = false) (asked : 0 < fuel) :
    followListing true principal criteria db fuel =
      ((db.admitted criteria).take criteria.limit).filter (·.ownerSubject = some principal.subject) := by
  obtain ⟨fuel, rfl⟩ : ∃ more, fuel = more + 1 := ⟨fuel - 1, by omega⟩
  have first : Keyset.seek IntegrationRequest.position (db.admitted criteria) none = db.admitted criteria :=
    List.filter_eq_self.mpr fun _ _ => rfl
  unfold followListing Keyset.follow
  simp only [listIntegrationRequests, listRequests_eq_page, client, Bool.false_eq_true, not_false_eq_true, decide_true,
    Bool.and_self, if_true, List.append_nil, Keyset.page, first]

/-- Under isolation a listing is complete exactly if each of the caller's
requests that meet the criteria has fewer than a page of requests above it,
whoever owns those. -/
theorem listing_complete_iff {principal : Principal} {criteria : IntegrationRequestFilter} {db : Database} {fuel : Nat}
    (client : principal.hasScope operationsAdmin = false) (asked : 0 < fuel) :
    ((followListing true principal criteria db fuel).Nodup ∧
      ∀ q, q ∈ followListing true principal criteria db fuel ↔
        q ∈ db.requests.rows ∧ criteria.admits q = true ∧ q.ownerSubject = some principal.subject) ↔
    ∀ q ∈ db.requests.rows, criteria.admits q = true → q.ownerSubject = some principal.subject →
      db.requests.rows.countP (fun other => criteria.admits other && q.position < other.position) < criteria.limit := by
  have sorted := admitted_descending db criteria
  have above : ∀ q : IntegrationRequest, (db.admitted criteria).countP (fun other => q.position < other.position) =
      db.requests.rows.countP (fun other => criteria.admits other && q.position < other.position) := by
    intro q
    rw [Database.admitted, (newestFirst_perm _).countP_eq, List.countP_filter]
    exact List.countP_congr fun other _ => by simp [and_comm]
  rw [followListing_isolated client asked]
  constructor
  · intro complete q stored admitted owned
    have listed := (complete.2 q).mpr ⟨stored, admitted, owned⟩
    rw [← above, ← Keyset.mem_take_iff sorted (mem_admitted.mpr ⟨stored, admitted⟩)]
    exact List.mem_of_mem_filter listed
  · intro short
    refine ⟨?_, fun q => ?_⟩
    · have nodup : (db.admitted criteria).Nodup := sorted.imp fun below same => by simp [same] at below
      exact ((nodup.sublist (List.take_sublist ..)).filter _)
    · rw [List.mem_filter]
      simp only [decide_eq_true_eq]
      constructor
      · rintro ⟨taken, owned⟩
        obtain ⟨stored, admitted⟩ := mem_admitted.mp (List.mem_of_mem_take taken)
        exact ⟨stored, admitted, owned⟩
      · rintro ⟨stored, admitted, owned⟩
        refine ⟨(Keyset.mem_take_iff sorted (mem_admitted.mpr ⟨stored, admitted⟩)).mpr ?_, owned⟩
        rw [above]
        exact short q stored admitted owned

namespace Sample

/-- A request of `owner`. -/
def owned (id : UUID) (owner : String) (createdAt : Instant) : IntegrationRequest :=
  { id := id, provider := provider, operationType := .resourceProvision
    externalReference := reference, normalizedPayload := [], correlationId := correlationId
    createdAt := createdAt, updatedAt := createdAt, ownerSubject := some owner }

/-- An older request of one client and a newer one of another. -/
def twoOwners : Database := { requests := (Table.empty.put (owned 1 "client-a" 1)).put (owned 2 "client-b" 2) }

def clientA : Principal := { subject := "client-a", scopes := ["requests:read"] }

end Sample

theorem listing_complete_iff_two :
    ((followListing true Sample.clientA { limit := 2 } Sample.twoOwners 1).Nodup ∧
      ∀ q, q ∈ followListing true Sample.clientA { limit := 2 } Sample.twoOwners 1 ↔
        q ∈ Sample.twoOwners.requests.rows ∧ IntegrationRequestFilter.admits { limit := 2 } q = true ∧
          q.ownerSubject = some "client-a") ↔
    ∀ q ∈ Sample.twoOwners.requests.rows, IntegrationRequestFilter.admits { limit := 2 } q = true →
      q.ownerSubject = some "client-a" → Sample.twoOwners.requests.rows.countP
        (fun other => IntegrationRequestFilter.admits { limit := 2 } other && q.position < other.position) < 2 :=
  listing_complete_iff (by decide) (by decide)

/-- A page of one request that belongs to somebody else hides the caller's own
request for good. -/
theorem listing_hides_own_request :
    Sample.clientA.hasScope operationsAdmin = false ∧ Sample.owned 1 "client-a" 1 ∈ Sample.twoOwners.requests.rows ∧
      IntegrationRequestFilter.admits { limit := 1 } (Sample.owned 1 "client-a" 1) = true ∧
      ∀ fuel, followListing true Sample.clientA { limit := 1 } Sample.twoOwners fuel = [] := by
  refine ⟨by decide, List.mem_cons_self .., by decide, fun fuel => ?_⟩
  cases fuel with
  | zero => rfl
  | succ fuel => rfl

end IntegrationOrchestrator
