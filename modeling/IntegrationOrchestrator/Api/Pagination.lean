import IntegrationOrchestrator.Api.Cursors

namespace IntegrationOrchestrator

open Isoformat (Datetime)
open Keyset (Descending)

/-! ### Listing by the text of a cursor -/

/-- The position a cursor stands for. A timestamp without an offset is read as
one in UTC. -/
def PageCursor.position (cursor : PageCursor) : Cursor :=
  { createdAt := (Datetime.instant { cursor.createdAt with offset := some (cursor.createdAt.offset.getD 0) }).getD 0
    requestId := cursor.requestId }

/-- The text of a row's position; the timestamp is written in UTC. -/
def Cursor.encode (cursor : Cursor) : String := encodeCursor (.utc cursor.createdAt) cursor.requestId

/-- `Cursor.decode(cursor) if cursor else None`. -/
def cursorParameter : Option String → Except Exn (Option Cursor)
  | none => .ok none
  | some text => if text = "" then .ok none else (PageCursor.decode text).map fun cursor => some cursor.position

/-- The repository's page for the text of a cursor, with the text of the next. -/
def Database.listFrom (db : Database) (criteria : IntegrationRequestFilter) (cursor : Option String) :
    Except Exn (Keyset.Page IntegrationRequest String) := do
  let cursor ← cursorParameter cursor
  return (db.listRequests { criteria with cursor := cursor }).encoded Cursor.encode

/-- What a client collects that follows `next_cursor` from the first page.
`store n` is what the `n`th request finds. -/
def walkListing (store : Nat → Database) (criteria : IntegrationRequestFilter) (fuel : Nat) :
    Except Exn (Option (List IntegrationRequest)) :=
  Keyset.walk (fun n cursor => (store n).listFrom criteria cursor) fuel 0 none

/-- The cursor the `n`th request is made with, if the walk gets there. -/
def walkedTo (store : Nat → Database) (criteria : IntegrationRequestFilter) (n : Nat) : Option (Option Cursor) :=
  Keyset.cursorAt (fun n cursor => (store n).listRequests { criteria with cursor := cursor }) n

/-! ### What may happen between two pages -/

/-- The row's timestamp and identifier are those of a `datetime` and a `UUID`. -/
def IntegrationRequest.Storable (q : IntegrationRequest) : Prop :=
  Datetime.inRange q.createdAt ∧ q.id < 2 ^ 128

/-- Between two pages rows may change, but neither their positions nor what the
criteria ask for; and rows may be inserted, later than the cursor. -/
structure LaterRowsOnly (criteria : IntegrationRequestFilter) (cursor : Cursor) (before after : Database) : Prop where
  kept : ∀ q ∈ before.requests.rows, ∃ q' ∈ after.requests.rows,
    q'.position = q.position ∧ criteria.admits q' = criteria.admits q
  inserted : ∀ q' ∈ after.requests.rows,
    (∃ q ∈ before.requests.rows, q.id = q'.id) ∨ cursor < q'.position

/-- Behind the cursor the same positions are listed before and after. -/
theorem LaterRowsOnly.seek_eq {criteria : IntegrationRequestFilter} {cursor : Cursor} {before after : Database}
    (unmoved : LaterRowsOnly criteria cursor before after) :
    (Keyset.seek IntegrationRequest.position (after.admitted criteria) (some cursor)).map IntegrationRequest.position =
      (Keyset.seek IntegrationRequest.position (before.admitted criteria) (some cursor)).map
        IntegrationRequest.position := by
  refine Keyset.map_position_eq ((admitted_descending after criteria).seek _)
    ((admitted_descending before criteria).seek _) fun place => ?_
  simp only [Keyset.seek, Option.all_some, List.mem_map, List.mem_filter, decide_eq_true_eq, mem_admitted]
  constructor
  · rintro ⟨q', ⟨⟨stored, admitted⟩, behind⟩, rfl⟩
    -- a row behind the cursor is not a new one
    obtain ⟨q, old, sameId⟩ := (unmoved.inserted q' stored).resolve_right behind.asymm
    obtain ⟨q'', kept, samePosition, sameAdmits⟩ := unmoved.kept q old
    have same : q'' = q' := List.inj_on_of_nodup_map after.requests.unique kept stored
      ((congrArg Cursor.requestId samePosition).trans sameId)
    subst same
    exact ⟨q, ⟨⟨old, sameAdmits ▸ admitted⟩, samePosition ▸ behind⟩, samePosition.symm⟩
  · rintro ⟨q, ⟨⟨stored, admitted⟩, behind⟩, rfl⟩
    obtain ⟨q', kept, samePosition, sameAdmits⟩ := unmoved.kept q stored
    exact ⟨q', ⟨⟨kept, sameAdmits ▸ admitted⟩, samePosition ▸ behind⟩, samePosition⟩

/-- The position of a row is what its text is decoded to. -/
theorem cursorParameter_encode {q : IntegrationRequest} (storable : q.Storable) :
    cursorParameter (some q.position.encode) = .ok (some q.position) := by
  let cursor : PageCursor := ⟨.utc q.createdAt, q.id, Datetime.valid_utc storable.1, storable.2⟩
  have decoded : PageCursor.decode q.position.encode = .ok cursor := cursor.decode_encode
  have written : q.position.encode ≠ "" := by
    intro empty
    rw [empty, show PageCursor.decode "" = .error invalidCursor from rfl] at decoded
    cases decoded
  have place : cursor.position = q.position := by
    simp only [PageCursor.position, IntegrationRequest.position, Cursor.mk.injEq]
    exact ⟨by rw [show ({ cursor.createdAt with offset := some (cursor.createdAt.offset.getD 0) } : Datetime) =
      .utc q.createdAt from rfl, Datetime.instant_utc storable.1]; rfl, rfl⟩
  rw [cursorParameter, if_neg written, decoded, ← place]
  rfl

/-- A cursor of the walk is served with the page behind it. -/
theorem listFrom_encode {store : Nat → Database} {criteria : IntegrationRequestFilter}
    (storable : ∀ n, ∀ q ∈ (store n).requests.rows, q.Storable) (n : Nat) (cursor : Option Cursor)
    (known : ∀ c ∈ cursor, ∃ m, ∃ q ∈ (store m).admitted criteria, q.position = c) :
    (store n).listFrom criteria (cursor.map Cursor.encode) =
      .ok ((Keyset.page IntegrationRequest.position ((store n).admitted criteria) criteria.limit cursor).encoded
        Cursor.encode) := by
  have parameter : cursorParameter (cursor.map Cursor.encode) = .ok cursor := by
    cases cursor with
    | none => rfl
    | some c =>
      obtain ⟨m, q, listed, rfl⟩ := known c rfl
      exact cursorParameter_encode (storable m q (mem_admitted.mp listed).1)
  rw [Database.listFrom, parameter]
  exact congrArg (fun page : Page => Except.ok (page.encoded Cursor.encode)) (listRequests_eq_page (store n) criteria cursor)

/-- Keyset pagination is exact. A client that follows the cursors gets every
row that met the criteria at the start exactly once, newest first, and nothing
else, if only later rows come in between; and a cursor survives its text. -/
theorem pagination_exact (store : Nat → Database) (criteria : IntegrationRequestFilter)
    (storable : ∀ n, ∀ q ∈ (store n).requests.rows, q.Storable)
    (unmoved : ∀ n next, walkedTo store criteria (n + 1) = some (some next) →
      LaterRowsOnly criteria next (store n) (store (n + 1))) :
    (∀ fuel, (store 0).requests.rows.length < fuel → ∃ items, walkListing store criteria fuel = .ok (some items) ∧
      items.Pairwise (fun a b => b.createdAt < a.createdAt ∨ (b.createdAt = a.createdAt ∧ b.id < a.id)) ∧
      (∀ q ∈ (store 0).requests.rows, criteria.admits q = true → (items.map (·.position)).count q.position = 1) ∧
      ∀ item ∈ items, (∃ n, item ∈ (store n).requests.rows) ∧
        ∃ q ∈ (store 0).requests.rows, criteria.admits q = true ∧ q.position = item.position) ∧
    ∀ cursor : PageCursor, PageCursor.decode cursor.encode = .ok cursor := by
  refine ⟨fun fuel enough => ?_, PageCursor.decode_encode⟩
  have pages : walkedTo store criteria = Keyset.cursorAt fun n =>
      Keyset.page IntegrationRequest.position ((store n).admitted criteria) criteria.limit := by
    funext n
    simp only [walkedTo, listRequests_eq_page]
  have all : Keyset.seek IntegrationRequest.position ((store 0).admitted criteria) none =
      (store 0).admitted criteria := List.filter_eq_self.mpr fun _ _ => rfl
  have few : ((store 0).admitted criteria).length ≤ (store 0).requests.rows.length :=
    (newestFirst_perm _).length_eq.trans_le (List.length_filter_le ..)
  have start : ∀ c ∈ (none : Option Cursor), ∃ m, ∃ q ∈ (store m).admitted criteria, q.position = c :=
    fun _ none => absurd none (Option.not_mem_none _)
  obtain ⟨items, walked, stored, places⟩ := Keyset.walk_page (fun n => admitted_descending (store n) criteria)
    criteria.valid_limit.1 (listFrom_encode storable) (fun n next here => (unmoved n next (pages ▸ here)).seek_eq)
    rfl start (by rw [all]; omega : _ < fuel)
  rw [all] at places
  have sorted : Descending IntegrationRequest.position items := by
    rw [Keyset.descending_iff, places]
    exact Keyset.descending_iff.mp (admitted_descending (store 0) criteria)
  refine ⟨items, walked, sorted.imp Cursor.lt_iff.mp, fun q old admitted => ?_, fun item listed => ⟨?_, ?_⟩⟩
  · have nodup : (items.map (·.position)).Nodup := List.pairwise_map.mpr (sorted.imp fun below => below.ne')
    refine List.count_eq_one_of_mem nodup ?_
    rw [places]
    exact List.mem_map_of_mem (mem_admitted.mpr ⟨old, admitted⟩)
  · obtain ⟨n, member⟩ := stored item listed
    exact ⟨n, (mem_admitted.mp member).1⟩
  · have member : item.position ∈ items.map (·.position) := List.mem_map_of_mem listed
    rw [places] at member
    obtain ⟨q, here, same⟩ := List.mem_map.mp member
    obtain ⟨old, admitted⟩ := mem_admitted.mp here
    exact ⟨q, old, admitted, same⟩

namespace Sample

/-- Two requests of one moment, and behind the first page a later one. -/
def grownStore : Nat → Database
  | 0 => { requests := (Table.empty.put (owned 1 "client-a" 1)).put (owned 2 "client-b" 1) }
  | _ + 1 => { requests :=
      ((Table.empty.put (owned 1 "client-a" 1)).put (owned 2 "client-b" 1)).put (owned 0 "client-b" 2) }

end Sample

theorem pagination_exact_grown :
    (∀ fuel, 2 < fuel → ∃ items, walkListing Sample.grownStore { limit := 1 } fuel = .ok (some items) ∧
      items.Pairwise (fun a b => b.createdAt < a.createdAt ∨ (b.createdAt = a.createdAt ∧ b.id < a.id)) ∧
      (∀ q ∈ (Sample.grownStore 0).requests.rows, IntegrationRequestFilter.admits { limit := 1 } q = true →
        (items.map (·.position)).count q.position = 1) ∧
      ∀ item ∈ items, (∃ n, item ∈ (Sample.grownStore n).requests.rows) ∧
        ∃ q ∈ (Sample.grownStore 0).requests.rows, IntegrationRequestFilter.admits { limit := 1 } q = true ∧
          q.position = item.position) ∧
    ∀ cursor : PageCursor, PageCursor.decode cursor.encode = .ok cursor := by
  refine pagination_exact Sample.grownStore { limit := 1 } ?_ ?_
  · intro n q stored
    have small : ∀ n ≤ 1, ∀ q ∈ (Sample.grownStore n).requests.rows, Datetime.inRange q.createdAt ∧ q.id < 2 ^ 128 := by
      decide +kernel
    cases n with
    | zero => exact small 0 (by decide) q stored
    | succ n => exact small 1 (by decide) q stored
  · intro n next here
    cases n with
    | zero =>
      have first : walkedTo Sample.grownStore { limit := 1 } 1 = some (some ⟨1, 2⟩) := by decide +kernel
      obtain rfl : ⟨1, 2⟩ = next := by simpa [first] using here
      exact ⟨by decide +kernel, by decide +kernel⟩
    | succ n => exact ⟨fun q stored => ⟨q, stored, rfl, rfl⟩, fun q stored => .inl ⟨q, stored, rfl⟩⟩

end IntegrationOrchestrator
