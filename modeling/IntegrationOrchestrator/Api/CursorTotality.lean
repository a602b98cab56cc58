import IntegrationOrchestrator.Api.Cursors

/-! Which texts `Cursor.decode` settles: it returns a cursor that can be used,
or it raises the error that makes the cursor invalid. -/

namespace IntegrationOrchestrator

open Isoformat (Datetime)

/-- What `Cursor.decode` takes from the standard library: the texts nested
deeper than `json.loads` recurses, and what it, `datetime.fromisoformat` and
`UUID` make of a text, `none` being a `ValueError`. -/
structure CursorLibrary where
  tooDeep : List Nat → Bool
  loads : List Nat → Option JsonText.Value
  fromisoformat : List Nat → Option { t : Datetime // t.Valid }
  uuid : List Nat → Option BoundedUUID

/-- The text that a cursor encodes. -/
def cursorJson (value : String) : Option (List Nat) :=
  if value.toList.all fun c => c.toNat < 0x80 then
    (Base64.decode (Base64.pad value.toList)).bind fun bytes => (Utf8.decode bytes).bind fun text =>
      if text.any isSurrogate then none else some text
  else none

namespace CursorLibrary

variable (library : CursorLibrary)

/-- `json.loads(raw)`. A `RecursionError` is not among the errors that make a
cursor invalid. -/
def data (value : String) : Except Exn JsonText.Value :=
  match cursorJson value with
  | none => .error invalidCursor
  | some text =>
    if library.tooDeep text then .error .unexpected else (library.loads text).elim (.error invalidCursor) .ok

/-- `datetime.fromisoformat(data["c"])`. -/
def createdAt (data : JsonText.Value) : Option { t : Datetime // t.Valid } :=
  match data.get createdAtKey with
  | some (.str text) => library.fromisoformat text
  | _ => none

/-- `UUID(data["i"])`. -/
def requestId (data : JsonText.Value) : Except Exn BoundedUUID :=
  match data.get requestIdKey with
  | none | some .null => .error invalidCursor
  | some (.str text) => (library.uuid text).elim (.error invalidCursor) .ok
  | some _ => .error .unexpected

/-- `Cursor.decode` over any library. -/
def decode (value : String) : Except Exn PageCursor := do
  let data ← library.data value
  let ⟨createdAt, valid⟩ ← (library.createdAt data).elim (.error invalidCursor) .ok
  let ⟨requestId, bounded⟩ ← library.requestId data
  return ⟨createdAt, requestId, valid, bounded⟩

/-- A cursor whose time has an offset, as stored timestamps have, or the error
that makes the cursor invalid. -/
def Settles (value : String) : Prop :=
  (∃ cursor, library.decode value = .ok cursor ∧ cursor.createdAt.offset.isSome = true) ∨
    ∃ message, library.decode value = .error (.validation message)

end CursorLibrary

/-- The field `i` is absent, null or a text. -/
def hasTextId (data : JsonText.Value) : Bool :=
  match data.get requestIdKey with
  | none | some .null | some (.str _) => true
  | some _ => false

namespace CursorLibrary

variable (library : CursorLibrary) {data : JsonText.Value}

/-- The texts that are nested no deeper than the library recurses, and whose
field `c`, if it is a timestamp, stands next to a field `i` that may be the
text of an identifier and has an offset if it is. -/
def Readable (value : String) : Prop :=
  ∀ text, cursorJson value = some text → library.tooDeep text = false ∧
    ∀ data, library.loads text = some data → ∀ createdAt, library.createdAt data = some createdAt →
      hasTextId data = true ∧ ∀ id, library.requestId data = .ok id → createdAt.val.offset.isSome = true

variable {library}

/-- An identifier that may be a text is read, or makes the cursor invalid. -/
theorem requestId_cases : (hasTextId data = true ∧
      ((∃ id, library.requestId data = .ok id) ∨ library.requestId data = .error invalidCursor)) ∨
    (hasTextId data = false ∧ library.requestId data = .error .unexpected) := by
  unfold hasTextId requestId
  split
  · exact Or.inl ⟨rfl, Or.inr rfl⟩
  · exact Or.inl ⟨rfl, Or.inr rfl⟩
  · rename_i text _
    cases library.uuid text with
    | none => exact Or.inl ⟨rfl, Or.inr rfl⟩
    | some id => exact Or.inl ⟨rfl, Or.inl ⟨id, rfl⟩⟩
  · exact Or.inr ⟨rfl, rfl⟩

/-- The exception that `Cursor.decode` lets through is none of validation. -/
theorem not_settles_of_unexpected {value : String} (raised : library.decode value = .error .unexpected) :
    ¬ library.Settles value := by
  rintro (⟨cursor, decoded, _⟩ | ⟨message, decoded⟩)
  · cases raised.symm.trans decoded
  · cases raised.symm.trans decoded

theorem settles_of_invalid {value : String} (raised : library.decode value = .error invalidCursor) :
    library.Settles value := Or.inr ⟨_, raised⟩

/-- Once `c` is a timestamp, the field `i` decides what decoding ends in. -/
theorem settles_of_createdAt {value : String} {t : { t : Datetime // t.Valid }} (loaded : library.data value = .ok data)
    (created : library.createdAt data = some t) : library.Settles value ↔
      hasTextId data = true ∧ ∀ id, library.requestId data = .ok id → t.val.offset.isSome = true := by
  have rest : library.decode value =
      (library.requestId data).map fun id => ⟨t.val, id.val, t.property, id.property⟩ := by
    rw [decode, loaded]
    simp only [bind, Except.bind, created, Option.elim_some]
    cases library.requestId data <;> rfl
  rcases @requestId_cases library data with ⟨texts, ⟨id, read⟩ | invalid⟩ | ⟨other, raised⟩
  · rw [read] at rest ⊢
    simp [Settles, rest, texts, Except.map]
  · rw [invalid] at rest ⊢
    simp [settles_of_invalid rest, texts]
  · rw [raised] at rest
    simp [not_settles_of_unexpected rest, other]

/-- Decoding returns a cursor that can be compared with stored timestamps or
raises the error of validation exactly on the readable texts. -/
theorem cursor_decode_settles_iff (library : CursorLibrary) (value : String) :
    library.Settles value ↔ library.Readable value := by
  cases encoded : cursorJson value with
  | none =>
    have raised : library.decode value = .error invalidCursor := by rw [decode, data, encoded]; rfl
    exact iff_of_true (settles_of_invalid raised) fun text found => by rw [encoded] at found; cases found
  | some text =>
    simp only [Readable, encoded, Option.some.injEq, forall_eq']
    by_cases deep : library.tooDeep text = true
    · have raised : library.decode value = .error .unexpected := by
        rw [decode, data, encoded]
        simp only [deep, if_true]
        rfl
      simp [not_settles_of_unexpected raised, deep]
    · have loading : library.data value = (library.loads text).elim (.error invalidCursor) .ok := by
        rw [data, encoded]
        simp only [deep, Bool.false_eq_true, if_false]
      cases loaded : library.loads text with
      | none =>
        rw [loaded] at loading
        have raised : library.decode value = .error invalidCursor := by rw [decode, loading]; rfl
        simp [settles_of_invalid raised, deep]
      | some data =>
        rw [loaded] at loading
        simp only [deep, true_and, Option.some.injEq, forall_eq']
        cases created : library.createdAt data with
        | none =>
          have raised : library.decode value = .error invalidCursor := by
            rw [decode, loading]
            simp only [bind, Except.bind, Option.elim_some, created]
            rfl
          simp [settles_of_invalid raised]
        | some t => simpa only [Option.some.injEq, forall_eq'] using settles_of_createdAt loading created

/-- The library with a recursion limit that is never met, and the spellings of
timestamps and identifiers that `PageCursor.decode` reads. -/
def modelled : CursorLibrary where
  tooDeep _ := false
  loads := JsonText.loads
  fromisoformat text := timeOf (charsOf text)
  uuid text := uuidOfText (charsOf text)

theorem modelled_decode (value : String) : modelled.decode value = PageCursor.decode value := by
  have data : modelled.data value = (cursorData value).elim (.error invalidCursor) .ok := by
    have texts : cursorData value = (cursorJson value).bind JsonText.loads := by
      unfold cursorData cursorJson
      split
      · simp only [Option.bind_assoc]
        congr 1
        funext bytes
        congr 1
        funext text
        split <;> rfl
      · rfl
    rw [texts, CursorLibrary.data]
    cases cursorJson value <;> rfl
  rw [decode, PageCursor.decode, data]
  rfl

end CursorLibrary

/-- The cursor `{"c": "2024-01-01T00:00:00+00:00", "i": 5}` raises an
`AttributeError`, and `{"c": "2024-01-01T00:00:00", "i": "00000000-…-000000000001"}`
is decoded to a time without an offset. -/
theorem cursor_decode_escapes :
    (PageCursor.decode "eyJjIjoiMjAyNC0wMS0wMVQwMDowMDowMCswMDowMCIsImkiOjV9").map (·.requestId) =
        .error .unexpected ∧
      (PageCursor.decode ("eyJjIjoiMjAyNC0wMS0wMVQwMDowMDowMCIsImkiOiIwMDAwMDAwMC0w" ++
        "MDAwLTAwMDAtMDAwMC0wMDAwMDAwMDAwMDEifQ")).map (·.createdAt.offset) = .ok none := by
  decide +kernel

end IntegrationOrchestrator
