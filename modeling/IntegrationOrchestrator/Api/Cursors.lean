import IntegrationOrchestrator.Domain.Uuids
import IntegrationOrchestrator.Foundation.Base64
import IntegrationOrchestrator.Foundation.Isoformat
import IntegrationOrchestrator.Foundation.Utf8
import IntegrationOrchestrator.Api.Listing

/-! The text of a cursor: what a client gets with a page and sends back for the
next one. -/

namespace IntegrationOrchestrator

open Isoformat (Datetime isoformat fromisoformat)

/-- `Cursor` with its timestamp as Python holds it. -/
structure PageCursor where
  createdAt : Datetime
  requestId : UUID
  valid : createdAt.Valid
  bounded : requestId < 2 ^ 128

/-- The field `c` of a cursor. -/
def createdAtKey : List Nat := JsonText.codes ['c']

/-- The field `i` of a cursor. -/
def requestIdKey : List Nat := JsonText.codes ['i']

def createdAtField (createdAt : Datetime) : List Nat × List Nat :=
  (createdAtKey, JsonText.codes (isoformat createdAt))

def requestIdField (requestId : UUID) : List Nat × List Nat :=
  (requestIdKey, JsonText.codes (uuidText requestId).toList)

/-- Neither of the texts has a character that JSON escapes. -/
def cursorText (createdAt : Datetime) (requestId : UUID) : List Nat :=
  JsonText.objectText (createdAtField createdAt) [requestIdField requestId]

/-- `Cursor.encode`. -/
def encodeCursor (createdAt : Datetime) (requestId : UUID) : String :=
  String.ofList (Base64.encode ((cursorText createdAt requestId).map UInt8.ofNat))

def PageCursor.encode (cursor : PageCursor) : String := encodeCursor cursor.createdAt cursor.requestId

/-! ### Decoding -/

def isSurrogate (code : Nat) : Bool := 0xd800 ≤ code && code < 0xe000

/-- The JSON value a text stands for. -/
def cursorData (value : String) : Option JsonText.Value :=
  if value.toList.all fun c => c.toNat < 0x80 then
    (Base64.decode (Base64.pad value.toList)).bind fun bytes => (Utf8.decode bytes).bind fun text =>
      if text.any isSurrogate then none else JsonText.loads text
  else none

/-- The characters of a string. A surrogate is none of those that a timestamp
or an identifier is read from, and neither is the one that stands for it. -/
def charsOf (text : List Nat) : List Char := text.map Char.ofNat

def timeOf (text : List Char) : Option { t : Datetime // t.Valid } :=
  match read : fromisoformat text with
  | none => none
  | some t => some ⟨t, Isoformat.valid_of_fromisoformat read⟩

/-- `datetime.fromisoformat(data["c"])`. -/
def createdAtOf (data : JsonText.Value) : Option { t : Datetime // t.Valid } :=
  match data.get createdAtKey with
  | some (.str text) => timeOf (charsOf text)
  | _ => none

def invalidCursor : Exn := .validation "the supplied cursor is not valid"

/-- `UUID(data["i"])`. A value without `replace` raises an `AttributeError`,
which is not among the errors that make a cursor invalid. -/
def requestIdOf (data : JsonText.Value) : Except Exn BoundedUUID :=
  match data.get requestIdKey with
  | none | some .null => .error invalidCursor
  | some (.str text) => (uuidOfText (charsOf text)).elim (.error invalidCursor) .ok
  | some _ => .error .unexpected

/-- `Cursor.decode`. -/
def PageCursor.decode (value : String) : Except Exn PageCursor := do
  let data ← (cursorData value).elim (.error invalidCursor) .ok
  let ⟨createdAt, valid⟩ ← (createdAtOf data).elim (.error invalidCursor) .ok
  let ⟨requestId, bounded⟩ ← requestIdOf data
  return ⟨createdAt, requestId, valid, bounded⟩

/-! ### A cursor that was encoded is decoded -/

/-- A character that JSON and UTF-8 both leave as it is. -/
def IsPlain (code : Nat) : Prop := code < 0x80 ∧ JsonText.isBare code = true

theorem IsPlain.of_isoformat {t : Datetime} {c : Char} (member : c ∈ isoformat t) : IsPlain c.toNat := by
  rcases Isoformat.isoChar_of_mem_isoformat member with digit | sign
  · have range : 48 ≤ c.toNat ∧ c.toNat ≤ 57 := by
      simpa [Char.isDigit, UInt32.le_iff_toNat_le] using digit
    refine ⟨by omega, ?_⟩
    simp only [JsonText.isBare, Bool.and_eq_true, bne_iff_ne, decide_eq_true_eq]
    exact ⟨⟨by omega, show c.toNat ≠ 34 by omega⟩, show c.toNat ≠ 92 by omega⟩
  · simp only [List.mem_cons, List.not_mem_nil, or_false] at sign
    rcases sign with rfl | rfl | rfl | rfl | rfl <;> exact ⟨by decide, by decide⟩

theorem IsPlain.of_uuidText {id : UUID} (bounded : id < 2 ^ 128) {c : Char} (member : c ∈ (uuidText id).toList) :
    IsPlain c.toNat := by
  have all : ∀ n < 16, (Nat.digitChar n).toNat < 0x80 ∧ JsonText.isBare (Nat.digitChar n).toNat = true := by
    decide +kernel
  rcases mem_uuidText member with rfl | digit
  · exact ⟨by decide, by decide⟩
  · obtain ⟨n, small, rfl⟩ := isHexChar_of_mem_hex bounded digit
    exact all n small

theorem IsPlain.of_codes {text : List Char} (all : ∀ c ∈ text, IsPlain c.toNat) :
    ∀ code ∈ JsonText.codes text, IsPlain code := by
  intro code member
  obtain ⟨c, inside, rfl⟩ := List.mem_map.mp member
  exact all c inside

theorem charsOf_codes (text : List Char) : charsOf (JsonText.codes text) = text := by
  simp [charsOf, JsonText.codes, Function.comp_def, Char.ofNat_toNat]

section roundTrip

variable (createdAt : Datetime) {requestId : UUID} (bounded : requestId < 2 ^ 128)
include bounded

theorem cursorText_fields : ∀ field ∈ [createdAtField createdAt, requestIdField requestId],
    (∀ code ∈ field.1, IsPlain code) ∧ ∀ code ∈ field.2, IsPlain code := by
  have key : ∀ c ∈ ['c', 'i'], IsPlain c.toNat := by
    intro c member
    simp only [List.mem_cons, List.not_mem_nil, or_false] at member
    rcases member with rfl | rfl <;> exact ⟨by decide, by decide⟩
  intro field member
  simp only [List.mem_cons, List.not_mem_nil, or_false] at member
  rcases member with rfl | rfl
  · dsimp only [createdAtField, createdAtKey]
    exact ⟨IsPlain.of_codes fun c inside => key c (by simp at inside; simp [inside]),
      IsPlain.of_codes fun c inside => .of_isoformat inside⟩
  · dsimp only [requestIdField, requestIdKey]
    exact ⟨IsPlain.of_codes fun c inside => key c (by simp at inside; simp [inside]),
      IsPlain.of_codes fun c inside => .of_uuidText bounded inside⟩

theorem cursorText_ascii : ∀ code ∈ cursorText createdAt requestId, code < 0x80 :=
  JsonText.forall_mem_objectText (by decide) fun field member =>
    ⟨fun c inside => ((cursorText_fields createdAt bounded field member).1 c inside).1,
      fun c inside => ((cursorText_fields createdAt bounded field member).2 c inside).1⟩

/-- The object a cursor is decoded to before its fields are read. -/
theorem loads_cursorText : JsonText.loads (cursorText createdAt requestId) =
    some (.obj [(createdAtKey, .str (createdAtField createdAt).2),
      (requestIdKey, .str (requestIdField requestId).2)]) := by
  refine JsonText.loads_objectText fun field member => ?_
  obtain ⟨key, value⟩ := cursorText_fields createdAt bounded field member
  exact ⟨fun c inside => (key c inside).2, fun c inside => (value c inside).2⟩

theorem cursorData_encodeCursor :
    cursorData (encodeCursor createdAt requestId) = JsonText.loads (cursorText createdAt requestId) := by
  have ascii := cursorText_ascii createdAt bounded
  have byte : ∀ code ∈ cursorText createdAt requestId, (UInt8.ofNat code).toNat = code := by
    intro code member
    exact UInt8.toNat_ofNat_of_lt' ((ascii code member).trans (by decide))
  have bytes : ((cursorText createdAt requestId).map UInt8.ofNat).map UInt8.toNat = cursorText createdAt requestId := by
    rw [List.map_map]
    exact (List.map_congr_left byte).trans (List.map_id _)
  have low : ∀ byte ∈ (cursorText createdAt requestId).map UInt8.ofNat, byte < 0x80 := by
    intro small member
    obtain ⟨code, inside, rfl⟩ := List.mem_map.mp member
    rw [UInt8.lt_iff_toNat_lt, byte code inside]
    exact ascii code inside
  have scalar : (cursorText createdAt requestId).any isSurrogate = false := by
    refine List.any_eq_false.mpr fun code member => ?_
    have small := ascii code member
    simp only [isSurrogate, Bool.and_eq_true, decide_eq_true_eq]
    omega
  have plain : (Base64.encode ((cursorText createdAt requestId).map UInt8.ofNat)).all
      (fun c => c.toNat < 0x80) = true :=
    List.all_eq_true.mpr fun c member => by simpa using Base64.encode_ascii _ c member
  rw [cursorData, encodeCursor, String.toList_ofList, if_pos plain, Base64.decode_pad_encode, Option.bind_some,
    Utf8.decode_ascii low, Option.bind_some, bytes, scalar]
  rfl

end roundTrip

theorem timeOf_isoformat {t : Datetime} (valid : t.Valid) : timeOf (isoformat t) = some ⟨t, valid⟩ := by
  have read := Isoformat.fromisoformat_isoformat valid
  unfold timeOf
  split
  · rename_i none
    rw [read] at none
    cases none
  · rename_i t' some
    rw [read] at some
    cases some
    rfl

section fields

variable (first second : List Nat)

theorem get_createdAtKey : JsonText.Value.get createdAtKey
    (.obj [(createdAtKey, .str first), (requestIdKey, .str second)]) = some (.str first) := rfl

theorem get_requestIdKey : JsonText.Value.get requestIdKey
    (.obj [(createdAtKey, .str first), (requestIdKey, .str second)]) = some (.str second) := rfl

end fields

/-- Decoding an encoded cursor gives back the cursor. -/
theorem PageCursor.decode_encode (cursor : PageCursor) : PageCursor.decode cursor.encode = .ok cursor := by
  rw [PageCursor.decode, PageCursor.encode, cursorData_encodeCursor cursor.createdAt cursor.bounded,
    loads_cursorText cursor.createdAt cursor.bounded]
  simp only [Option.elim_some, bind, Except.bind, createdAtOf, get_createdAtKey, requestIdOf, get_requestIdKey,
    createdAtField, requestIdField, charsOf_codes, timeOf_isoformat cursor.valid,
    uuidOfText_uuidText cursor.bounded]
  rfl

end IntegrationOrchestrator
