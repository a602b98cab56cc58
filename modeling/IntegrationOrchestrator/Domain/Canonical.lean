import IntegrationOrchestrator.Domain.JsonEquality
import IntegrationOrchestrator.Foundation.JsonWriter

namespace IntegrationOrchestrator

open JsonWriter

/-- A sign and digits. -/
theorem intText (value : Int) : ∃ sign digits, (toString value).toList = sign ++ Nat.toDigits 10 digits ∧
    (sign = [] ∨ sign = ['-']) := by
  cases value with
  | ofNat n => exact ⟨[], n, String.toList_ofList, .inl rfl⟩
  | negSucc n =>
    have spelled : toString (Int.negSucc n) = "-" ++ String.ofList (Nat.toDigits 10 (n + 1)) := rfl
    exact ⟨['-'], n + 1, by rw [spelled]; simp, .inr rfl⟩

theorem intText_nonempty (value : Int) : (toString value).toList ≠ [] := by
  obtain ⟨sign, digits, spelled, -⟩ := intText value
  rw [spelled]
  exact List.append_ne_nil_of_right_ne_nil _ Nat.toDigits_ne_nil

theorem intText_chars (value : Int) : ∀ c ∈ (toString value).toList, c.isDigit = true ∨ c = '-' := by
  intro c member
  obtain ⟨sign, digits, spelled, signed⟩ := intText value
  rw [spelled] at member
  rcases List.mem_append.mp member with inSign | digit
  · rcases signed with rfl | rfl
    · cases inSign
    · exact .inr (List.mem_singleton.mp inSign)
  · exact .inl (Nat.isDigit_of_mem_toDigits (by decide) (by decide) digit)

theorem isLiteral_of_digit {c : Char} (digit : c.isDigit = true ∨ c = '-') : isLiteral c = true := by
  rcases digit with digit | rfl
  · simp [isLiteral, Char.isAlphanum, digit]
  · decide

/-- A decimal integer, as `str(int)` writes it. -/
def intLiteral (value : Int) : Literal where
  text := (toString value).toList
  nonempty := intText_nonempty value
  literal c member := isLiteral_of_digit (intText_chars value c member)

/-- How Python writes a float that is no integer. -/
structure FloatText where
  render : Rat → Literal
  starts : ∀ value, ∀ c ∈ (render value).text.head?, c.isDigit = true ∨ c = '-'
  injective : ∀ a b, a.den ≠ 1 → b.den ≠ 1 → render a = render b → a = b
  notInteger : ∀ value, value.den ≠ 1 → ∀ integer, render value ≠ intLiteral integer

namespace Json

mutual

/-- `_normalize`: sorted keys, and integers for integral floats. -/
def normalize : Json → Json
  | .obj fields => .obj (sortKeys (normalizeFields fields))
  | .arr items => .arr (normalizeItems items)
  | .float value => if value.den = 1 then .int value.num else .float value
  | value => value

def normalizeItems : List Json → List Json
  | [] => []
  | item :: rest => item.normalize :: normalizeItems rest

def normalizeFields : List (String × Json) → List (String × Json)
  | [] => []
  | (key, value) :: rest => (key, value.normalize) :: normalizeFields rest

end

theorem constant_literal : ∀ name ∈ [['n', 'u', 'l', 'l'], ['t', 'r', 'u', 'e'], ['f', 'a', 'l', 's', 'e']],
    name ≠ [] ∧ ∀ c ∈ name, isLiteral c = true := by
  simp [isLiteral]

def nullLiteral : Literal where
  text := ['n', 'u', 'l', 'l']
  nonempty := (constant_literal _ (by decide)).1
  literal := (constant_literal _ (by decide)).2

def boolLiteral : Bool → Literal
  | true => ⟨['t', 'r', 'u', 'e'], (constant_literal _ (by decide)).1, (constant_literal _ (by decide)).2⟩
  | false => ⟨['f', 'a', 'l', 's', 'e'], (constant_literal _ (by decide)).1, (constant_literal _ (by decide)).2⟩

mutual

/-- What `json.dumps` writes with `sort_keys`. -/
def doc (floats : FloatText) : Json → Doc
  | .null => .atom nullLiteral
  | .bool value => .atom (boolLiteral value)
  | .int value => .atom (intLiteral value)
  | .float value => .atom (floats.render value)
  | .str value => .str value.toList
  | .arr items => .arr (docItems floats items)
  | .obj fields => .obj ((sortKeys (docFields floats fields)).map fun field => (field.1.toList, field.2))

def docItems (floats : FloatText) : List Json → List Doc
  | [] => []
  | item :: rest => item.doc floats :: docItems floats rest

def docFields (floats : FloatText) : List (String × Json) → List (String × Doc)
  | [] => []
  | (key, value) :: rest => (key, value.doc floats) :: docFields floats rest

end

/-- `canonical_json`. -/
def canonicalJson (floats : FloatText) (value : Json) : String :=
  String.ofList (value.normalize.doc floats).write

/-- The value of a number as it is written after normalization. -/
def numberLiteral (floats : FloatText) (value : Rat) : Literal :=
  if value.den = 1 then intLiteral value.num else floats.render value

variable {floats : FloatText} {a b : Json}

theorem normalizeItems_eq (items : List Json) : normalizeItems items = items.map normalize := by
  induction items with
  | nil => rfl
  | cons item rest ih => rw [normalizeItems, ih, List.map_cons]

theorem normalizeFields_eq (fields : List (String × Json)) :
    normalizeFields fields = fields.map fun field => (field.1, field.2.normalize) := by
  induction fields with
  | nil => rfl
  | cons field rest ih => rw [normalizeFields, ih, List.map_cons]

theorem docItems_eq (items : List Json) : docItems floats items = items.map (doc floats) := by
  induction items with
  | nil => rfl
  | cons item rest ih => rw [docItems, ih, List.map_cons]

theorem docFields_eq (fields : List (String × Json)) :
    docFields floats fields = fields.map fun field => (field.1, field.2.doc floats) := by
  induction fields with
  | nil => rfl
  | cons field rest ih => rw [docFields, ih, List.map_cons]

/-- What `canonical_json` writes for the value. -/
def canonical (floats : FloatText) (value : Json) : Doc := value.normalize.doc floats

theorem canonical_number {value : Rat} (number : a.number? = some value) :
    a.canonical floats = .atom (numberLiteral floats value) := by
  cases a with
  | int n =>
    cases number
    simp [canonical, normalize, doc, numberLiteral]
  | float value' =>
    cases number
    by_cases whole : value.den = 1 <;> simp [canonical, normalize, doc, numberLiteral, whole]
  | _ => cases number

@[simp] theorem canonical_arr (items : List Json) :
    (Json.arr items).canonical floats = .arr (items.map (canonical floats)) := by
  simp [canonical, normalize, doc, normalizeItems_eq, docItems_eq, Function.comp_def]

/-- Sorting the keys a second time changes nothing. -/
@[simp] theorem canonical_obj (fields : Payload) :
    (Json.obj fields).canonical floats =
      .obj ((sortKeys (fields.map fun field => (field.1, field.2.canonical floats))).map
        fun field => (field.1.toList, field.2)) := by
  have values : ∀ sorted : List (String × Json), (sorted.map fun field => (field.1, field.2.doc floats)) =
      sorted.map fun field => (field.1, doc floats field.2) := fun _ => rfl
  rw [canonical, normalize, doc, docFields_eq, values, sortKeys_map, sortKeys_sortKeys, normalizeFields_eq, ← sortKeys_map,
    List.map_map]
  rfl

theorem numberLiteral_injective : Function.Injective (numberLiteral floats) := by
  intro x y same
  unfold numberLiteral at same
  split at same
  next whole =>
    split at same
    next whole' =>
      have texts := Int.repr_injective (String.toList_inj.mp (congrArg Literal.text same))
      exact Rat.ext texts (whole.trans whole'.symm)
    next broken => exact absurd same.symm (floats.notInteger y broken _)
  next broken =>
    split at same
    next whole' => exact absurd same (floats.notInteger x broken _)
    next broken' => exact floats.injective x y broken broken' same

theorem numberLiteral_starts (value : Rat) : ∀ c ∈ (numberLiteral floats value).text.head?, c.isDigit = true ∨ c = '-' := by
  intro c first
  unfold numberLiteral at first
  split at first
  · exact intText_chars _ c (List.mem_of_mem_head? first)
  · exact floats.starts value c first

theorem constant_ne_number {name : List Char} {value : Rat} {literal : Literal} (spelled : literal.text = name)
    (constant : name ∈ [['n', 'u', 'l', 'l'], ['t', 'r', 'u', 'e'], ['f', 'a', 'l', 's', 'e']]) :
    literal ≠ numberLiteral floats value := by
  rintro rfl
  have first := @numberLiteral_starts floats value
  rw [spelled] at first
  revert name
  simp

@[simp] theorem canonical_null : Json.null.canonical floats = .atom nullLiteral := rfl

@[simp] theorem canonical_bool (value : Bool) : (Json.bool value).canonical floats = .atom (boolLiteral value) := rfl

@[simp] theorem canonical_int (value : Int) : (Json.int value).canonical floats = .atom (numberLiteral floats value) :=
  canonical_number rfl

@[simp] theorem canonical_float (value : Rat) :
    (Json.float value).canonical floats = .atom (numberLiteral floats value) :=
  canonical_number rfl

@[simp] theorem canonical_str (value : String) : (Json.str value).canonical floats = .str value.toList := rfl

@[simp] theorem nullLiteral_ne_number (value : Rat) : nullLiteral ≠ numberLiteral floats value :=
  constant_ne_number rfl (by decide)

@[simp] theorem boolLiteral_ne_number (flag : Bool) (value : Rat) : boolLiteral flag ≠ numberLiteral floats value := by
  cases flag <;> exact constant_ne_number rfl (by decide)

@[simp] theorem nullLiteral_ne_bool (flag : Bool) : nullLiteral ≠ boolLiteral flag := by
  intro same
  have texts := congrArg Literal.text same
  cases flag <;> cases texts

@[simp] theorem boolLiteral_ne_null (flag : Bool) : boolLiteral flag ≠ nullLiteral := (nullLiteral_ne_bool flag).symm

theorem boolLiteral_injective : Function.Injective boolLiteral := by
  intro a b same
  have texts := congrArg Literal.text same
  cases a <;> cases b <;> first | rfl | cases texts

theorem canonical_eq_number {value : Rat} :
    b.canonical floats = .atom (numberLiteral floats value) ↔ b.number? = some value := by
  cases b <;> simp [number?, canonical_arr, canonical_obj, numberLiteral_injective.eq_iff]

variable {fields fields' : Payload}

/-- Two objects have one canonical form exactly if they have one set of keys
and one canonical form under each. -/
theorem canonical_obj_eq_iff (distinct : (fields.map Prod.fst).Nodup) (distinct' : (fields'.map Prod.fst).Nodup) :
    (Json.obj fields).canonical floats = (Json.obj fields').canonical floats ↔ fields.length = fields'.length ∧
      ∀ field ∈ fields, ∃ b, fields'.get field.1 = some b ∧ field.2.canonical floats = b.canonical floats := by
  have keys : Function.Injective fun field : String × Doc => (field.1.toList, field.2) := by
    rintro ⟨key, value⟩ ⟨key', value'⟩ same
    simpa [String.toList_inj] using same
  have distinctKeys : ((fields.map fun field => (field.1, field.2.canonical floats)).map Prod.fst).Nodup := by
    rw [List.map_map]
    exact distinct
  rw [canonical_obj, canonical_obj, Doc.obj.injEq, keys.list_map.eq_iff, sortKeys_eq_iff distinctKeys,
    List.length_map, List.length_map, List.forall_mem_map]
  refine and_congr_right fun _ => forall₂_congr fun field _ => ?_
  simp only [List.mem_map, Prod.mk.injEq, Payload.get_eq_some_iff distinct']
  constructor
  · rintro ⟨field', member, key, value⟩
    exact ⟨field'.2, key ▸ member, value.symm⟩
  · rintro ⟨b, member, value⟩
    exact ⟨_, member, rfl, value.symm⟩

theorem canonical_eq_iff (distinct : a.distinct = true) (distinct' : b.distinct = true) :
    a.canonical floats = b.canonical floats ↔ a.same b = true := by
  induction a using Json.induct generalizing b with
  | null => cases b <;> simp [same]
  | bool flag => cases b <;> simp [same, boolLiteral_injective.eq_iff]
  | int value =>
    rw [canonical_int, eq_comm, canonical_eq_number]
    simp [same]
  | float value =>
    rw [canonical_float, eq_comm, canonical_eq_number]
    simp [same]
  | str text => cases b <;> simp [same, String.toList_inj]
  | arr items ih =>
    cases b with
    | arr items' =>
      have each := distinct_arr.mp distinct
      have each' := distinct_arr.mp distinct'
      rw [canonical_arr, canonical_arr, Doc.arr.injEq, same, sameItems_iff, ← List.forall₂_eq_eq_eq,
        List.forall₂_map_left_iff, List.forall₂_map_right_iff, List.forall₂_iff_zip, List.forall₂_iff_zip]
      refine and_congr_right fun _ => forall₃_congr fun item item' pair => ?_
      obtain ⟨member, member'⟩ := List.of_mem_zip pair
      exact ih item member (each item member) (each' item' member')
    | _ => simp [same]
  | obj fields ih =>
    cases b with
    | obj fields' =>
      obtain ⟨keys, each⟩ := distinct_obj.mp distinct
      obtain ⟨keys', each'⟩ := distinct_obj.mp distinct'
      rw [canonical_obj_eq_iff keys keys', same, Bool.and_eq_true, beq_iff_eq, sameFields_iff]
      refine and_congr_right fun _ => forall₂_congr fun field member => exists_congr fun b => ?_
      refine and_congr_right fun found => ?_
      have stored := (Payload.get_eq_some_iff keys').mp found
      exact ih field member (each field member) (each' _ stored)
    | _ => simp [same]

end Json

end IntegrationOrchestrator
