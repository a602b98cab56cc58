import IntegrationOrchestrator.Domain.Json

namespace IntegrationOrchestrator

theorem Payload.get_eq_some_iff {payload : Payload} (distinct : (payload.map Prod.fst).Nodup) {key : String}
    {value : Json} : payload.get key = some value ↔ (key, value) ∈ payload := by
  induction payload with
  | nil => simp
  | cons field rest ih =>
    obtain ⟨fresh, distinct⟩ := List.nodup_cons.mp distinct
    rw [Payload.get_cons, List.mem_cons]
    split
    next same =>
      subst same
      have absent : (field.1, value) ∉ rest := fun member => fresh (List.mem_map.mpr ⟨_, member, rfl⟩)
      simp [Prod.ext_iff, absent, eq_comm]
    next other =>
      rw [ih distinct]
      simp [Prod.ext_iff, Ne.symm other]

namespace Json

/-- Induction with the hypothesis for every item and every field. -/
theorem induct {P : Json → Prop} (null : P .null) (bool : ∀ value, P (.bool value)) (int : ∀ value, P (.int value))
    (float : ∀ value, P (.float value)) (str : ∀ value, P (.str value))
    (arr : ∀ items, (∀ item ∈ items, P item) → P (.arr items))
    (obj : ∀ fields, (∀ field ∈ fields, P field.2) → P (.obj fields)) (value : Json) : P value :=
  @Json.rec P (fun items => ∀ item ∈ items, P item) (fun fields => ∀ field ∈ fields, P field.2)
    (fun field => P field.2) null bool int float str arr obj
    (fun _ none => absurd none List.not_mem_nil)
    (fun _ _ first rest => List.forall_mem_cons.mpr ⟨first, rest⟩)
    (fun _ none => absurd none List.not_mem_nil)
    (fun _ _ first rest => List.forall_mem_cons.mpr ⟨first, rest⟩)
    (fun _ _ value => value) value

mutual

/-- The keys of every object in the value are distinct, as those of a
dictionary are. -/
def distinct : Json → Bool
  | .arr items => distinctItems items
  | .obj fields => (fields.map Prod.fst).Nodup && distinctFields fields
  | _ => true

def distinctItems : List Json → Bool
  | [] => true
  | item :: rest => item.distinct && distinctItems rest

def distinctFields : List (String × Json) → Bool
  | [] => true
  | (_, value) :: rest => value.distinct && distinctFields rest

end

/-- The value of a number. A boolean is none. -/
def number? : Json → Option Rat
  | .int value => some value
  | .float value => some value
  | _ => none

mutual

/-- Python's equality without its identification of booleans with numbers:
keys in any order, and an integral float equal to the integer. -/
def same : Json → Json → Bool
  | .null, .null => true
  | .bool a, .bool b => a == b
  | .int a, b => b.number? == some (a : Rat)
  | .float a, b => b.number? == some a
  | .str a, .str b => a == b
  | .arr a, .arr b => sameItems a b
  | .obj a, .obj b => a.length == b.length && sameFields a b
  | _, _ => false

def sameItems : List Json → List Json → Bool
  | [], [] => true
  | a :: as, b :: bs => a.same b && sameItems as bs
  | _, _ => false

/-- Every field of the first object is in the second one. -/
def sameFields : List (String × Json) → Payload → Bool
  | [], _ => true
  | (key, a) :: rest, other =>
    (match other.get key with
    | some b => a.same b
    | none => false) && sameFields rest other

end

variable {a b : Json} {items items' : List Json} {fields fields' : Payload}

theorem distinctItems_iff : distinctItems items = true ↔ ∀ item ∈ items, item.distinct = true := by
  induction items with
  | nil => simp [distinctItems]
  | cons item rest ih => simp [distinctItems, ih]

theorem distinctFields_iff : distinctFields fields = true ↔ ∀ field ∈ fields, field.2.distinct = true := by
  induction fields with
  | nil => simp [distinctFields]
  | cons field rest ih =>
    obtain ⟨key, value⟩ := field
    simp [distinctFields, ih]

theorem distinct_arr : (Json.arr items).distinct = true ↔ ∀ item ∈ items, item.distinct = true := by
  rw [distinct, distinctItems_iff]

theorem distinct_obj : (Json.obj fields).distinct = true ↔
    (fields.map Prod.fst).Nodup ∧ ∀ field ∈ fields, field.2.distinct = true := by
  rw [distinct, Bool.and_eq_true, decide_eq_true_eq, distinctFields_iff]

theorem sameItems_iff : sameItems items items' = true ↔ List.Forall₂ (fun a b => same a b = true) items items' := by
  induction items generalizing items' with
  | nil => cases items' <;> simp [sameItems]
  | cons item rest ih => cases items' <;> simp [sameItems, ih]

theorem sameFields_iff : sameFields fields fields' = true ↔
    ∀ field ∈ fields, ∃ b, fields'.get field.1 = some b ∧ field.2.same b = true := by
  induction fields with
  | nil => simp [sameFields]
  | cons field rest ih =>
    obtain ⟨key, value⟩ := field
    rw [sameFields, Bool.and_eq_true, ih, List.forall_mem_cons]
    cases fields'.get key <;> simp

theorem same_arr : (Json.arr items).same b = true ↔
    ∃ items', b = .arr items' ∧ List.Forall₂ (fun a b => same a b = true) items items' := by
  cases b <;> simp [same, sameItems_iff]

theorem same_obj : (Json.obj fields).same b = true ↔ ∃ fields', b = .obj fields' ∧
    fields.length = fields'.length ∧ ∀ field ∈ fields, ∃ b, Payload.get fields' field.1 = some b ∧ field.2.same b = true := by
  cases b <;> simp [same, sameFields_iff]

end Json

end IntegrationOrchestrator
