import Mathlib

namespace IntegrationOrchestrator

/-- JSON values as Python holds them. A finite float is its rational value. -/
inductive Json where
  | null
  | bool (value : Bool)
  | int (value : Int)
  | float (value : Rat)
  | str (value : String)
  | arr (items : List Json)
  | obj (fields : List (String × Json))

/-- A JSON object. -/
abbrev Payload := List (String × Json)

/-- `dict.get(key)`. -/
def Payload.get (payload : Payload) (key : String) : Option Json :=
  (payload.find? (·.1 = key)).map (·.2)

/-- `{**base, **extra}`. -/
def Payload.merge (base extra : Payload) : Payload :=
  base.map (fun field => (field.1, (Payload.get extra field.1).getD field.2)) ++
    extra.filter (fun field => ¬ base.any (·.1 = field.1))

/-- An optional text as JSON. -/
def Json.ofText : Option String → Json
  | none => .null
  | some text => .str text

/-- Python's truth value. -/
def Json.truth : Json → Bool
  | .null => false
  | .bool value => value
  | .int value => value ≠ 0
  | .float value => value ≠ 0
  | .str value => value ≠ ""
  | .arr items => ¬ items.isEmpty
  | .obj fields => ¬ fields.isEmpty

@[simp] theorem Payload.get_nil (key : String) : Payload.get [] key = none := rfl

theorem Payload.get_cons (field : String × Json) (rest : Payload) (key : String) :
    Payload.get (field :: rest) key = if field.1 = key then some field.2 else Payload.get rest key := by
  by_cases same : field.1 = key <;> simp [Payload.get, same]

theorem Payload.get_append (first second : Payload) (key : String) :
    Payload.get (first ++ second) key = (Payload.get first key).or (Payload.get second key) := by
  unfold Payload.get
  rw [List.find?_append]
  cases first.find? (·.1 = key) <;> rfl

theorem Payload.get_eq_none_iff {payload : Payload} {key : String} :
    payload.get key = none ↔ ∀ field ∈ payload, field.1 ≠ key := by
  simp [Payload.get]

/-- The second dictionary wins. -/
theorem Payload.get_merge (base extra : Payload) (key : String) :
    (base.merge extra).get key = (extra.get key).or (base.get key) := by
  have replaced : Payload.get (base.map fun field => (field.1, (Payload.get extra field.1).getD field.2)) key =
      (base.get key).map (extra.get key).getD := by
    induction base with
    | nil => rfl
    | cons field rest ih =>
      rw [List.map_cons, Payload.get_cons, Payload.get_cons, ih]
      by_cases same : field.1 = key <;> simp [same]
  unfold Payload.merge
  rw [Payload.get_append, replaced]
  cases known : base.get key with
  | some value => cases extra.get key <;> rfl
  | none =>
    -- a key that is new is not filtered out
    have fresh : base.any (fun field => decide (field.1 = key)) = false := by
      simpa using Payload.get_eq_none_iff.mp known
    have kept : Payload.get (extra.filter fun field => ¬ base.any (·.1 = field.1)) key = extra.get key := by
      unfold Payload.get
      rw [List.find?_filter]
      congr 1
      refine List.find?_congr fun field _ => ?_
      by_cases same : field.1 = key
      · subst same
        simp [fresh]
      · simp [same]
    simpa using kept

end IntegrationOrchestrator
