import Mathlib

/-- A method that mutates its object in place and may raise part way. What
it wrote before an exception stays written. -/
abbrev Mutator (ε σ α : Type) := EStateM ε σ α

namespace Mutator

variable {ε σ α β : Type}

/-- Call a method on an object its caller discards if the method raises. -/
def call (method : Mutator ε σ α) (object : σ) : Except ε (α × σ) :=
  match method.run object with
  | .ok value object => .ok (value, object)
  | .error e _ => .error e

/-- The object after a call whose return value is not used. -/
def perform (method : Mutator ε σ α) (object : σ) : Except ε σ := (call method object).map (·.2)

/-- The object after a call, whether or not the method raised. -/
def after (method : Mutator ε σ α) (object : σ) : σ :=
  match method.run object with
  | .ok _ object => object
  | .error _ object => object

@[simp] theorem call_pure (value : α) (object : σ) :
    call (pure value : Mutator ε σ α) object = .ok (value, object) := rfl

@[simp] theorem call_bind (first : Mutator ε σ α) (rest : α → Mutator ε σ β) (object : σ) :
    call (first >>= rest) object = (call first object).bind (fun out => call (rest out.1) out.2) := by
  simp only [call, EStateM.run, bind, EStateM.bind]
  cases first object <;> rfl

@[simp] theorem call_map (f : α → β) (method : Mutator ε σ α) (object : σ) :
    call (f <$> method) object = (call method object).map (fun out => (f out.1, out.2)) := by
  rw [map_eq_pure_bind, call_bind]
  cases call method object <;> rfl

@[simp] theorem call_get (object : σ) : call (get : Mutator ε σ σ) object = .ok (object, object) := rfl

@[simp] theorem call_set (object object' : σ) :
    call (set object' : Mutator ε σ PUnit) object = .ok (PUnit.unit, object') := rfl

@[simp] theorem call_modify (change : σ → σ) (object : σ) :
    call (modify change : Mutator ε σ PUnit) object = .ok (PUnit.unit, change object) := rfl

@[simp] theorem call_throw (e : ε) (object : σ) :
    call (throw e : Mutator ε σ α) object = .error e := rfl

theorem call_ite {p : Prop} [Decidable p] (yes no : Mutator ε σ α) (object : σ) :
    call (if p then yes else no) object = if p then call yes object else call no object := by
  split <;> rfl

theorem after_of_call {method : Mutator ε σ α} {object object' : σ} {value : α}
    (run : call method object = .ok (value, object')) : after method object = object' := by
  unfold call at run
  unfold after
  split at run
  · cases run
    rfl
  · cases run

@[simp] theorem after_pure (value : α) (object : σ) : after (pure value : Mutator ε σ α) object = object := rfl

@[simp] theorem after_throw (e : ε) (object : σ) : after (throw e : Mutator ε σ α) object = object := rfl

@[simp] theorem after_map (f : α → β) (method : Mutator ε σ α) (object : σ) :
    after (f <$> method) object = after method object := by
  simp only [after, EStateM.run, Functor.map, EStateM.map]
  cases method object <;> rfl

/-- The rest of a method runs on what its first part left. -/
theorem after_bind {first : Mutator ε σ α} (rest : α → Mutator ε σ β) {object object' : σ} {value : α}
    (run : call first object = .ok (value, object')) :
    after (first >>= rest) object = after (rest value) object' := by
  simp only [call, EStateM.run] at run
  simp only [after, EStateM.run, bind, EStateM.bind]
  cases out : first object with
  | ok value' object'' =>
    rw [out] at run
    cases run
    rfl
  | error e object'' =>
    rw [out] at run
    cases run

theorem after_bind_error {first : Mutator ε σ α} (rest : α → Mutator ε σ β) {object : σ} {e : ε}
    (raised : call first object = .error e) : after (first >>= rest) object = after first object := by
  simp only [call, EStateM.run] at raised
  simp only [after, EStateM.run, bind, EStateM.bind]
  cases out : first object with
  | ok value' object' =>
    rw [out] at raised
    cases raised
  | error e' object' => rfl

end Mutator
