import IntegrationOrchestrator.Domain.Errors
import IntegrationOrchestrator.Domain.Json

namespace IntegrationOrchestrator

/-! Reading typed fields out of stored JSON. A value of another type than the
one that is written there is refused, whatever Python makes of it later. -/

/-- `payload[key]`. -/
def Payload.item (payload : Payload) (key : String) : Except Exn Json :=
  match payload.get key with
  | none => .error (.keyError key)
  | some value => .ok value

namespace Json

def text : Json → Except Exn String
  | .str text => .ok text
  | _ => .error .typeError

def optionalText : Option Json → Except Exn (Option String)
  | none | some .null => .ok none
  | some (.str text) => .ok (some text)
  | some _ => .error .typeError

def integer : Json → Except Exn Int
  | .int value => .ok value
  | _ => .error .typeError

/-- `Enum(value)`. -/
def member {α : Type} (members : List α) (value : α → String) (field : Json) : Except Exn α := do
  let text ← field.text
  match memberOf members value text with
  | none => .error .unexpected
  | some found => .ok found

@[simp] theorem text_str (value : String) : text (.str value) = .ok value := rfl

@[simp] theorem integer_int (value : Int) : integer (.int value) = .ok value := rfl

@[simp] theorem optionalText_ofText (value : Option String) : optionalText (some (.ofText value)) = .ok value := by
  cases value <;> rfl

theorem member_value {α : Type} {members : List α} {value : α → String} {a : α}
    (found : memberOf members value (value a) = some a) : member members value (.str (value a)) = .ok a := by
  simp [member, found, Bind.bind, Except.bind]

end Json

end IntegrationOrchestrator
