import IntegrationOrchestrator.Domain.Errors

namespace IntegrationOrchestrator

/-- `Scope.OPERATIONS_ADMIN`. -/
def operationsAdmin : String := "operations:admin"

/-- The authenticated caller. -/
structure Principal where
  subject : String
  scopes : List String

def Principal.hasScope (principal : Principal) (scope : String) : Bool := scope ∈ principal.scopes

/-- The error does not tell whether the row exists. -/
def assertOwnerAccess (principal : Principal) (ownerSubject : Option String) (enforce : Bool)
    (resourceLabel : String) : Except Exn Unit :=
  if ¬ enforce then .ok ()
  else if principal.hasScope operationsAdmin then .ok ()
  else if ownerSubject.isNone || ownerSubject = some principal.subject then .ok ()
  else .error (.notFound (resourceLabel ++ " not found"))

theorem assertOwnerAccess_ok_iff {principal : Principal} {ownerSubject : Option String} {resourceLabel : String}
    (client : principal.hasScope operationsAdmin = false) :
    assertOwnerAccess principal ownerSubject true resourceLabel = .ok () ↔
      ownerSubject = none ∨ ownerSubject = some principal.subject := by
  cases ownerSubject <;> simp [assertOwnerAccess, client]

end IntegrationOrchestrator
