import IntegrationOrchestrator.Foundation.Rows

namespace Exceptions

variable {ε α β : Type} {bad : ε → Bool}

/-- The computation raises no exception of the given kind. -/
def Avoids (bad : ε → Bool) (x : Except ε α) : Prop := ∀ raised, x = .error raised → bad raised = false

theorem avoids_ok (a : α) : Avoids bad (.ok a : Except ε α) := by
  intro raised run
  cases run

theorem avoids_error {raised : ε} (harmless : bad raised = false) : Avoids bad (.error raised : Except ε α) := by
  intro other run
  cases run
  exact harmless

theorem Avoids.bind {x : Except ε α} {f : α → Except ε β} (first : Avoids bad x)
    (next : ∀ a, x = .ok a → Avoids bad (f a)) : Avoids bad (x >>= f) := by
  intro raised run
  cases ran : x with
  | error e =>
    rw [ran] at run
    cases run
    exact first _ ran
  | ok a =>
    rw [ran] at run
    exact next a ran raised run

theorem Avoids.map {x : Except ε α} (first : Avoids bad x) (f : α → β) : Avoids bad (x.map f) := by
  intro raised run
  cases ran : x with
  | error e =>
    rw [ran] at run
    cases run
    exact first _ ran
  | ok a =>
    rw [ran] at run
    cases run

/-- A loop over rows raises what the change of one of its rows raises. -/
theorem avoids_mapM {rows : List α} {change : α → Except ε β} (each : ∀ row ∈ rows, Avoids bad (change row)) :
    Avoids bad (rows.mapM change) := by
  induction rows with
  | nil => exact avoids_ok _
  | cons row rest ih =>
    rw [List.mapM_cons]
    refine (each row (List.mem_cons_self ..)).bind fun _ _ => ?_
    refine (ih fun other member => each other (List.mem_cons_of_mem _ member)).bind fun _ _ => ?_
    exact avoids_ok _

/-- A replacement raises what the change of the row found raises. -/
theorem avoids_modifyFirst {missing : ε} {test : α → Bool} {change : α → Except ε α} {rows : List α}
    (harmless : bad missing = false) (found : ∀ row, rows.find? test = some row → Avoids bad (change row)) :
    Avoids bad (Rows.modifyFirst missing test change rows) := by
  induction rows with
  | nil => exact avoids_error harmless
  | cons row rest ih =>
    unfold Rows.modifyFirst
    split
    · rename_i here
      exact (found row (List.find?_cons_of_pos here)).map _
    · rename_i skipped
      exact (ih fun other there => found other ((List.find?_cons_of_neg skipped).trans there)).map _

end Exceptions
