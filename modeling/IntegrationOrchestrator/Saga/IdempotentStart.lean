import IntegrationOrchestrator.Saga.Runs
import IntegrationOrchestrator.Saga.Transactions

namespace IntegrationOrchestrator

open WorkflowExecution WorkflowOrchestrator

variable {settings : Settings} {input : Input} {s s' : State} {ev : Evidence} {licence : Licence} {now : Instant}
  {e e' : WorkflowExecution} {step step' : WorkflowStepExecution} {c c' : Config} {key : String}
  {command : StartCommand} {records : List WorkflowRecord}

/-- Two states of one execution row. -/
structure SameExecution (e e' : WorkflowExecution) : Prop where
  id : e'.id = e.id
  idempotencyKey : e'.idempotencyKey = e.idempotencyKey

theorem WorkflowExecution.Moves.sameExecution (moves : Moves ev licence now e e') : SameExecution e e' := by
  induction moves with
  | refl => exact ⟨rfl, rfl⟩
  | tail _ move ih => cases move <;> exact ⟨ih.id, ih.idempotencyKey⟩

theorem WorkflowExecution.StepReplaced.sameExecution (swap : StepReplaced e e' step step') : SameExecution e e' := by
  rw [swap.rest]
  exact ⟨rfl, rfl⟩

theorem settleCompensation_sameExecution {stepId requestId : UUID} {dispatched : IntegrationRequest}
    (run : settleCompensation e stepId requestId dispatched now = .ok e') : SameExecution e e' := by
  unfold settleCompensation at run
  split at run
  · obtain ⟨steps, _, done⟩ := Rows.bind_eq_ok.mp run
    cases done
    exact ⟨rfl, rfl⟩
  · cases run
    exact ⟨rfl, rfl⟩
  · obtain ⟨step, _, run⟩ := Rows.bind_eq_ok.mp run
    obtain ⟨failed, changed, performed⟩ := Rows.bind_eq_ok.mp run
    obtain ⟨steps, _, done⟩ := Rows.bind_eq_ok.mp changed
    cases done
    obtain ⟨_, rfl⟩ := perform_transitionTo_ok performed
    exact ⟨rfl, rfl⟩

/-- No transaction changes the id or the idempotency key of its execution. -/
theorem Transaction.sameExecution {requests : UUID → Option IntegrationRequest} (sound : Sound ev e)
    (keyed : ∀ requestId q, requests requestId = some q → q.id = requestId)
    (transaction : Transaction requests input e e') : SameExecution e e' := by
  have links : Linked Evidence.any e :=
    ⟨fun _ _ _ _ => trivial, sound.linked.phase, fun _ _ _ _ _ => trivial⟩
  have same : Moves .any .any input.readings.now e e' → SameExecution e e' := fun moves => moves.sameExecution
  cases transaction with
  | claim => exact ⟨rfl, rfl⟩
  | advance run => exact same (advance_moves links.forward keyed (fun _ _ _ _ => trivial) run).1
  | refresh run => exact same (refreshExecutionStatus_moves run)
  | start run =>
    obtain ⟨step, _, _, _, _, _, _, _, swap⟩ := runForwardStep_start run
    exact swap.sameExecution
  | settleForward run =>
    exact same (settleForward_moves trivial (fun _ => trivial) (fun _ _ _ _ => trivial) run)
  | expire run => exact same (enforceDeadline_moves run)
  | cancel run => exact same (cancel_moves run)
  | terminal run => exact same (applyTerminal_moves links (fun _ => trivial) (fun _ _ _ _ => trivial) run)
  | begin run =>
    obtain ⟨_, _, _, _, _, _, swap⟩ := continueCompensation_begin sound.ids run
    exact swap.sameExecution
  | finish run =>
    obtain ⟨unwinding, finished⟩ := continueCompensation_finish run
    exact same (finishUnwind_moves unwinding finished)
  | release run => exact same (compensateStep_done run)
  | compensate run =>
    obtain ⟨step, _, _, _, _, _, swap⟩ := compensateStep_start run
    exact swap.sameExecution
  | settleCompensation run => exact settleCompensation_sameExecution run

/-- The unique constraint: an idempotency key names at most one execution. -/
def State.KeyedOnce (s : State) : Prop :=
  ∀ e e' key, s.db.executions.get e.id = some e → s.db.executions.get e'.id = some e' →
    e.idempotencyKey = some key → e'.idempotencyKey = some key → e = e'

theorem addExecution_key {db db' : Database} (run : db.addExecution e = .ok db') {other : WorkflowExecution}
    (stored : db.executions.get other.id = some other) (keyed : e.idempotencyKey = some key) :
    other.idempotencyKey ≠ some key := by
  unfold Database.addExecution at run
  split at run
  · cases run
  · rename_i fresh
    simp only [Bool.or_eq_true, not_or, Bool.and_eq_true, keyed, Option.isSome_some, true_and, List.any_eq_true,
      decide_eq_true_eq, not_exists, not_and] at fresh
    exact fresh.2 other (Table.mem_rows_iff.mpr stored)

theorem ExecutionStep.keyedOnce {frame : Frame} (good : s.Good) (held : s.KeyedOnce)
    (step : ExecutionStep input frame s s') : s'.KeyedOnce := by
  cases step with
  | same executions =>
    intro e e' key stored stored'
    rw [executions] at stored stored'
    exact held e e' key stored stored'
  | @inserts command made db _ _ added executions =>
    intro e e' key stored stored' keyed keyed'
    rw [executions, Table.get_put] at stored stored'
    split at stored <;> split at stored'
    · exact (Option.some.inj stored).symm.trans (Option.some.inj stored')
    · cases stored
      exact absurd keyed' (addExecution_key added stored' keyed)
    · cases stored'
      exact absurd keyed (addExecution_key added stored keyed')
    · exact held e e' key stored stored' keyed keyed'
  | @commits old new before transaction executions =>
    have same := transaction.sameExecution (good.sound _ _ before) fun _ _ => Table.get_key
    have origin : ∀ e, s'.db.executions.get e.id = some e →
        ∃ row, s.db.executions.get row.id = some row ∧ SameExecution row e := by
      intro e stored
      rw [executions, Table.get_put] at stored
      split at stored
      · cases stored
        exact ⟨old, before, same⟩
      · exact ⟨e, stored, rfl, rfl⟩
    intro e e' key stored stored' keyed keyed'
    obtain ⟨row, here, first⟩ := origin e stored
    obtain ⟨row', here', second⟩ := origin e' stored'
    cases held row row' key here here' (first.idempotencyKey ▸ keyed) (second.idempotencyKey ▸ keyed')
    rw [first.id] at stored
    rw [second.id] at stored'
    exact Option.some.inj (stored.symm.trans stored')

theorem reachable_keyedOnce (reach : Reachable settings c) : c.state.KeyedOnce := by
  refine reach.state_invariant State.KeyedOnce ?_ ?_
  · intro e e' key stored
    cases stored
  · intro c task input frame rest state pushed reached held _ _ ran
    exact (Frame.executionStep ran).keyedOnce (reachable_good (Restriction.within_any _) reached).1 held

/-- Once an execution has the key, it keeps it, and no other one gets it. -/
theorem keyed_stays (reach : Reachable settings c) (stored : c.state.db.executions.get e.id = some e)
    (keyed : e.idempotencyKey = some key) (onward : (orchestrator settings).Reach (fun _ _ => True) c c') :
    ∃ e', c'.state.db.executions.get e.id = some e' ∧ e'.idempotencyKey = some key := by
  refine stays (fun s => ∃ e', s.db.executions.get e.id = some e' ∧ e'.idempotencyKey = some key)
    (Restriction.within_any _) ?_ reach ⟨e, stored, keyed⟩ onward
  rintro c c' _ _ _ _ _ _ _ _ _ ⟨before, here, keyed⟩ effect
  obtain ⟨after, there, moves⟩ := effect.stored here
  exact ⟨after, there, moves.sameExecution.idempotencyKey.trans keyed⟩

theorem startExecution_keyed {newId : Nat → UUID} (run : startExecution command newId now = .ok e) :
    e.idempotencyKey = command.idempotencyKey := by
  obtain ⟨steps, _, run⟩ := Rows.bind_eq_ok.mp run
  obtain ⟨queued, moved, promoted⟩ := Rows.bind_eq_ok.mp run
  obtain ⟨_, rfl⟩ := perform_transitionTo_ok moved
  obtain ⟨promotedSteps, _, done⟩ := Rows.bind_eq_ok.mp promoted
  cases done
  rfl

/-- Among inserts that nothing else stands in the way of, the key decides. -/
theorem addExecution_iff {db : Database} (keyed : e.idempotencyKey = some key)
    (clear : ∃ db', db.addExecution { e with idempotencyKey := none } = .ok db') :
    (∃ db', db.addExecution e = .ok db') ↔
      ∀ other, db.executions.get other.id = some other → other.idempotencyKey ≠ some key := by
  constructor
  · rintro ⟨db', added⟩ other stored
    exact addExecution_key added stored keyed
  · intro unseen
    obtain ⟨db', added⟩ := clear
    unfold Database.addExecution at added ⊢
    split at added
    · cases added
    · rename_i fresh
      simp only [Option.isSome_none, Bool.false_and, Bool.or_false] at fresh
      have free : (e.idempotencyKey.isSome && db.executions.rows.any (·.idempotencyKey = e.idempotencyKey)) = false := by
        simp only [keyed, Option.isSome_some, Bool.true_and, List.any_eq_false, decide_eq_true_eq]
        exact fun other member => unseen other (Table.mem_rows_iff.mp member)
      rw [free, Bool.or_false, if_neg fresh]
      exact ⟨_, rfl⟩

section Calls

variable {task : Nat} {rest : List Frame}

/-- The lookup of a call. -/
theorem startWorkflow_lookup (settings : Settings) (keyed : command.idempotencyKey = some key) (named : key ≠ "")
    (atTask : c.tasks[task]? = some (.startWorkflow command :: rest)) (input : Input) : ∃ c',
      (orchestrator settings).next c (.run task input) = some c' ∧ c'.state = c.state ∧
      ((∃ e, c.state.db.executions.get e.id = some e ∧ e.idempotencyKey = some key ∧
          c'.tasks[task]? = some (.advance e.id :: rest)) ∨
        ((∀ e, c.state.db.executions.get e.id = some e → e.idempotencyKey ≠ some key) ∧
          c'.tasks[task]? = some (.createExecution command :: rest))) := by
  have asks : truthy (some key) = true := by simp [truthy, named]
  cases found : c.state.db.executionByIdempotencyKey key with
  | some e =>
    have looks : Frame.exec settings (.startWorkflow command) input c.state = .ok (c.state, [.advance e.id]) := by
      simp only [Frame.exec, Frame.execStartWorkflow, keyed, asks, if_true, Option.getD_some, found]
    refine ⟨_, TaskPool.next_run_ok (P := orchestrator settings) atTask looks, rfl, Or.inl ⟨e, ?_, ?_, ?_⟩⟩
    · exact Table.mem_rows_iff.mp (List.mem_of_find?_eq_some found)
    · simpa using List.find?_some found
    · exact TaskPool.task_set atTask
  | none =>
    have looks : Frame.exec settings (.startWorkflow command) input c.state =
        .ok (c.state, [.createExecution command]) := by
      simp only [Frame.exec, Frame.execStartWorkflow, keyed, asks, if_true, Option.getD_some, found]
    refine ⟨_, TaskPool.next_run_ok (P := orchestrator settings) atTask looks, rfl, Or.inr ⟨fun e stored => ?_, ?_⟩⟩
    · simpa using List.find?_eq_none.mp found e (Table.mem_rows_iff.mpr stored)
    · exact TaskPool.task_set atTask

/-- The insert of a call that found no execution with its key. -/
theorem createExecution_insert (settings : Settings) (keyed : command.idempotencyKey = some key)
    (atTask : c.tasks[task]? = some (.createExecution command :: rest)) (input : Input)
    (started : startExecution command input.newId input.readings.now = .ok e)
    (clear : ∃ db, c.state.db.addExecution { e with idempotencyKey := none } = .ok db) :
    (∃ c', (orchestrator settings).next c (.run task input) = some c' ∧
        c'.state.db.executions.get e.id = some e ∧ c'.tasks[task]? = some (.advance e.id :: rest)) ↔
      ∀ other, c.state.db.executions.get other.id = some other → other.idempotencyKey ≠ some key := by
  rw [← addExecution_iff ((startExecution_keyed started).trans keyed) clear]
  cases added : c.state.db.addExecution e with
  | ok db =>
    have inserts : ∃ state, Frame.exec settings (.createExecution command) input c.state =
        .ok (state, [.advance e.id]) ∧ state.db.executions = db.executions := by
      simp only [Frame.exec, Frame.execCreateExecution, started, added, bind, Except.bind, pure, Except.pure]
      exact ⟨_, rfl, rfl⟩
    obtain ⟨state, ran, executions⟩ := inserts
    refine iff_of_true ⟨_, TaskPool.next_run_ok (P := orchestrator settings) atTask ran, ?_, ?_⟩ ⟨db, rfl⟩
    · rw [executions, (Database.addExecution_ok added).2.2.2]
      exact Table.get_put_self _ _
    · exact TaskPool.task_set atTask
  | error raised =>
    have raises : Frame.exec settings (.createExecution command) input c.state = .error raised := by
      simp only [Frame.exec, Frame.execCreateExecution, started, added, bind, Except.bind]
    refine iff_of_false ?_ (by simp)
    rintro ⟨c', next, stored, _⟩
    -- an exception rolls back, so the new row is not there
    cases (TaskPool.next_run_error (P := orchestrator settings) atTask raises).symm.trans next
    obtain ⟨db, cleared⟩ := clear
    have absent : c.state.db.executions.get e.id = none := (Database.addExecution_ok cleared).1
    exact absurd (absent.symm.trans stored) (by simp)

end Calls

/-- Idempotent workflow start, transaction by transaction. The key names at
most one execution, and once it names one it does so for good. A call's lookup
goes on with the execution the key names, if there is one. A call that found
none commits its own exactly if no other caller has committed one since; if one
has, the call fails. -/
theorem idempotent_start (reach : Reachable settings c) (keyed : command.idempotencyKey = some key)
    (named : key ≠ "") (task : Nat) (rest : List Frame) :
    (∀ e, c.state.db.executions.get e.id = some e → e.idempotencyKey = some key →
      ∀ c'', (orchestrator settings).Reach (fun _ _ => True) c c'' →
        ∃ e'', c''.state.db.executions.get e.id = some e'' ∧ e''.idempotencyKey = some key ∧
          ∀ other, c''.state.db.executions.get other.id = some other → other.idempotencyKey = some key →
            other = e'') ∧
    (c.tasks[task]? = some (.startWorkflow command :: rest) → ∀ input, ∃ c',
      (orchestrator settings).next c (.run task input) = some c' ∧ c'.state = c.state ∧
      ((∃ e, c.state.db.executions.get e.id = some e ∧ e.idempotencyKey = some key ∧
          c'.tasks[task]? = some (.advance e.id :: rest)) ∨
        ((∀ e, c.state.db.executions.get e.id = some e → e.idempotencyKey ≠ some key) ∧
          c'.tasks[task]? = some (.createExecution command :: rest)))) ∧
    (c.tasks[task]? = some (.createExecution command :: rest) → ∀ input e,
      startExecution command input.newId input.readings.now = .ok e →
      (∃ db, c.state.db.addExecution { e with idempotencyKey := none } = .ok db) →
      ((∃ c', (orchestrator settings).next c (.run task input) = some c' ∧
          c'.state.db.executions.get e.id = some e ∧ c'.tasks[task]? = some (.advance e.id :: rest)) ↔
        ∀ other, c.state.db.executions.get other.id = some other → other.idempotencyKey ≠ some key)) := by
  refine ⟨fun e stored here c'' onward => ?_, fun atTask input => startWorkflow_lookup settings keyed named atTask input,
    fun atTask input e started clear => createExecution_insert settings keyed atTask input started clear⟩
  obtain ⟨e'', after, kept⟩ := keyed_stays reach stored here onward
  refine ⟨e'', after, kept, fun other there also => ?_⟩
  exact reachable_keyedOnce (reach.trans onward) other e'' key there (Table.get_key after ▸ after) also kept

namespace Sample

/-- A start of a one-step workflow under an idempotency key. -/
def keyedStart : StartCommand :=
  { definition := { id := 1, name := "sample", version := 1, createdAt := 0, steps := [stage "only" []] }
    inputPayload := [("size", .int 1)], correlationId := "sample", idempotencyKey := some "order-1"
    actor := { type := .apiClient }, deadlineAt := none }

/-- Two callers look the key up; then the first one inserts its execution. -/
def raced : List Action :=
  .spawn (.startWorkflow keyedStart) :: .spawn (.startWorkflow keyedStart) ::
    work 0 1 100 1 ++ work 1 1 100 1 ++ work 0 1 100 1

/-- The task is about to insert the execution of a keyed start, and the test
holds of the start. -/
def insertsNext (task : Nat) (test : StartCommand → Bool) (c : Config) : Bool := match c.tasks[task]? with
  | some [Frame.createExecution command] => command.idempotencyKey = some "order-1" && test command
  | _ => false

theorem insertsNext_iff {task : Nat} {test : StartCommand → Bool} {c : Config}
    (found : insertsNext task test c = true) : ∃ command, c.tasks[task]? = some [.createExecution command] ∧
      command.idempotencyKey = some "order-1" ∧ test command = true := by
  unfold insertsNext at found
  split at found
  · rename_i command atTask
    simp only [Bool.and_eq_true, decide_eq_true_eq] at found
    exact ⟨command, atTask, found⟩
  · cases found

def violatesUnique : Except Exn (State × List Frame) → Bool
  | .error .integrity => true
  | _ => false

theorem violatesUnique_iff {run : Except Exn (State × List Frame)} (raises : violatesUnique run = true) :
    run = .error .integrity := by
  unfold violatesUnique at raises
  split at raises
  · rfl
  · cases raises

end Sample

/-- The second of two racing callers fails with the violation of the unique
constraint: its call ends without an execution, although the first one's is stored. -/
theorem second_start_fails :
    ∃ c command, Reachable Sample.settings c ∧ command.idempotencyKey = some "order-1" ∧
      c.tasks[1]? = some [.createExecution command] ∧
      (∃ e, c.state.db.executions.get 100 = some e ∧ e.idempotencyKey = some "order-1") ∧
      Frame.exec Sample.settings (.createExecution command) (Sample.input 2 200 .crashed) c.state = .error .integrity ∧
      ∃ c', (orchestrator Sample.settings).next c (.run 1 (Sample.input 2 200 .crashed)) = some c' ∧
        c'.tasks[1]? = some [] := by
  obtain ⟨c, reach, found⟩ := reachable_replay Sample.settings Sample.raced
    (fun (c : Config) => Sample.insertsNext 1 (fun command =>
      (c.state.db.executions.get 100).any (·.idempotencyKey = some "order-1") && Sample.violatesUnique
        (Frame.exec Sample.settings (.createExecution command) (Sample.input 2 200 .crashed) c.state)) c) (by decide)
  obtain ⟨command, atTask, keyed, found⟩ := Sample.insertsNext_iff found
  simp only [Option.any_eq_true, Bool.and_eq_true, decide_eq_true_eq] at found
  obtain ⟨⟨e, stored, named⟩, raises⟩ := found
  have raised := Sample.violatesUnique_iff raises
  exact ⟨c, command, reach, keyed, atTask, ⟨e, stored, named⟩, raised, _,
    TaskPool.next_run_error (P := orchestrator Sample.settings) atTask raised, TaskPool.task_set atTask⟩

theorem idempotent_start_first :
    ∃ c command e, Reachable Sample.settings c ∧ c.tasks[0]? = some [.createExecution command] ∧
      ∃ c', (orchestrator Sample.settings).next c (.run 0 (Sample.input 2 200 .crashed)) = some c' ∧
        c'.state.db.executions.get e.id = some e ∧ c'.tasks[0]? = some [.advance e.id] := by
  let input := Sample.input 2 200 .crashed
  obtain ⟨c, reach, found⟩ := reachable_replay Sample.settings (Sample.raced.take 4)
    (fun (c : Config) => Sample.insertsNext 0 (fun command => c.state.db.executions.rows.isEmpty &&
      (startExecution command input.newId input.readings.now).toOption.any fun e =>
        (c.state.db.addExecution { e with idempotencyKey := none }).isOk) c) (by decide)
  obtain ⟨command, atTask, keyed, found⟩ := Sample.insertsNext_iff found
  rw [Bool.and_eq_true, Option.any_eq_true] at found
  obtain ⟨empty, e, starts, adds⟩ := found
  have started : startExecution command input.newId input.readings.now = .ok e := by
    cases run : startExecution command input.newId input.readings.now with
    | ok other =>
      rw [run] at starts
      cases starts
      rfl
    | error raised =>
      rw [run] at starts
      cases starts
  have clear : ∃ db, c.state.db.addExecution { e with idempotencyKey := none } = .ok db := by
    cases added : c.state.db.addExecution { e with idempotencyKey := none } with
    | ok db => exact ⟨db, rfl⟩
    | error raised => simp [added, Except.isOk, Except.toBool] at adds
  have unseen : ∀ other, c.state.db.executions.get other.id = some other →
      other.idempotencyKey ≠ some "order-1" := by
    intro other stored
    have member := Table.mem_rows_iff.mpr stored
    simp [List.isEmpty_iff.mp empty] at member
  have calls := idempotent_start reach keyed (by decide) 0 []
  exact ⟨c, command, e, reach, atTask, (calls.2.2 atTask input e started clear).mpr unseen⟩

end IntegrationOrchestrator
