import Mathlib

namespace TaskPool

variable {σ φ ι ε : Type}

/-- A program run by concurrent tasks. A task is a stack of frames, and a
frame is one indivisible unit of work on the shared state: it either commits
a new state and pushes the frames to run next, or raises and commits nothing.
`catches` marks the frames that stop an exception, `entry` those a new task
may start from. -/
structure Program (σ φ ι ε : Type) where
  exec : φ → ι → σ → Except ε (σ × List φ)
  entry : φ → Bool
  catches : φ → Bool

structure Config (σ φ : Type) where
  state : σ
  tasks : List (List φ)

inductive Action (φ ι : Type) where
  | spawn (frame : φ)
  | run (task : Nat) (input : ι)

def Config.frames (c : Config σ φ) : List φ := c.tasks.flatten

/-- The frame an action runs, with its input. -/
def Config.scheduled (c : Config σ φ) : Action φ ι → Option (φ × ι)
  | .spawn _ => none
  | .run task input =>
    match c.tasks[task]? with
    | some (frame :: _) => some (frame, input)
    | _ => none

/-- The pending frames beside the one the task is about to run. -/
def Config.others (c : Config σ φ) (task : Nat) : List φ := (c.tasks.modify task List.tail).flatten

namespace Program

/-- The frames that remain after an exception leaves the frame above them. -/
def unwind (P : Program σ φ ι ε) : List φ → List φ
  | [] => []
  | frame :: rest => if P.catches frame then rest else P.unwind rest

/-- One scheduling decision. An exception rolls the state back. -/
def next (P : Program σ φ ι ε) (c : Config σ φ) : Action φ ι → Option (Config σ φ)
  | .spawn frame => if P.entry frame then some { c with tasks := c.tasks ++ [[frame]] } else none
  | .run task input =>
    match c.tasks[task]? with
    | some (frame :: rest) =>
      match P.exec frame input c.state with
      | .ok (state, pushed) => some { state := state, tasks := c.tasks.set task (pushed ++ rest) }
      | .error _ => some { c with tasks := c.tasks.set task (P.unwind rest) }
    | _ => none

/-- The configurations reached by runs whose every action is allowed where
it is taken. A crash is a task that is never scheduled again. -/
inductive Reach (P : Program σ φ ι ε) (allowed : Config σ φ → Action φ ι → Prop)
    (initial : Config σ φ) : Config σ φ → Prop
  | start : Reach P allowed initial initial
  | next {c c' : Config σ φ} {a : Action φ ι} : Reach P allowed initial c → allowed c a →
      P.next c a = some c' → Reach P allowed initial c'

/-- Run the actions one after another, as long as each is allowed. -/
def replay (P : Program σ φ ι ε) (allowed : Config σ φ → Action φ ι → Bool) :
    Config σ φ → List (Action φ ι) → Option (Config σ φ)
  | c, [] => some c
  | c, a :: rest => if allowed c a then (P.next c a).bind (P.replay allowed · rest) else none

end Program

open Program

variable {P : Program σ φ ι ε} {allowed wider : Config σ φ → Action φ ι → Prop}
  {initial c c' : Config σ φ}

theorem unwind_sublist (P : Program σ φ ι ε) (stack : List φ) : (P.unwind stack).Sublist stack := by
  induction stack with
  | nil => exact .slnil
  | cons frame rest ih =>
    unfold unwind
    split
    · exact List.sublist_cons_self frame rest
    · exact ih.trans (List.sublist_cons_self frame rest)

/-- Everything one action can do to a configuration. -/
theorem next_cases {a : Action φ ι} (step : P.next c a = some c') :
    (∃ frame, a = .spawn frame ∧ P.entry frame = true ∧
      c' = { c with tasks := c.tasks ++ [[frame]] }) ∨
    (∃ task input frame rest state pushed, a = .run task input ∧
      c.tasks[task]? = some (frame :: rest) ∧ P.exec frame input c.state = .ok (state, pushed) ∧
      c' = { state := state, tasks := c.tasks.set task (pushed ++ rest) }) ∨
    (∃ task input frame rest e, a = .run task input ∧
      c.tasks[task]? = some (frame :: rest) ∧ P.exec frame input c.state = .error e ∧
      c' = { c with tasks := c.tasks.set task (P.unwind rest) }) := by
  cases a with
  | spawn frame =>
    simp only [Program.next] at step
    split at step
    · rename_i entry
      exact Or.inl ⟨frame, rfl, entry, (Option.some.inj step).symm⟩
    · cases step
  | run task input =>
    simp only [Program.next] at step
    split at step
    · rename_i frame rest atTask
      split at step
      · rename_i state pushed ran
        exact Or.inr (Or.inl ⟨task, input, frame, rest, state, pushed, rfl, atTask, ran,
          (Option.some.inj step).symm⟩)
      · rename_i e raised
        exact Or.inr (Or.inr ⟨task, input, frame, rest, e, rfl, atTask, raised,
          (Option.some.inj step).symm⟩)
    · cases step

/-- An action leaves the state alone or commits the frame that it runs. -/
theorem next_state {a : Action φ ι} (step : P.next c a = some c') : c'.state = c.state ∨
    ∃ task input frame rest pushed, a = .run task input ∧ c.tasks[task]? = some (frame :: rest) ∧
      P.exec frame input c.state = .ok (c'.state, pushed) := by
  rcases next_cases step with ⟨_, _, _, rfl⟩ |
    ⟨task, input, frame, rest, state, pushed, rfl, atTask, ran, rfl⟩ | ⟨_, _, _, _, _, _, _, _, rfl⟩
  · exact .inl rfl
  · exact .inr ⟨task, input, frame, rest, pushed, rfl, atTask, ran⟩
  · exact .inl rfl

theorem next_run_ok {task : Nat} {input : ι} {frame : φ} {rest pushed : List φ} {state : σ}
    (atTask : c.tasks[task]? = some (frame :: rest)) (ran : P.exec frame input c.state = .ok (state, pushed)) :
    P.next c (.run task input) = some { state := state, tasks := c.tasks.set task (pushed ++ rest) } := by
  simp only [Program.next, atTask, ran]

theorem next_run_error {task : Nat} {input : ι} {frame : φ} {rest : List φ} {raised : ε}
    (atTask : c.tasks[task]? = some (frame :: rest)) (ran : P.exec frame input c.state = .error raised) :
    P.next c (.run task input) = some { c with tasks := c.tasks.set task (P.unwind rest) } := by
  simp only [Program.next, atTask, ran]

theorem task_set {task : Nat} {stack stack' : List φ} (atTask : c.tasks[task]? = some stack) :
    (c.tasks.set task stack')[task]? = some stack' := by
  have bound : task < c.tasks.length := (List.getElem?_eq_some_iff.mp atTask).1
  simp [bound]

theorem mem_frames_of_task {task : Nat} {stack : List φ} {frame : φ}
    (atTask : c.tasks[task]? = some stack) (member : frame ∈ stack) : frame ∈ c.frames :=
  List.mem_flatten.mpr ⟨stack, List.mem_of_getElem? atTask, member⟩

theorem mem_frames_top {task : Nat} {frame : φ} {rest : List φ} (atTask : c.tasks[task]? = some (frame :: rest)) :
    frame ∈ c.frames :=
  mem_frames_of_task atTask (List.mem_cons_self ..)

theorem mem_frames_set {state : σ} {task : Nat} {stack : List φ} {frame : φ}
    (member : frame ∈ Config.frames { state := state, tasks := c.tasks.set task stack }) :
    frame ∈ stack ∨ frame ∈ c.frames := by
  obtain ⟨other, atOther, inside⟩ := List.mem_flatten.mp member
  rcases List.mem_or_eq_of_mem_set atOther with old | same
  · exact Or.inr (List.mem_flatten.mpr ⟨other, old, inside⟩)
  · subst same
    exact Or.inl inside

theorem modify_tail {task : Nat} {frame : φ} {rest : List φ} (atTask : c.tasks[task]? = some (frame :: rest)) :
    c.tasks.modify task List.tail = c.tasks.set task rest := by
  rw [List.modify_eq_set_getElem?, atTask]
  rfl

/-- What one task has to do stands between what the others have. -/
theorem flatten_set {tasks : List (List φ)} {task : Nat} {stack : List φ} (atTask : tasks[task]? = some stack) :
    ∃ before after, tasks.flatten = before ++ (stack ++ after) ∧
      ∀ new, (tasks.set task new).flatten = before ++ (new ++ after) := by
  obtain ⟨bound, rfl⟩ := List.getElem?_eq_some_iff.mp atTask
  have spread : ∀ new, (tasks.set task new).flatten =
      (tasks.take task).flatten ++ (new ++ (tasks.drop (task + 1)).flatten) := by
    intro new
    rw [List.set_eq_take_append_cons_drop, if_pos bound]
    simp
  have same := spread tasks[task]
  rw [List.set_getElem_self] at same
  exact ⟨_, _, same, spread⟩

/-- After a frame has committed, what is pending was pushed by it or pending
beside it. -/
theorem mem_frames_committed {state : σ} {task : Nat} {frame other : φ} {pushed rest : List φ}
    (atTask : c.tasks[task]? = some (frame :: rest))
    (member : other ∈ Config.frames { state := state, tasks := c.tasks.set task (pushed ++ rest) }) :
    other ∈ pushed ∨ other ∈ c.others task := by
  obtain ⟨before, after, -, replaced⟩ := flatten_set atTask
  rw [Config.frames, replaced] at member
  rw [Config.others, modify_tail atTask, replaced]
  simp only [List.mem_append] at member ⊢
  tauto

theorem mem_others {task : Nat} {frame other : φ} {rest : List φ} (atTask : c.tasks[task]? = some (frame :: rest))
    (member : other ∈ c.others task) : other ∈ c.frames := by
  obtain ⟨before, after, whole, replaced⟩ := flatten_set atTask
  rw [Config.others, modify_tail atTask, replaced] at member
  rw [Config.frames, whole]
  simp only [List.mem_append, List.mem_cons] at member ⊢
  tauto

/-- An exception leaves some of the other frames. -/
theorem frames_subperm_raise (P : Program σ φ ι ε) {task : Nat} {frame : φ} {rest : List φ}
    (atTask : c.tasks[task]? = some (frame :: rest)) :
    (Config.frames { c with tasks := c.tasks.set task (P.unwind rest) }).Subperm c.frames := by
  obtain ⟨before, after, whole, replaced⟩ := flatten_set atTask
  have fewer : (P.unwind rest).Sublist (frame :: rest) := (unwind_sublist P rest).trans (List.sublist_cons_self frame rest)
  rw [Config.frames, Config.frames, whole, replaced]
  exact ((fewer.append (.refl after)).append_left before).subperm

theorem mem_frames_spawn {frame started : φ}
    (member : frame ∈ Config.frames { c with tasks := c.tasks ++ [[started]] }) :
    frame = started ∨ frame ∈ c.frames := by
  simp only [Config.frames, List.flatten_append, List.flatten_cons, List.flatten_nil,
    List.append_nil, List.mem_append, List.mem_singleton] at member
  exact member.symm

theorem Program.Reach.mono (weaker : ∀ c a, allowed c a → wider c a)
    (reach : P.Reach allowed initial c) : P.Reach wider initial c := by
  induction reach with
  | start => exact .start
  | next _ ok step ih => exact .next ih (weaker _ _ ok) step

theorem Program.Reach.trans (first : P.Reach allowed initial c) (second : P.Reach allowed c c') :
    P.Reach allowed initial c' := by
  induction second with
  | start => exact first
  | next _ ok step ih => exact .next ih ok step

/-- What holds at the start and survives every allowed action holds in
every configuration reached. -/
theorem Program.Reach.invariant (holds : Config σ φ → Prop) (base : holds initial)
    (keep : ∀ c a c', holds c → allowed c a → P.next c a = some c' → holds c')
    (reach : P.Reach allowed initial c) : holds c := by
  induction reach with
  | start => exact base
  | next _ ok step ih => exact keep _ _ _ ih ok step

/-- The rule for the shared state alone. -/
theorem Program.Reach.state_invariant (holds : σ → Prop) (base : holds initial.state)
    (keep : ∀ c task input frame rest state pushed, P.Reach allowed initial c → holds c.state →
      allowed c (.run task input) → c.tasks[task]? = some (frame :: rest) →
      P.exec frame input c.state = .ok (state, pushed) → holds state)
    (reach : P.Reach allowed initial c) : holds c.state := by
  induction reach with
  | start => exact base
  | next reached ok step held =>
    rcases next_state step with same | ⟨task, input, frame, rest, pushed, rfl, atTask, ran⟩
    · exact same ▸ held
    · exact keep _ task input frame rest _ pushed reached held ok atTask ran

/-- The rule for a shared state with one assertion on every pending frame:
a committed frame must restore the state's invariant, justify the frames it
pushes, and respect the assertions of all the other pending frames. -/
theorem Program.Reach.pool_invariant_entering (good : σ → Prop) (asserts : σ → φ → Prop)
    (base : good initial.state ∧ ∀ frame ∈ initial.frames, asserts initial.state frame)
    (enter : ∀ c frame, good c.state → allowed c (.spawn frame) → P.entry frame = true → asserts c.state frame)
    (keep : ∀ c task input frame rest state pushed,
      good c.state → (∀ other ∈ c.frames, asserts c.state other) → allowed c (.run task input) →
      c.tasks[task]? = some (frame :: rest) → P.exec frame input c.state = .ok (state, pushed) →
      good state ∧ (∀ other ∈ pushed, asserts state other) ∧
        ∀ other ∈ c.frames, asserts c.state other → asserts state other)
    (reach : P.Reach allowed initial c) :
    good c.state ∧ ∀ frame ∈ c.frames, asserts c.state frame := by
  refine reach.invariant (fun c => good c.state ∧ ∀ frame ∈ c.frames, asserts c.state frame) base ?_
  intro c a c' ⟨sound, asserted⟩ ok step
  rcases next_cases step with ⟨started, rfl, entry, rfl⟩ |
    ⟨task, input, frame, rest, state, pushed, rfl, atTask, ran, rfl⟩ |
    ⟨task, input, frame, rest, e, rfl, atTask, raised, rfl⟩
  · refine ⟨sound, fun other member => ?_⟩
    rcases mem_frames_spawn member with same | old
    · subst same
      exact enter c _ sound ok entry
    · exact asserted other old
  · obtain ⟨sound', justified, stable⟩ :=
      keep c task input frame rest state pushed sound asserted ok atTask ran
    refine ⟨sound', fun other member => ?_⟩
    rcases mem_frames_committed atTask member with new | beside
    · exact justified other new
    · have old := mem_others atTask beside
      exact stable other old (asserted other old)
  · exact ⟨sound, fun other member => asserted other ((frames_subperm_raise P atTask).subset member)⟩

/-- The rule for an assertion on every pending frame that restrictions on the
others keep up: a committed frame must justify the frames it pushes and respect
those that were pending beside it. -/
theorem Program.Reach.beside_invariant (asserts : σ → φ → Prop)
    (base : ∀ frame ∈ initial.frames, asserts initial.state frame)
    (enter : ∀ state frame, P.entry frame = true → asserts state frame)
    (keep : ∀ c task input frame rest state pushed, (∀ other ∈ c.frames, asserts c.state other) →
      allowed c (.run task input) → c.tasks[task]? = some (frame :: rest) →
      P.exec frame input c.state = .ok (state, pushed) →
      (∀ other ∈ pushed, asserts state other) ∧ ∀ other ∈ c.others task, asserts state other)
    (reach : P.Reach allowed initial c) : ∀ frame ∈ c.frames, asserts c.state frame := by
  refine reach.invariant (fun c => ∀ frame ∈ c.frames, asserts c.state frame) base ?_
  intro c a c' asserted ok step other member
  rcases next_cases step with ⟨started, rfl, entry, rfl⟩ |
    ⟨task, input, frame, rest, state, pushed, rfl, atTask, ran, rfl⟩ |
    ⟨task, input, frame, rest, e, rfl, atTask, raised, rfl⟩
  · rcases mem_frames_spawn member with rfl | old
    · exact enter c.state _ entry
    · exact asserted other old
  · obtain ⟨justified, kept⟩ := keep c task input frame rest state pushed asserted ok atTask ran
    rcases mem_frames_committed atTask member with new | old
    · exact justified other new
    · exact kept other old
  · exact asserted other ((frames_subperm_raise P atTask).subset member)

/-- The same rule where any new task is welcome. -/
theorem Program.Reach.pool_invariant (good : σ → Prop) (asserts : σ → φ → Prop)
    (base : good initial.state ∧ ∀ frame ∈ initial.frames, asserts initial.state frame)
    (enter : ∀ state frame, good state → P.entry frame = true → asserts state frame)
    (keep : ∀ c task input frame rest state pushed,
      good c.state → (∀ other ∈ c.frames, asserts c.state other) → allowed c (.run task input) →
      c.tasks[task]? = some (frame :: rest) → P.exec frame input c.state = .ok (state, pushed) →
      good state ∧ (∀ other ∈ pushed, asserts state other) ∧
        ∀ other ∈ c.frames, asserts c.state other → asserts state other)
    (reach : P.Reach allowed initial c) :
    good c.state ∧ ∀ frame ∈ c.frames, asserts c.state frame :=
  reach.pool_invariant_entering good asserts base (fun c frame sound _ entry => enter c.state frame sound entry) keep

/-- The rule for a relation between any two pending frames: the frames that a
committed one pushes must be related to each other and to all the pending ones. -/
theorem Program.Reach.pairs_invariant (related : φ → φ → Prop)
    (base : ∀ first ∈ initial.frames, ∀ second ∈ initial.frames, related first second)
    (enter : ∀ frame, P.entry frame = true → ∀ other, related frame other ∧ related other frame)
    (keep : ∀ c task input frame rest state pushed, P.Reach allowed initial c → allowed c (.run task input) →
      c.tasks[task]? = some (frame :: rest) → P.exec frame input c.state = .ok (state, pushed) →
      ∀ new ∈ pushed, (∀ other ∈ c.frames, related new other ∧ related other new) ∧
        ∀ other ∈ pushed, related new other)
    (reach : P.Reach allowed initial c) : ∀ first ∈ c.frames, ∀ second ∈ c.frames, related first second := by
  refine (reach.invariant (fun c => P.Reach allowed initial c ∧
    ∀ first ∈ c.frames, ∀ second ∈ c.frames, related first second) ⟨.start, base⟩ ?_).2
  intro c a c' ⟨reached, held⟩ ok step
  refine ⟨reached.next ok step, ?_⟩
  rcases next_cases step with ⟨started, rfl, entry, rfl⟩ |
    ⟨task, input, frame, rest, state, pushed, rfl, atTask, ran, rfl⟩ |
    ⟨task, input, frame, rest, e, rfl, atTask, raised, rfl⟩
  · intro first inFirst second inSecond
    rcases mem_frames_spawn inFirst with rfl | first_old
    · exact (enter first entry second).1
    · rcases mem_frames_spawn inSecond with rfl | second_old
      · exact (enter second entry first).2
      · exact held first first_old second second_old
  · have old_or_new : ∀ other ∈ Config.frames { state := state, tasks := c.tasks.set task (pushed ++ rest) },
        other ∈ pushed ∨ other ∈ c.frames :=
      fun other member => (mem_frames_committed atTask member).imp_right (mem_others atTask)
    have fresh := keep c task input frame rest state pushed reached ok atTask ran
    intro first inFirst second inSecond
    rcases old_or_new first inFirst with first_new | first_old <;>
      rcases old_or_new second inSecond with second_new | second_old
    · exact (fresh first first_new).2 second second_new
    · exact ((fresh first first_new).1 second second_old).1
    · exact ((fresh second second_new).1 first first_old).2
    · exact held first first_old second second_old
  · have old := (frames_subperm_raise P atTask).subset
    exact fun first inFirst second inSecond => held first (old inFirst) second (old inSecond)

theorem Program.Reach.of_replay {check : Config σ φ → Action φ ι → Bool} {actions : List (Action φ ι)}
    (sound : ∀ c a, check c a = true → allowed c a) (run : P.replay check initial actions = some c) :
    P.Reach allowed initial c := by
  induction actions generalizing initial with
  | nil => cases Option.some.inj run; exact .start
  | cons a rest ih =>
    unfold replay at run
    split at run
    · rename_i ok
      obtain ⟨middle, step, run⟩ := Option.bind_eq_some_iff.mp run
      exact (Reach.next .start (sound _ _ ok) step).trans (ih run)
    · cases run

/-- What holds of the value of an option can be evaluated. -/
instance decidableExistsSome {α : Type} (o : Option α) (p : α → Prop) [DecidablePred p] :
    Decidable (∃ a, o = some a ∧ p a) :=
  decidable_of_iff (o.any fun a => decide (p a)) (by simp [Option.any_eq_true])

/-- So can whether a task has ended. -/
scoped instance decidableEnded {α : Type} (o : Option (List α)) : Decidable (o = some []) :=
  decidable_of_iff (o.any List.isEmpty) (by cases o <;> simp)

/-- A configuration that a replay leads to is reachable. -/
theorem Program.Reach.replayed {check : Config σ φ → Action φ ι → Bool} {actions : List (Action φ ι)}
    {test : Config σ φ → Prop} (sound : ∀ c a, check c a = true → allowed c a)
    (passes : ∃ c, P.replay check initial actions = some c ∧ test c) : ∃ c, P.Reach allowed initial c ∧ test c := by
  obtain ⟨c, replayed, passed⟩ := passes
  exact ⟨c, .of_replay sound replayed, passed⟩

/-- One unit of work of a task that has the state to itself. -/
inductive Program.Alone (P : Program σ φ ι ε) : σ × List φ → σ × List φ → Prop
  | commit {s s' frame input pushed rest} : P.exec frame input s = .ok (s', pushed) →
      Alone P (s, frame :: rest) (s', pushed ++ rest)
  | raised {s frame input rest raised} : P.exec frame input s = .error raised →
      Alone P (s, frame :: rest) (s, P.unwind rest)

/-- The program that gets the same input in every step. -/
def Program.given (P : Program σ φ ι ε) (input : ι) : Program σ φ ι ε :=
  { P with exec := fun frame _ s => P.exec frame input s }

theorem Program.given_commit {input : ι} {s s' : σ} {frame : φ} {pushed rest : List φ}
    (ran : P.exec frame input s = .ok (s', pushed)) :
    Relation.ReflTransGen (P.given input).Alone (s, frame :: rest) (s', pushed ++ rest) :=
  have ran : (P.given input).exec frame input s = .ok (s', pushed) := ran
  .single (.commit ran)

theorem Program.given_raised {input : ι} {s : σ} {frame : φ} {rest : List φ} {raised : ε}
    (ran : P.exec frame input s = .error raised) :
    Relation.ReflTransGen (P.given input).Alone (s, frame :: rest) (s, (P.given input).unwind rest) :=
  have ran : (P.given input).exec frame input s = .error raised := ran
  .single (.raised ran)

theorem Program.given_rightUnique (P : Program σ φ ι ε) (input : ι) : Relator.RightUnique (P.given input).Alone := by
  intro start first second one other
  cases one with
  | commit ran =>
    cases other with
    | commit ran' =>
      cases ran.symm.trans ran'
      rfl
    | raised ran' => cases ran.symm.trans ran'
  | raised ran =>
    cases other with
    | commit ran' => cases ran.symm.trans ran'
    | raised ran' => rfl

/-- A task that runs alone on the same input ends in one state at most. -/
theorem Program.given_ends {input : ι} {start : σ × List φ} {s s' : σ}
    (first : Relation.ReflTransGen (P.given input).Alone start (s, []))
    (second : Relation.ReflTransGen (P.given input).Alone start (s', [])) : s = s' := by
  have ended : ∀ {s s' : σ}, Relation.ReflTransGen (P.given input).Alone (s, []) (s', []) → s = s' := by
    intro s s' run
    rcases run.cases_head with same | ⟨_, unit, _⟩
    · exact congrArg Prod.fst same
    · cases unit
  rcases Relation.ReflTransGen.total_of_right_unique (P.given_rightUnique input) first second with run | run
  · exact ended run
  · exact (ended run).symm

/-- The unit of work that a task does alone on this input. -/
def Program.unit (P : Program σ φ ι ε) (input : ι) : σ × List φ → σ × List φ
  | (s, []) => (s, [])
  | (s, frame :: rest) =>
    match P.exec frame input s with
    | .ok (s', pushed) => (s', pushed ++ rest)
    | .error _ => (s, P.unwind rest)

/-- A task alone, after so many units of work. -/
def Program.course (P : Program σ φ ι ε) (inputs : Nat → ι) (start : σ × List φ) : Nat → σ × List φ
  | 0 => start
  | k + 1 => P.unit (inputs k) (P.course inputs start k)

theorem Program.course_succ (P : Program σ φ ι ε) (inputs : Nat → ι) (start : σ × List φ) (k : Nat) :
    P.course inputs start (k + 1) = P.course (fun i => inputs (i + 1)) (P.unit (inputs 0) start) k := by
  induction k with
  | zero => rfl
  | succ k ih => rw [Program.course, ih, Program.course]

/-- A task ends, by returning or by an exception, if each of its units lowers a
measure: after at most as many units as the measure says. -/
theorem Program.course_ends {holds : σ × List φ → Prop} {measure : σ × List φ → Nat}
    (keep : ∀ input s frame rest, holds (s, frame :: rest) →
      holds (P.unit input (s, frame :: rest)) ∧ measure (P.unit input (s, frame :: rest)) < measure (s, frame :: rest))
    (inputs : Nat → ι) {start : σ × List φ} (base : holds start) :
    ∃ k ≤ measure start, (P.course inputs start k).2 = [] := by
  by_contra endless
  push Not at endless
  have sinks : ∀ k ≤ measure start + 1,
      holds (P.course inputs start k) ∧ measure (P.course inputs start k) + k ≤ measure start := by
    intro k
    induction k with
    | zero => exact fun _ => ⟨base, le_rfl⟩
    | succ k ih =>
      intro bound
      obtain ⟨held, low⟩ := ih (by omega)
      have working := endless k (by omega)
      rw [Program.course]
      generalize P.course inputs start k = here at held low working
      obtain ⟨s, stack⟩ := here
      cases stack with
      | nil => exact absurd rfl working
      | cons frame rest =>
        obtain ⟨held', less⟩ := keep (inputs k) s frame rest held
        exact ⟨held', by omega⟩
  have low := (sinks (measure start + 1) le_rfl).2
  omega

/-- The total weight of the pending frames. -/
def Config.load (weight : φ → Nat) (c : Config σ φ) : Nat := (c.frames.map weight).sum

theorem flatten_set_sum (weight : φ → Nat) {tasks : List (List φ)} {task : Nat} {stack : List φ}
    (new : List φ) (atTask : tasks[task]? = some stack) :
    ((tasks.set task new).flatten.map weight).sum + (stack.map weight).sum =
      (tasks.flatten.map weight).sum + (new.map weight).sum := by
  obtain ⟨before, after, whole, replaced⟩ := flatten_set atTask
  rw [whole, replaced]
  simp only [List.map_append, List.sum_append]
  omega

theorem load_run (weight : φ → Nat) (state : σ) {task : Nat} {frame : φ} (pushed : List φ) {rest : List φ}
    (atTask : c.tasks[task]? = some (frame :: rest)) :
    Config.load weight { state := state, tasks := c.tasks.set task (pushed ++ rest) } + weight frame =
      c.load weight + (pushed.map weight).sum := by
  have balance := flatten_set_sum weight (pushed ++ rest) atTask
  simp only [List.map_cons, List.sum_cons, List.map_append, List.sum_append] at balance
  simp only [Config.load, Config.frames]
  omega

theorem load_raise (P : Program σ φ ι ε) (weight : φ → Nat) {task : Nat} {frame : φ} {rest : List φ}
    (atTask : c.tasks[task]? = some (frame :: rest)) :
    Config.load weight { c with tasks := c.tasks.set task (P.unwind rest) } ≤ c.load weight := by
  have balance := flatten_set_sum weight (P.unwind rest) atTask
  have fewer := ((unwind_sublist P rest).map weight).sum_le_sum (fun _ _ => Nat.zero_le _)
  simp only [List.map_cons, List.sum_cons] at balance
  simp only [Config.load, Config.frames]
  omega

theorem load_spawn {weight : φ → Nat} {started : φ} :
    Config.load weight { c with tasks := c.tasks ++ [[started]] } = c.load weight + weight started := by
  simp [Config.load, Config.frames]

/-- The rule for a bounded resource: tokens are held by the state and by the
pending frames, a new task holds none, and a committed frame may spend its own
tokens but not create any beyond the bound, unless the state is one in which
the resource is no longer bounded. The bound may move with the state. -/
theorem Program.Reach.load_within (weight : φ → Nat) (measure bound : σ → Nat) (free : σ → Prop)
    (base : measure initial.state + initial.load weight ≤ bound initial.state)
    (enter : ∀ frame, P.entry frame = true → weight frame = 0)
    (freed : ∀ frame input state state' pushed, P.exec frame input state = .ok (state', pushed) →
      free state → free state')
    (keep : ∀ c task input frame rest state pushed, P.Reach allowed initial c → allowed c (.run task input) →
      c.tasks[task]? = some (frame :: rest) → P.exec frame input c.state = .ok (state, pushed) → ¬ free state →
      measure c.state + c.load weight ≤ bound c.state →
      measure state + (pushed.map weight).sum + c.load weight ≤ bound state + weight frame)
    (reach : P.Reach allowed initial c) : free c.state ∨ measure c.state + c.load weight ≤ bound c.state := by
  refine (reach.invariant (fun c => P.Reach allowed initial c ∧
    (free c.state ∨ measure c.state + c.load weight ≤ bound c.state)) ⟨.start, Or.inr base⟩ ?_).2
  intro c a c' ⟨reached, held⟩ ok step
  refine ⟨reached.next ok step, ?_⟩
  rcases next_cases step with ⟨started, rfl, entry, rfl⟩ |
    ⟨task, input, frame, rest, state, pushed, rfl, atTask, ran, rfl⟩ |
    ⟨task, input, frame, rest, e, rfl, atTask, raised, rfl⟩
  · rw [load_spawn, enter started entry]
    exact held
  · by_cases unbounded : free state
    · exact Or.inl unbounded
    · have still := held.resolve_left fun before => unbounded (freed frame input c.state state pushed ran before)
      have spent := keep c task input frame rest state pushed reached ok atTask ran unbounded still
      have balance := load_run weight state pushed atTask
      refine Or.inr ?_
      show measure state + _ ≤ bound state
      omega
  · have fewer := load_raise P weight atTask
    refine held.imp_right fun still => ?_
    show measure c.state + _ ≤ bound c.state
    omega

/-- The rule for a resource that stays within a fixed bound. -/
theorem Program.Reach.load_invariant (weight : φ → Nat) (measure : σ → Nat) (bound : Nat)
    (base : measure initial.state + initial.load weight ≤ bound)
    (enter : ∀ frame, P.entry frame = true → weight frame = 0)
    (keep : ∀ c task input frame rest state pushed, P.Reach allowed initial c → allowed c (.run task input) →
      c.tasks[task]? = some (frame :: rest) → P.exec frame input c.state = .ok (state, pushed) →
      measure c.state + c.load weight ≤ bound →
      measure state + (pushed.map weight).sum + c.load weight ≤ bound + weight frame)
    (reach : P.Reach allowed initial c) : measure c.state + c.load weight ≤ bound := by
  have held := reach.load_within weight measure (fun _ => bound) (fun _ => False) base enter
    (fun _ _ _ _ _ _ never => never)
    fun c task input frame rest state pushed reached ok atTask ran _ =>
      keep c task input frame rest state pushed reached ok atTask ran
  exact held.resolve_left fun never => never

/-- The pending frames before and after one that commits: the others are the
same. -/
theorem frames_perm (state : σ) {task : Nat} {frame : φ} {rest : List φ} (pushed : List φ)
    (atTask : c.tasks[task]? = some (frame :: rest)) :
    ∃ others, c.frames.Perm (frame :: others) ∧
      (Config.frames { state := state, tasks := c.tasks.set task (pushed ++ rest) }).Perm (pushed ++ others) := by
  obtain ⟨before, after, whole, replaced⟩ := flatten_set atTask
  refine ⟨before ++ (rest ++ after), ?_, ?_⟩
  · rw [Config.frames, whole]
    exact List.perm_middle
  · rw [Config.frames, replaced, List.append_assoc]
    exact List.perm_append_comm_assoc ..

/-- The rule for frames that have keys in custody, each key at most once. A
committed frame may drop its own keys, and must justify those of the frames it
pushes; it has to respect the assertions of the other frames, none of which
holds one of its keys. -/
theorem Program.Reach.custody_invariant {κ : Type} (held : σ → φ → List κ) (good : σ → Prop)
    (asserts : σ → φ → Prop) (base : good initial.state ∧ initial.frames = [])
    (enter : ∀ state frame, good state → P.entry frame = true → held state frame = [] ∧ asserts state frame)
    (keep : ∀ c task input frame rest state pushed others, P.Reach allowed initial c → good c.state →
      (∀ other ∈ frame :: others, asserts c.state other) → ((frame :: others).flatMap (held c.state)).Nodup →
      allowed c (.run task input) → c.tasks[task]? = some (frame :: rest) → c.frames.Perm (frame :: others) →
      P.exec frame input c.state = .ok (state, pushed) →
      good state ∧ (∀ other ∈ pushed ++ others, asserts state other) ∧
        ((pushed ++ others).flatMap (held state)).Nodup)
    (reach : P.Reach allowed initial c) :
    good c.state ∧ (∀ frame ∈ c.frames, asserts c.state frame) ∧ (c.frames.flatMap (held c.state)).Nodup := by
  refine (reach.invariant (fun c => P.Reach allowed initial c ∧ good c.state ∧
    (∀ frame ∈ c.frames, asserts c.state frame) ∧ (c.frames.flatMap (held c.state)).Nodup)
    ⟨.start, base.1, by simp [base.2], by simp [base.2]⟩ ?_).2
  intro c a c' ⟨reached, sound, asserted, distinct⟩ ok step
  refine ⟨reached.next ok step, ?_⟩
  rcases next_cases step with ⟨started, rfl, entry, rfl⟩ |
    ⟨task, input, frame, rest, state, pushed, rfl, atTask, ran, rfl⟩ |
    ⟨task, input, frame, rest, e, rfl, atTask, raised, rfl⟩
  · obtain ⟨holdsNone, justified⟩ := enter c.state started sound entry
    refine ⟨sound, fun other member => ?_, ?_⟩
    · rcases mem_frames_spawn member with same | old
      · exact same ▸ justified
      · exact asserted other old
    · have added : Config.frames { c with tasks := c.tasks ++ [[started]] } = c.frames ++ [started] := by
        simp [Config.frames]
      rw [added, List.flatMap_append]
      simpa [holdsNone] using distinct
  · obtain ⟨others, before, after⟩ := frames_perm state pushed atTask
    have asserted' : ∀ other ∈ frame :: others, asserts c.state other :=
      fun other member => asserted other (before.mem_iff.mpr member)
    have distinct' : ((frame :: others).flatMap (held c.state)).Nodup := (before.flatMap_right _).nodup_iff.mp distinct
    obtain ⟨sound', justified, kept⟩ :=
      keep c task input frame rest state pushed others reached sound asserted' distinct' ok atTask before ran
    exact ⟨sound', fun other member => justified other (after.mem_iff.mp member),
      (after.flatMap_right _).nodup_iff.mpr kept⟩
  · have fewer := frames_subperm_raise P atTask
    refine ⟨sound, fun other member => asserted other (fewer.subset member), ?_⟩
    obtain ⟨shuffled, same, sub⟩ := fewer
    have kept : (shuffled.flatMap (held c.state)).Nodup := (sub.flatMap _).nodup distinct
    exact (same.flatMap_right _).nodup_iff.mp kept

/-- The rule for frames that hold at most one key each. -/
theorem Program.Reach.holder_invariant {κ : Type} (key : φ → Option κ) (good : σ → Prop)
    (asserts : σ → φ → Prop) (base : good initial.state ∧ initial.frames = [])
    (enter : ∀ state frame, good state → P.entry frame = true → key frame = none ∧ asserts state frame)
    (keep : ∀ c task input frame rest state pushed others, good c.state →
      (∀ other ∈ frame :: others, asserts c.state other) → ((frame :: others).filterMap key).Nodup →
      allowed c (.run task input) → c.tasks[task]? = some (frame :: rest) → c.frames.Perm (frame :: others) →
      P.exec frame input c.state = .ok (state, pushed) →
      good state ∧ (∀ other ∈ pushed ++ others, asserts state other) ∧
        ((pushed ++ others).filterMap key).Nodup)
    (reach : P.Reach allowed initial c) :
    good c.state ∧ (∀ frame ∈ c.frames, asserts c.state frame) ∧ (c.frames.filterMap key).Nodup := by
  have single : ∀ frames : List φ, frames.filterMap key = frames.flatMap fun frame => (key frame).toList :=
    fun frames => List.filterMap_eq_flatMap_toList key frames
  have custody := reach.custody_invariant (fun _ frame => (key frame).toList) good asserts base
    (fun state frame sound entry => by
      obtain ⟨holdsNone, justified⟩ := enter state frame sound entry
      exact ⟨by simp [holdsNone], justified⟩)
    (fun c task input frame rest state pushed others _ sound asserted distinct ok atTask before ran => by
      rw [← single] at distinct ⊢
      exact keep c task input frame rest state pushed others sound asserted distinct ok atTask before ran)
  rwa [single]

theorem load_eq_zero {weight : φ → Nat} (none : ∀ frame ∈ c.frames, weight frame = 0) :
    c.load weight = 0 := by
  refine List.sum_eq_zero fun value member => ?_
  obtain ⟨frame, inside, rfl⟩ := List.mem_map.mp member
  exact none frame inside

/-- The runs whose new tasks are permitted. -/
def spawning (permitted : φ → Prop) : Config σ φ → Action φ ι → Prop := fun _ a =>
  match a with
  | .spawn frame => permitted frame
  | .run _ _ => True

section meter

variable {cost : φ → ι → σ → Nat}

/-- The program with a meter that adds up the cost of the committed frames. -/
def Program.metered (P : Program σ φ ι ε) (cost : φ → ι → σ → Nat) : Program (σ × Nat) φ ι ε where
  exec frame input s := (P.exec frame input s.1).map fun out => ((out.1, s.2 + cost frame input s.1), out.2)
  entry := P.entry
  catches := P.catches

def Config.unmetered (c : Config (σ × Nat) φ) : Config σ φ := { state := c.state.1, tasks := c.tasks }

theorem metered_exec_ok {frame : φ} {input : ι} {s s' : σ × Nat} {pushed : List φ}
    (ran : (P.metered cost).exec frame input s = .ok (s', pushed)) :
    P.exec frame input s.1 = .ok (s'.1, pushed) ∧ s'.2 = s.2 + cost frame input s.1 := by
  simp only [Program.metered] at ran
  cases out : P.exec frame input s.1 with
  | error e =>
    rw [out] at ran
    cases ran
  | ok out' =>
    rw [out] at ran
    cases ran
    exact ⟨rfl, rfl⟩

theorem metered_unwind (stack : List φ) : (P.metered cost).unwind stack = P.unwind stack := by
  induction stack with
  | nil => rfl
  | cons frame rest ih =>
    unfold unwind
    rw [ih]
    rfl

/-- The meter watches the runs of the program. -/
theorem Program.Reach.unmetered {start : Config (σ × Nat) φ} {c : Config (σ × Nat) φ}
    (reach : (P.metered cost).Reach (fun _ _ => True) start c) :
    P.Reach (fun _ _ => True) start.unmetered c.unmetered := by
  induction reach with
  | start => exact .start
  | @next c _ a _ _ step ih =>
    refine ih.next trivial (a := a) ?_
    rcases next_cases step with ⟨started, rfl, entry, rfl⟩ |
      ⟨task, input, frame, rest, state, pushed, rfl, atTask, ran, rfl⟩ |
      ⟨task, input, frame, rest, e, rfl, atTask, raised, rfl⟩
    · exact if_pos entry
    · exact next_run_ok (c := c.unmetered) atTask (metered_exec_ok ran).1
    · have raised' : P.exec frame input c.state.1 = .error e := by
        simp only [Program.metered] at raised
        cases out : P.exec frame input c.state.1 with
        | error e' =>
          rw [out] at raised
          cases raised
          rfl
        | ok out' =>
          rw [out] at raised
          cases raised
      rw [metered_unwind]
      exact next_run_error (c := c.unmetered) atTask raised'

end meter

section simulation

variable {σ' φ' ι' ε' : Type} {Q : Program σ' φ' ι' ε'} {shadows : List φ → List φ' → Prop}

/-- What the abstract task may do while the concrete one runs a frame: pause,
or run its own top frame to the same effect. -/
def Matches (P : Program σ φ ι ε) (Q : Program σ' φ' ι' ε') (view : σ → σ') (shadows : List φ → List φ' → Prop)
    (s : σ) (rest : List φ) (stack : List φ') : Except ε (σ × List φ) → Prop
  | .ok (s', pushed) => (view s' = view s ∧ shadows (pushed ++ rest) stack) ∨
      ∃ frame below input new, stack = frame :: below ∧ Q.exec frame input (view s) = .ok (view s', new) ∧
        shadows (pushed ++ rest) (new ++ below)
  | .error _ => shadows (P.unwind rest) stack ∨
      ∃ frame below input raised, stack = frame :: below ∧ Q.exec frame input (view s) = .error raised ∧
        shadows (P.unwind rest) (Q.unwind below)

theorem forall₂_getElem? {tasks : List (List φ)} {tasks' : List (List φ')} (related : List.Forall₂ shadows tasks tasks')
    {task : Nat} {stack : List φ} (atTask : tasks[task]? = some stack) :
    ∃ stack', tasks'[task]? = some stack' ∧ shadows stack stack' := by
  induction related generalizing task with
  | nil => simp at atTask
  | cons first _ ih =>
    cases task with
    | zero =>
      simp only [List.getElem?_cons_zero, Option.some.injEq] at atTask
      exact ⟨_, rfl, atTask ▸ first⟩
    | succ task => exact ih (by simpa using atTask)

theorem forall₂_set {tasks : List (List φ)} {tasks' : List (List φ')} (related : List.Forall₂ shadows tasks tasks')
    (task : Nat) {stack : List φ} {stack' : List φ'} (new : shadows stack stack') :
    List.Forall₂ shadows (tasks.set task stack) (tasks'.set task stack') := by
  induction related generalizing task with
  | nil => exact .nil
  | cons first rest ih =>
    cases task with
    | zero => exact .cons new rest
    | succ task => exact .cons first (ih task)

theorem forall₂_set_left {tasks : List (List φ)} {tasks' : List (List φ')} (related : List.Forall₂ shadows tasks tasks')
    {task : Nat} {stack : List φ} {stack' : List φ'} (atTask : tasks'[task]? = some stack') (new : shadows stack stack') :
    List.Forall₂ shadows (tasks.set task stack) tasks' := by
  obtain ⟨bound, here⟩ := List.getElem?_eq_some_iff.mp atTask
  have both := forall₂_set related task new
  rwa [← here, List.set_getElem_self] at both

/-- A run is matched, task by task, by a run of the abstract program. -/
theorem Program.Reach.simulated (view : σ → σ') (shadows : List φ → List φ' → Prop) {permitted : φ → Prop}
    {permitted' : φ' → Prop} {start : Config σ' φ'}
    (base : start.state = view initial.state ∧ List.Forall₂ shadows initial.tasks start.tasks)
    (enter : ∀ frame, permitted frame → P.entry frame = true →
      ∃ frame', permitted' frame' ∧ Q.entry frame' = true ∧ shadows [frame] [frame'])
    (run : ∀ s input frame rest stack, shadows (frame :: rest) stack →
      Matches P Q view shadows s rest stack (P.exec frame input s))
    (reach : P.Reach (spawning permitted) initial c) :
    ∃ c', Q.Reach (spawning permitted') start c' ∧ c'.state = view c.state ∧
      List.Forall₂ shadows c.tasks c'.tasks := by
  induction reach with
  | start => exact ⟨start, .start, base⟩
  | @next c _ _ _ ok step ih =>
    obtain ⟨⟨_, pool⟩, reached, rfl, tasks⟩ := ih
    rcases next_cases step with ⟨frame, rfl, entry, rfl⟩ |
      ⟨task, input, frame, rest, state, pushed, rfl, atTask, ran, rfl⟩ |
      ⟨task, input, frame, rest, e, rfl, atTask, raised, rfl⟩
    · obtain ⟨frame', allowed', entry', related⟩ := enter frame ok entry
      refine ⟨{ state := view c.state, tasks := pool ++ [[frame']] }, reached.next (a := .spawn frame') allowed' ?_, rfl, ?_⟩
      · exact if_pos entry'
      · exact List.rel_append tasks (.cons related .nil)
    · obtain ⟨stack, there, related⟩ := forall₂_getElem? tasks atTask
      have matched := run c.state input frame rest stack related
      rw [ran] at matched
      rcases matched with ⟨same, related'⟩ | ⟨frame', below, input', new, rfl, ran', related'⟩
      · exact ⟨_, reached, same.symm, forall₂_set_left tasks there related'⟩
      · exact ⟨_, reached.next (a := .run task input') trivial (next_run_ok there ran'), rfl, forall₂_set tasks task related'⟩
    · obtain ⟨stack, there, related⟩ := forall₂_getElem? tasks atTask
      have matched := run c.state input frame rest stack related
      rw [raised] at matched
      rcases matched with related' | ⟨frame', below, input', raised', rfl, ran', related'⟩
      · exact ⟨_, reached, rfl, forall₂_set_left tasks there related'⟩
      · exact ⟨_, reached.next (a := .run task input') trivial (next_run_error there ran'), rfl, forall₂_set tasks task related'⟩

end simulation

end TaskPool
