import Mathlib

namespace Trail

variable {ρ σ : Type} {previous : ρ → Option σ} {new : ρ → σ} {allowed : σ → σ → Bool} {a b c : σ} {rows more : List ρ}

/-- The rows lead from one status to another: each starts where the one before
it ended, and makes an allowed change. -/
def Path (previous : ρ → Option σ) (new : ρ → σ) (allowed : σ → σ → Bool) : σ → List ρ → σ → Prop
  | a, [], b => a = b
  | a, row :: rows, b => previous row = some a ∧ allowed a (new row) = true ∧ Path previous new allowed (new row) rows b

theorem path_append_iff : Path previous new allowed a (rows ++ more) c ↔
    ∃ b, Path previous new allowed a rows b ∧ Path previous new allowed b more c := by
  induction rows generalizing a with
  | nil => simp [Path]
  | cons row rows ih =>
    simp only [List.cons_append, Path, ih]
    constructor
    · rintro ⟨starts, ok, b, first, second⟩
      exact ⟨b, ⟨starts, ok, first⟩, second⟩
    · rintro ⟨b, ⟨starts, ok, first⟩, second⟩
      exact ⟨starts, ok, b, first, second⟩

theorem Path.append (first : Path previous new allowed a rows b) (second : Path previous new allowed b more c) :
    Path previous new allowed a (rows ++ more) c :=
  path_append_iff.mpr ⟨b, first, second⟩

theorem path_single {row : ρ} : Path previous new allowed a [row] b ↔
    previous row = some a ∧ allowed a (new row) = true ∧ new row = b := Iff.rfl

theorem Path.starts {row : ρ} (path : Path previous new allowed a rows b) (member : row ∈ rows) :
    ∃ before, previous row = some before := by
  induction rows generalizing a with
  | nil => cases member
  | cons first rest ih =>
    rcases List.mem_cons.mp member with rfl | later
    · exact ⟨a, path.1⟩
    · exact ih path.2.2 later

/-- Where a path ends is determined by where it starts and by its rows. -/
theorem Path.unique (first : Path previous new allowed a rows b) (second : Path previous new allowed a rows c) :
    b = c := by
  induction rows generalizing a with
  | nil => exact Eq.trans (Eq.symm first) second
  | cons row rows ih => exact ih first.2.2 second.2.2

/-- On a path every row starts where the one before it ended. -/
theorem Path.isChain {first : ρ} (path : Path previous new allowed (new first) rows b) :
    (first :: rows).IsChain fun x y => previous y = some (new x) := by
  induction rows generalizing first with
  | nil => exact .singleton first
  | cons row rows ih => exact .cons_cons path.1 (ih path.2.2)

/-- A path leaves a status as often as it enters it, its ends apart. -/
theorem Path.balance [DecidableEq σ] (path : Path previous new allowed a rows b) (x : σ) :
    rows.countP (previous · = some x) + (if b = x then 1 else 0) =
      rows.countP (new · = x) + (if a = x then 1 else 0) := by
  induction rows generalizing a with
  | nil =>
    cases (path : a = b)
    rfl
  | cons row rows ih =>
    obtain ⟨starts, _, rest⟩ := path
    have below := ih rest
    simp only [List.countP_cons, starts, decide_eq_true_eq, Option.some.injEq]
    omega

end Trail
