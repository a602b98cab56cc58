import Mathlib

namespace Ranking

variable {α κ : Type} [LinearOrder κ] {key : α → κ} {rows : List α} {row : α} {limit : Nat}

/-- A row with few rows up to it is among the first. -/
theorem mem_take_of_countP_le (sorted : rows.Pairwise (key · ≤ key ·)) (member : row ∈ rows)
    (few : rows.countP (key · ≤ key row) ≤ limit) : row ∈ rows.take limit := by
  obtain ⟨before, after, rfl⟩ := List.append_of_mem member
  have upTo : before.length + 1 ≤ (before ++ row :: after).countP (key · ≤ key row) := by
    have earlier : before.countP (key · ≤ key row) = before.length := by
      refine List.countP_eq_length.mpr fun other inside => ?_
      exact decide_eq_true ((List.pairwise_append.mp sorted).2.2 other inside row (List.mem_cons_self ..))
    rw [List.countP_append, earlier, List.countP_cons_of_pos (by simp)]
    omega
  rw [List.take_append, List.mem_append]
  obtain ⟨room, enough⟩ : ∃ room, limit - before.length = room + 1 := ⟨limit - before.length - 1, by omega⟩
  rw [enough, List.take_succ_cons]
  exact .inr (List.mem_cons_self ..)

/-- One of the first rows has few rows before it. -/
theorem countP_lt_of_mem_take (sorted : rows.Pairwise (key · ≤ key ·)) (member : row ∈ rows.take limit) :
    rows.countP (key · < key row) < limit := by
  have split := List.take_append_drop limit rows
  have ordered := sorted
  rw [← split, List.pairwise_append] at ordered
  have none : (rows.drop limit).countP (key · < key row) = 0 := by
    refine List.countP_eq_zero.mpr fun other inside => ?_
    simpa using ordered.2.2 row member other inside
  have some : (rows.take limit).countP (key · < key row) < (rows.take limit).length := by
    refine lt_of_le_of_ne List.countP_le_length fun all => ?_
    have self := List.countP_eq_length.mp all row member
    simp at self
  have whole : rows.countP (key · < key row) = (rows.take limit).countP (key · < key row) := by
    conv_lhs => rw [← split]
    rw [List.countP_append, none, Nat.add_zero]
  have bound : (rows.take limit).length ≤ limit := List.length_take_le ..
  omega

end Ranking
