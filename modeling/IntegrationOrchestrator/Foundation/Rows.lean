import Mathlib

namespace Rows

variable {ε α : Type}

/-- Replace the first row that satisfies the test, or raise. -/
def modifyFirst (missing : ε) (test : α → Bool) (change : α → Except ε α) : List α → Except ε (List α)
  | [] => .error missing
  | row :: rest =>
    if test row then (change row).map (· :: rest)
    else (modifyFirst missing test change rest).map (row :: ·)

theorem map_eq_ok {β : Type} {x : Except ε α} {f : α → β} {b : β} :
    x.map f = .ok b ↔ ∃ a, x = .ok a ∧ f a = b := by
  cases x <;> simp [Except.map]

theorem bind_eq_ok {β : Type} {x : Except ε α} {f : α → Except ε β} {b : β} :
    x >>= f = .ok b ↔ ∃ a, x = .ok a ∧ f a = .ok b := by
  cases x <;> simp [bind, Except.bind]

/-- A loop over all rows commits exactly when every row's own change does. -/
theorem mapM_ok_iff {change : α → Except ε α} {rows rows' : List α} :
    rows.mapM change = .ok rows' ↔ List.Forall₂ (fun a b => change a = .ok b) rows rows' := by
  induction rows generalizing rows' with
  | nil => simp [pure, Except.pure, eq_comm]
  | cons row rest ih =>
    rw [List.mapM_cons]
    constructor
    · intro run
      obtain ⟨row', first, run⟩ := bind_eq_ok.mp run
      obtain ⟨rest', others, run⟩ := bind_eq_ok.mp run
      cases run
      exact .cons first (ih.mp others)
    · intro related
      cases related with
      | cons first others =>
        rw [first]
        exact bind_eq_ok.mpr ⟨_, rfl, bind_eq_ok.mpr ⟨_, ih.mpr others, rfl⟩⟩

/-- A loop over all rows commits if every row's own change does. -/
theorem mapM_total {change : α → Except ε α} {rows : List α}
    (each : ∀ row ∈ rows, ∃ row', change row = .ok row') : ∃ rows', rows.mapM change = .ok rows' := by
  simp only [mapM_ok_iff]
  induction rows with
  | nil => exact ⟨[], .nil⟩
  | cons row rest ih =>
    obtain ⟨row', first⟩ := each row (List.mem_cons_self ..)
    obtain ⟨rest', below⟩ := ih fun other member => each other (List.mem_cons_of_mem _ member)
    exact ⟨row' :: rest', .cons first below⟩

/-- A single replacement puts a row where the first one stood that passes. -/
theorem modifyFirst_ok {missing : ε} {test : α → Bool} {change : α → Except ε α} {rows rows' : List α}
    (run : modifyFirst missing test change rows = .ok rows') :
    ∃ before row row' after, rows = before ++ row :: after ∧ rows' = before ++ row' :: after ∧
      before.find? test = none ∧ test row = true ∧ change row = .ok row' := by
  induction rows generalizing rows' with
  | nil => cases run
  | cons other rest ih =>
    unfold modifyFirst at run
    split at run
    · rename_i here
      obtain ⟨row', changed, rfl⟩ := map_eq_ok.mp run
      exact ⟨[], other, row', rest, rfl, rfl, rfl, here, changed⟩
    · rename_i skipped
      obtain ⟨rest', others, rfl⟩ := map_eq_ok.mp run
      obtain ⟨before, row, row', after, rfl, rfl, none, here, changed⟩ := ih others
      exact ⟨other :: before, row, row', after, rfl, rfl, (List.find?_cons_of_neg skipped).trans none, here, changed⟩

theorem find?_middle {test : α → Bool} {before after : List α} {row : α} (none : before.find? test = none)
    (here : test row = true) : (before ++ row :: after).find? test = some row := by
  rw [List.find?_append, none, List.find?_cons_of_pos here]
  rfl

/-- A single replacement relates the rows one by one: the row found is
changed and every other row is kept. -/
theorem modifyFirst_forall₂ {missing : ε} {test : α → Bool} {change : α → Except ε α}
    {R : α → α → Prop} {rows rows' : List α} (keep : ∀ row, R row row)
    (changed : ∀ row row', rows.find? test = some row → change row = .ok row' → R row row')
    (run : modifyFirst missing test change rows = .ok rows') : List.Forall₂ R rows rows' := by
  obtain ⟨before, row, row', after, rfl, rfl, none, here, run⟩ := modifyFirst_ok run
  have same : ∀ others : List α, List.Forall₂ R others others :=
    fun others => List.forall₂_same.mpr fun other _ => keep other
  exact List.rel_append (same before) (.cons (changed row row' (find?_middle none here) run) (same after))

theorem modifyFirst_found {missing : ε} {test : α → Bool} {change : α → Except ε α} {rows rows' : List α}
    (run : modifyFirst missing test change rows = .ok rows') : ∃ row, rows.find? test = some row := by
  obtain ⟨before, row, _, after, rfl, -, none, here, -⟩ := modifyFirst_ok run
  exact ⟨row, find?_middle none here⟩

/-- The replacement of the row found is a row of the result. -/
theorem modifyFirst_mem {missing : ε} {test : α → Bool} {change : α → Except ε α} {rows rows' : List α} {row : α}
    (found : rows.find? test = some row) (run : modifyFirst missing test change rows = .ok rows') :
    ∃ row' ∈ rows', change row = .ok row' := by
  obtain ⟨before, other, row', after, rfl, rfl, none, here, changed⟩ := modifyFirst_ok run
  cases (find?_middle none here).symm.trans found
  exact ⟨row', by simp, changed⟩

/-- A replacement changes a total by what it changes on the row found. -/
theorem modifyFirst_sum {missing : ε} {test : α → Bool} {change : α → Except ε α} {rows rows' : List α}
    (value : α → Nat) (run : modifyFirst missing test change rows = .ok rows') :
    ∃ row row', rows.find? test = some row ∧ change row = .ok row' ∧
      (rows'.map value).sum + value row = (rows.map value).sum + value row' := by
  obtain ⟨before, row, row', after, rfl, rfl, none, here, changed⟩ := modifyFirst_ok run
  refine ⟨row, row', find?_middle none here, changed, ?_⟩
  simp only [List.map_append, List.map_cons, List.sum_append, List.sum_cons]
  omega

/-- A search for the replaced row finds its replacement. -/
theorem modifyFirst_find? {missing : ε} {test : α → Bool} {change : α → Except ε α} {rows rows' : List α}
    {row : α} (found : rows.find? test = some row) (kept : ∀ row', change row = .ok row' → test row' = true)
    (run : modifyFirst missing test change rows = .ok rows') :
    ∃ row', change row = .ok row' ∧ rows'.find? test = some row' := by
  obtain ⟨before, other, row', after, rfl, rfl, none, here, changed⟩ := modifyFirst_ok run
  cases (find?_middle none here).symm.trans found
  exact ⟨row', changed, find?_middle none (kept row' changed)⟩

/-- A change that leaves the row found alone leaves all rows alone. -/
theorem modifyFirst_same {missing : ε} {test : α → Bool} {change : α → Except ε α} {rows : List α} {row : α}
    (found : rows.find? test = some row) (same : change row = .ok row) :
    modifyFirst missing test change rows = .ok rows := by
  induction rows with
  | nil => simp at found
  | cons other rest ih =>
    unfold modifyFirst
    by_cases here : test other = true
    · rw [List.find?_cons_of_pos here, Option.some.injEq] at found
      subst found
      rw [if_pos here, same]
      rfl
    · rw [List.find?_cons_of_neg here] at found
      rw [if_neg here, ih found]
      rfl

variable {R : α → α → Prop} {rows rows' : List α}

/-- Related lists answer the same search with related rows. -/
theorem find?_forall₂ (test : α → Bool) (same : ∀ a b, R a b → test b = test a)
    (related : List.Forall₂ R rows rows') :
    Option.Rel R (rows.find? test) (rows'.find? test) := by
  induction related with
  | nil => exact .none
  | cons first _ ih =>
    rw [List.find?_cons, List.find?_cons, same _ _ first]
    split
    · exact .some first
    · exact ih

theorem forall₂_mem_right (related : List.Forall₂ R rows rows') {row' : α} (member : row' ∈ rows') :
    ∃ row ∈ rows, R row row' := by
  induction related with
  | nil => cases member
  | cons first _ ih =>
    rcases List.mem_cons.mp member with rfl | below
    · exact ⟨_, List.mem_cons_self .., first⟩
    · obtain ⟨row, inside, holds⟩ := ih below
      exact ⟨row, List.mem_cons_of_mem _ inside, holds⟩

theorem forall₂_mem_left (related : List.Forall₂ R rows rows') {row : α} (member : row ∈ rows) :
    ∃ row' ∈ rows', R row row' := by
  obtain ⟨row', inside, holds⟩ := forall₂_mem_right (List.Forall₂.flip related) member
  exact ⟨row', inside, holds⟩

theorem forall₂_imp_mem {S : α → α → Prop} (related : List.Forall₂ R rows rows')
    (weaker : ∀ row ∈ rows, ∀ row', R row row' → S row row') : List.Forall₂ S rows rows' := by
  induction related with
  | nil => exact .nil
  | cons first _ ih =>
    exact .cons (weaker _ (List.mem_cons_self ..) _ first)
      (ih fun row member => weaker row (List.mem_cons_of_mem _ member))

theorem forall₂_trans {R : α → α → Prop} (trans : ∀ a b c, R a b → R b c → R a c) {xs ys zs : List α}
    (first : List.Forall₂ R xs ys) (second : List.Forall₂ R ys zs) : List.Forall₂ R xs zs := by
  induction first generalizing zs with
  | nil => cases second; exact .nil
  | cons related _ ih =>
    cases second with
    | cons next rest => exact .cons (trans _ _ _ related next) (ih rest)

theorem forall₂_map_eq {β : Type} {f : α → β} (same : ∀ a b, R a b → f b = f a)
    (related : List.Forall₂ R rows rows') : rows'.map f = rows.map f := by
  induction related with
  | nil => rfl
  | cons first _ ih => rw [List.map_cons, List.map_cons, same _ _ first, ih]

/-- Two lists related to a third agree in what corresponding rows have in
common. -/
theorem forall₂_map_eq_map {β : Type} {f : α → β} {S : α → α → Prop} {rows₁ rows₂ : List α}
    (first : List.Forall₂ R rows rows₁) (second : List.Forall₂ S rows rows₂)
    (same : ∀ row a, ∀ b ∈ rows₂, R row a → S row b → f a = f b) : rows₁.map f = rows₂.map f := by
  induction first generalizing rows₂ with
  | nil => cases second; rfl
  | cons one _ ih =>
    cases second with
    | cons two rest =>
      rw [List.map_cons, List.map_cons, same _ _ _ (List.mem_cons_self ..) one two,
        ih rest fun row a b member => same row a b (List.mem_cons_of_mem _ member)]

theorem forall₂_any_eq {test : α → Bool} (same : ∀ a b, R a b → test b = test a)
    (related : List.Forall₂ R rows rows') : rows'.any test = rows.any test := by
  induction related with
  | nil => rfl
  | cons first _ ih => rw [List.any_cons, List.any_cons, same _ _ first, ih]

theorem find?_only {test : α → Bool} {rows : List α} {row : α} (member : row ∈ rows) (passes : test row = true)
    (only : ∀ other ∈ rows, test other = true → other = row) : rows.find? test = some row := by
  cases found : rows.find? test with
  | none => exact absurd passes (List.find?_eq_none.mp found row member)
  | some other => rw [only other (List.mem_of_find?_eq_some found) (List.find?_some found)]

theorem filter_single {test : α → Bool} {rows : List α} {row : α} (nodup : rows.Nodup) (member : row ∈ rows)
    (passes : test row = true) (only : ∀ other ∈ rows, test other = true → other = row) :
    rows.filter test = [row] := by
  refine List.perm_singleton.mp ((List.perm_ext_iff_of_nodup (nodup.filter test) (List.nodup_singleton row)).mpr ?_)
  intro other
  rw [List.mem_filter, List.mem_singleton]
  exact ⟨fun ⟨inside, passed⟩ => only other inside passed, fun same => same ▸ ⟨member, passes⟩⟩

/-- One part of one row passes the test. -/
theorem filter_flatMap_single {β : Type} (parts : α → List β) {test : β → Bool} {rows : List α} {row : α} {part : β}
    (nodup : rows.Nodup) (member : row ∈ rows) (distinct : (parts row).Nodup) (inside : part ∈ parts row)
    (passes : test part = true)
    (only : ∀ other ∈ rows, ∀ piece ∈ parts other, test piece = true → other = row ∧ piece = part) :
    (rows.flatMap parts).filter test = [part] := by
  obtain ⟨before, after, rfl⟩ := List.append_of_mem member
  obtain ⟨_, _, apart⟩ := List.nodup_append.mp nodup
  have fresh : row ∉ after := (List.nodup_cons.mp (List.nodup_append.mp nodup).2.1).1
  have nothing : ∀ others : List α, row ∉ others → (∀ other ∈ others, other ∈ before ++ row :: after) →
      (others.flatMap parts).filter test = [] := by
    intro others absent subset
    refine List.filter_eq_nil_iff.mpr fun piece there passed => ?_
    obtain ⟨other, here, piece⟩ := List.mem_flatMap.mp there
    exact absent ((only other (subset other here) _ piece passed).1 ▸ here)
  have noneBefore := nothing before (fun here => apart row here row (List.mem_cons_self ..) rfl)
    fun other here => List.mem_append_left _ here
  have noneAfter := nothing after fresh fun other here => List.mem_append_right _ (List.mem_cons_of_mem _ here)
  have here := filter_single distinct inside passes fun piece there passed => (only row member piece there passed).2
  simp only [List.flatMap_append, List.flatMap_cons, List.filter_append, noneBefore, noneAfter, here, List.nil_append,
    List.append_nil]

end Rows
