import Mathlib

/-- A stored table. The primary key is a column of the row, and no two rows
share it. -/
structure Table {α κ : Type} (key : α → κ) where
  rows : List α
  unique : (rows.map key).Nodup

namespace Table

variable {α κ : Type} {key : α → κ}

def empty : Table key := { rows := [], unique := List.nodup_nil }

variable [DecidableEq κ]

def get (t : Table key) (k : κ) : Option α := t.rows.find? (fun row => key row = k)

/-- The rows after `row` took the place of the row with its key, if any. -/
def replaceOrAppend (key : α → κ) (row : α) : List α → List α
  | [] => [row]
  | old :: rest => if key old = key row then row :: rest else old :: replaceOrAppend key row rest

theorem mem_replaceOrAppend {row other : α} {rows : List α}
    (member : other ∈ replaceOrAppend key row rows) : other = row ∨ other ∈ rows := by
  induction rows with
  | nil => exact Or.inl (List.mem_singleton.mp member)
  | cons old rest ih =>
    unfold replaceOrAppend at member
    split at member
    · rcases List.mem_cons.mp member with same | below
      · exact Or.inl same
      · exact Or.inr (List.mem_cons_of_mem _ below)
    · rcases List.mem_cons.mp member with same | below
      · exact Or.inr (same ▸ List.mem_cons_self ..)
      · exact (ih below).imp id (List.mem_cons_of_mem _)

theorem nodup_replaceOrAppend {row : α} {rows : List α} (unique : (rows.map key).Nodup) :
    ((replaceOrAppend key row rows).map key).Nodup := by
  induction rows with
  | nil => exact List.nodup_singleton _
  | cons old rest ih =>
    obtain ⟨fresh, others⟩ := List.nodup_cons.mp unique
    unfold replaceOrAppend
    split
    · rename_i same
      exact List.nodup_cons.mpr ⟨same ▸ fresh, others⟩
    · rename_i differs
      refine List.nodup_cons.mpr ⟨fun inside => ?_, ih others⟩
      obtain ⟨other, member, sameKey⟩ := List.mem_map.mp inside
      rcases mem_replaceOrAppend member with new | below
      · exact differs (sameKey.symm.trans (congrArg key new))
      · exact fresh (List.mem_map.mpr ⟨other, below, sameKey⟩)

/-- Write a row under its own key. -/
def put (t : Table key) (row : α) : Table key :=
  { rows := replaceOrAppend key row t.rows, unique := nodup_replaceOrAppend t.unique }

theorem replaceOrAppend_of_notMem {row : α} {rows : List α} (fresh : key row ∉ rows.map key) :
    replaceOrAppend key row rows = rows ++ [row] := by
  induction rows with
  | nil => rfl
  | cons old rest ih =>
    obtain ⟨differs, below⟩ := not_or.mp (mt List.mem_cons.mpr fresh)
    rw [replaceOrAppend, if_neg (Ne.symm differs), ih below, List.cons_append]

/-- Rows with new keys are appended in their order. -/
theorem rows_foldl_put {rows : List α} {t : Table key} (distinct : (rows.map key).Nodup)
    (fresh : ∀ row ∈ rows, key row ∉ t.rows.map key) : (rows.foldl put t).rows = t.rows ++ rows := by
  induction rows generalizing t with
  | nil => exact (List.append_nil _).symm
  | cons row rest ih =>
    obtain ⟨apart, distinct⟩ := List.nodup_cons.mp distinct
    have appended : (t.put row).rows = t.rows ++ [row] := replaceOrAppend_of_notMem (fresh row (List.mem_cons_self ..))
    rw [List.foldl_cons, ih distinct, appended, List.append_assoc, List.singleton_append]
    intro other member inside
    rw [appended, List.map_append, List.mem_append] at inside
    rcases inside with old | new
    · exact fresh other (List.mem_cons_of_mem _ member) old
    · have same : key other = key row := by simpa using new
      exact apart (same ▸ List.mem_map_of_mem member)

@[simp] theorem get_empty (k : κ) : (empty : Table key).get k = none := rfl

theorem get_key {t : Table key} {k : κ} {row : α} (found : t.get k = some row) : key row = k := by
  simpa using List.find?_some found

theorem get_put (t : Table key) (row : α) (k : κ) :
    (t.put row).get k = if k = key row then some row else t.get k := by
  obtain ⟨rows, unique⟩ := t
  simp only [put, get]
  clear unique
  induction rows with
  | nil => simp only [replaceOrAppend, List.find?_cons, List.find?_nil]; grind
  | cons old rest ih =>
    unfold replaceOrAppend
    split
    · rename_i same
      simp only [List.find?_cons, same]
      grind
    · rename_i differs
      simp only [List.find?_cons, ih]
      grind

@[simp] theorem get_put_self (t : Table key) (row : α) : (t.put row).get (key row) = some row := by
  simp [get_put]

theorem mem_rows_iff {t : Table key} {row : α} : row ∈ t.rows ↔ t.get (key row) = some row := by
  refine ⟨fun member => ?_, List.mem_of_find?_eq_some⟩
  obtain ⟨rows, unique⟩ := t
  unfold get
  induction rows with
  | nil => cases member
  | cons old rest ih =>
    obtain ⟨fresh, others⟩ := List.nodup_cons.mp unique
    rcases List.mem_cons.mp member with same | below
    · simp [same]
    · have differs : key old ≠ key row := fun same => fresh (List.mem_map.mpr ⟨row, below, same.symm⟩)
      simpa [List.find?_cons, differs] using ih others below

theorem mem_of_get {t : Table key} {k : κ} {row : α} (found : t.get k = some row) : row ∈ t.rows :=
  List.mem_of_find?_eq_some found

/-- A write over a stored row leaves the order of the keys alone. -/
theorem keys_put {t : Table key} {row old : α} (stored : t.get (key row) = some old) :
    (t.put row).rows.map key = t.rows.map key := by
  obtain ⟨rows, unique⟩ := t
  simp only [put, get] at stored ⊢
  clear unique
  induction rows with
  | nil => cases stored
  | cons first rest ih =>
    unfold replaceOrAppend
    by_cases here : key first = key row
    · simp [here]
    · have below := ih (by simpa [List.find?_cons, here] using stored)
      simp [here, below]

/-- Tables with the same keys in the same order pair their rows by key. -/
theorem forall₂_get {t t' : Table key} (keys : t'.rows.map key = t.rows.map key) :
    List.Forall₂ (fun row row' => t'.get (key row) = some row') t.rows t'.rows := by
  have paired : List.Forall₂ (fun row row' => key row = key row') t.rows t'.rows := by
    have related := List.forall₂_eq_eq_eq.symm ▸ keys.symm
    rw [List.forall₂_map_left_iff, List.forall₂_map_right_iff] at related
    exact related
  have inside : ∀ row' ∈ t'.rows, t'.get (key row') = some row' := fun row' => mem_rows_iff.mp
  clear keys
  generalize t'.rows = rows', t.rows = rows at paired inside
  induction paired with
  | nil => exact .nil
  | cons same _ ih =>
    exact .cons (same ▸ inside _ (List.mem_cons_self ..))
      (ih fun row' member => inside row' (List.mem_cons_of_mem _ member))

section Batch

variable {α κ ε : Type} {key : α → κ} [DecidableEq κ]

/-- One write after the other, each computed from the row it replaces. -/
def putAll (compute : Option α → α → Except ε α) : List α → Table key → Except ε (Table key)
  | [], t => .ok t
  | item :: rest, t => match compute (t.get (key item)) item with
    | .error e => .error e
    | .ok row => putAll compute rest (t.put row)

variable {compute : Option α → α → Except ε α}
  (keeps : ∀ {t : Table key} {item row : α}, compute (t.get (key item)) item = .ok row → key row = key item)

include keeps

/-- The write of one item is not seen by an item with another key. -/
theorem get_put_other {item other row : α} {rest : List α} {t : Table key} (fresh : key item ∉ rest.map key)
    (member : other ∈ rest) (computed : compute (t.get (key item)) item = .ok row) :
    (t.put row).get (key other) = t.get (key other) := by
  have differs : key other ≠ key row := fun same =>
    fresh (List.mem_map.mpr ⟨other, member, same.trans (keeps computed)⟩)
  rw [get_put, if_neg differs]

/-- Items with distinct keys are written exactly if each of them can be
written to the table as it was. -/
theorem putAll_ok_iff {items : List α} {t : Table key} (distinct : (items.map key).Nodup) :
    (∃ t', putAll compute items t = .ok t') ↔
      ∀ item ∈ items, ∃ row, compute (t.get (key item)) item = .ok row := by
  induction items generalizing t with
  | nil => exact ⟨fun _ => List.forall_mem_nil _, fun _ => ⟨t, rfl⟩⟩
  | cons item rest ih =>
    obtain ⟨fresh, others⟩ := List.nodup_cons.mp distinct
    rw [List.forall_mem_cons]
    unfold putAll
    cases computed : compute (t.get (key item)) item with
    | error e => simp
    | ok row =>
      rw [ih others]
      refine ⟨fun below => ⟨⟨row, rfl⟩, fun other member => ?_⟩, fun each other member => ?_⟩
      · exact get_put_other keeps fresh member computed ▸ below other member
      · exact (get_put_other keeps fresh member computed).symm ▸ each.2 other member

/-- A batch that raises raises what one of its items raises. -/
theorem putAll_error {items : List α} {t : Table key} {e : ε} (distinct : (items.map key).Nodup)
    (run : putAll compute items t = .error e) : ∃ item ∈ items, compute (t.get (key item)) item = .error e := by
  induction items generalizing t with
  | nil => cases run
  | cons item rest ih =>
    obtain ⟨fresh, others⟩ := List.nodup_cons.mp distinct
    unfold putAll at run
    split at run
    · rename_i raised
      exact ⟨item, List.mem_cons_self .., (Except.error.inj run) ▸ raised⟩
    · rename_i row computed
      obtain ⟨other, member, raised⟩ := ih others run
      rw [get_put_other keeps fresh member computed] at raised
      exact ⟨other, List.mem_cons_of_mem _ member, raised⟩

theorem get_putAll_of_notMem {items : List α} {t t' : Table key} {k : κ}
    (run : putAll compute items t = .ok t') (outside : k ∉ items.map key) : t'.get k = t.get k := by
  induction items generalizing t with
  | nil =>
    cases run
    rfl
  | cons item rest ih =>
    rw [List.map_cons, List.mem_cons, not_or] at outside
    unfold putAll at run
    split at run
    · cases run
    · rename_i row computed
      rw [ih run outside.2, get_put, if_neg fun same => outside.1 (same.trans (keeps computed))]

theorem get_putAll_of_mem {items : List α} {t t' : Table key} {item : α} (distinct : (items.map key).Nodup)
    (run : putAll compute items t = .ok t') (member : item ∈ items) :
    ∃ row, compute (t.get (key item)) item = .ok row ∧ t'.get (key item) = some row := by
  induction items generalizing t with
  | nil => cases member
  | cons first rest ih =>
    obtain ⟨fresh, others⟩ := List.nodup_cons.mp distinct
    unfold putAll at run
    split at run
    · cases run
    · rename_i row computed
      rcases List.mem_cons.mp member with rfl | below
      · have same := keeps computed
        refine ⟨row, computed, ?_⟩
        rw [get_putAll_of_notMem keeps run fresh, ← same, get_put_self]
      · obtain ⟨written, wrote, stored⟩ := ih others run below
        rw [get_put_other keeps fresh below computed] at wrote
        exact ⟨written, wrote, stored⟩

theorem keys_putAll {items : List α} {t t' : Table key} (distinct : (items.map key).Nodup)
    (stored : ∀ item ∈ items, ∃ old, t.get (key item) = some old) (run : putAll compute items t = .ok t') :
    t'.rows.map key = t.rows.map key := by
  induction items generalizing t with
  | nil =>
    cases run
    rfl
  | cons item rest ih =>
    obtain ⟨fresh, others⟩ := List.nodup_cons.mp distinct
    obtain ⟨old, found⟩ := stored item (List.mem_cons_self ..)
    unfold putAll at run
    split at run
    · cases run
    · rename_i row computed
      have below := ih others (fun other member => get_put_other keeps fresh member computed ▸
        stored other (List.mem_cons_of_mem _ member)) run
      rw [below, keys_put (keeps computed ▸ found)]

end Batch

section Bulk

variable {α κ : Type} {key : α → κ} [DecidableEq κ]

/-- One write to every row, none of which may move to another key. -/
def mapRows (t : Table key) (f : α → α) (keeps : ∀ row, key (f row) = key row) : Table key where
  rows := t.rows.map f
  unique := by
    have same : key ∘ f = key := funext keeps
    rw [List.map_map, same]
    exact t.unique

def filterRows (t : Table key) (keep : α → Bool) : Table key where
  rows := t.rows.filter keep
  unique := t.unique.sublist (List.filter_sublist.map key)

@[simp] theorem get_mapRows (t : Table key) (f : α → α) (keeps : ∀ row, key (f row) = key row) (k : κ) :
    (t.mapRows f keeps).get k = (t.get k).map f := by
  simp only [mapRows, get, List.find?_map]
  congr 2
  funext row
  simp only [Function.comp, keeps]

/-- A list of writes, each of which changes a row by itself. -/
theorem get_foldl {β : Type} {write : Table key → β → Table key} {change : β → α → α} {k : κ}
    (each : ∀ t x, (write t x).get k = (t.get k).map (change x)) (xs : List β) (t : Table key) :
    (xs.foldl write t).get k = (t.get k).map fun row => xs.foldl (fun row x => change x row) row := by
  induction xs generalizing t with
  | nil => simp
  | cons x rest ih =>
    rw [List.foldl_cons, ih, each, Option.map_map]
    rfl

@[simp] theorem get_filterRows (t : Table key) (keep : α → Bool) (k : κ) :
    (t.filterRows keep).get k = (t.get k).filter keep := by
  cases found : t.get k with
  | none =>
    simp only [get, List.find?_eq_none, decide_eq_true_eq] at found
    simp only [filterRows, get, Option.filter_none, List.find?_eq_none, decide_eq_true_eq]
    exact fun row member => found row (List.mem_filter.mp member).1
  | some row =>
    have same := get_key found
    cases kept : keep row with
    | false =>
      simp only [filterRows, get, Option.filter, kept, Bool.false_eq_true, if_false, List.find?_eq_none,
        decide_eq_true_eq]
      intro other member sameKey
      obtain ⟨inside, keptOther⟩ := List.mem_filter.mp member
      have stored : t.get k = some other := sameKey ▸ mem_rows_iff.mp inside
      cases Option.some.inj (found.symm.trans stored)
      simp [kept] at keptOther
    | true =>
      have inside : row ∈ (t.filterRows keep).rows := List.mem_filter.mpr ⟨mem_of_get found, kept⟩
      rw [← same, mem_rows_iff.mp inside]
      simp [Option.filter, kept]

end Bulk

end Table
