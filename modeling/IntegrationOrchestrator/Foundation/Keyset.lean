import Mathlib

/-! Keyset pagination: a page is cut from the rows behind a position, and its
last row is the position of the next page. -/

namespace Keyset

variable {α κ : Type}

structure Page (α κ : Type) where
  items : List α
  nextCursor : Option κ

/-- A client that asks for page after page until there is no next cursor.
`fuel` bounds the number of pages. -/
def follow (fetch : Option κ → Page α κ) : Nat → Option κ → List α
  | 0, _ => []
  | fuel + 1, cursor => (fetch cursor).items ++
      match (fetch cursor).nextCursor with
      | none => []
      | some next => follow fetch fuel (some next)

/-- A client that asks for page after page, of rows that may change from one
page to the next: `fetch n` is what the `n`th request meets. Cursors travel as
texts. `none` means that `fuel` pages were not enough. -/
def walk {τ ε : Type} (fetch : Nat → Option τ → Except ε (Page α τ)) :
    Nat → Nat → Option τ → Except ε (Option (List α))
  | 0, _, _ => .ok none
  | fuel + 1, n, cursor => do
    let page ← fetch n cursor
    match page.nextCursor with
    | none => return some page.items
    | some next =>
      let rest ← walk fetch fuel (n + 1) (some next)
      return rest.map (page.items ++ ·)

/-- The cursor of the `n`th request, or `none` if there is no such request. -/
def cursorAt (fetch : Nat → Option κ → Page α κ) : Nat → Option (Option κ)
  | 0 => some none
  | n + 1 => (cursorAt fetch n).bind fun cursor => (fetch n cursor).nextCursor.map some

theorem cursorAt_succ {fetch : Nat → Option κ → Page α κ} {n : Nat} {cursor : Option κ} {next : κ}
    (here : cursorAt fetch n = some cursor) (more : (fetch n cursor).nextCursor = some next) :
    cursorAt fetch (n + 1) = some (some next) := by
  simp [cursorAt, here, more]

/-- A page whose cursor was written down. -/
def Page.encoded {τ : Type} (encode : κ → τ) (page : Page α κ) : Page α τ :=
  { items := page.items, nextCursor := page.nextCursor.map encode }

variable [LinearOrder κ] (position : α → κ)

/-- The rows behind the cursor. -/
def seek (rows : List α) (cursor : Option κ) : List α :=
  rows.filter fun row => cursor.all fun at_ => position row < at_

def page (rows : List α) (limit : Nat) (cursor : Option κ) : Page α κ :=
  { items := (seek position rows cursor).take limit
    nextCursor :=
      if limit < (seek position rows cursor).length then
        ((seek position rows cursor).take limit).getLast?.map position
      else none }

/-- Newest first, and no two rows at one position. -/
def Descending (rows : List α) : Prop := rows.Pairwise fun a b => position b < position a

variable {position} {rows : List α} {limit : Nat}

theorem Descending.seek (sorted : Descending position rows) (cursor : Option κ) :
    Descending position (seek position rows cursor) :=
  List.Pairwise.sublist List.filter_sublist sorted

theorem descending_iff : Descending position rows ↔ (rows.map position).Pairwise fun a b => b < a := by
  rw [Descending, List.pairwise_map]

/-- Rows at the same positions are in the same order. -/
theorem map_position_eq {others : List α} (sorted : Descending position rows) (sorted' : Descending position others)
    (same : ∀ place, place ∈ rows.map position ↔ place ∈ others.map position) :
    rows.map position = others.map position := by
  rw [descending_iff] at sorted sorted'
  have nodup {places : List κ} (strict : places.Pairwise fun a b => b < a) : places.Nodup :=
    strict.imp fun below => below.ne'
  refine List.Perm.eq_of_pairwise (fun a b _ _ above below => absurd above below.asymm) sorted sorted' ?_
  exact (List.perm_ext_iff_of_nodup (nodup sorted) (nodup sorted')).mpr same

/-- Behind a row of the list come exactly the rows after it. -/
theorem filter_behind {index : Nat} {row : α} (sorted : Descending position rows) (at_ : rows[index]? = some row) :
    rows.filter (fun other => position other < position row) = rows.drop (index + 1) := by
  induction rows generalizing index with
  | nil => cases at_
  | cons first rest ih =>
    obtain ⟨above, below⟩ := List.pairwise_cons.mp sorted
    cases index with
    | zero =>
      obtain rfl : first = row := by simpa using at_
      have all : rest.filter (fun other => position other < position first) = rest :=
        List.filter_eq_self.mpr fun other member => by simpa using above other member
      simp [all]
    | succ index =>
      have at_ : rest[index]? = some row := by simpa using at_
      have higher := above row (List.mem_of_getElem? at_)
      rw [List.filter_cons_of_neg (by simpa using higher.le), ih below at_, List.drop_succ_cons]

/-- The rows behind the last row of a full page are those the page left out. -/
theorem seek_next (sorted : Descending position rows) {cursor : Option κ} {row : α}
    (more : limit < (seek position rows cursor).length)
    (last : ((seek position rows cursor).take limit).getLast? = some row) :
    seek position rows (some (position row)) = (seek position rows cursor).drop limit := by
  have full : ((seek position rows cursor).take limit).length = limit := by
    rw [List.length_take]
    omega
  have positive : 0 < limit := by
    by_contra none
    have empty : limit = 0 := by omega
    simp [empty] at last
  rw [List.getLast?_eq_getElem?, full, List.getElem?_take_of_lt (by omega)] at last
  have behind := filter_behind (sorted.seek cursor) last
  rw [show limit - 1 + 1 = limit by omega] at behind
  rw [← behind]
  -- a row behind a row behind the cursor is behind the cursor
  have inside : row ∈ seek position rows cursor := List.mem_of_getElem? last
  have passed := (List.mem_filter.mp inside).2
  unfold seek
  rw [List.filter_filter]
  refine List.filter_congr fun other _ => ?_
  cases cursor with
  | none => simp
  | some at_ =>
    simp only [Option.all_some, decide_eq_true_eq] at passed ⊢
    by_cases lower : position other < position row
    · simp [lower, lower.trans passed]
    · simp [lower]

theorem page_more {cursor : Option κ} (positive : 0 < limit) (more : limit < (seek position rows cursor).length) :
    ∃ row ∈ rows, ((seek position rows cursor).take limit).getLast? = some row ∧
      (page position rows limit cursor).nextCursor = some (position row) := by
  have full : 0 < ((seek position rows cursor).take limit).length := by
    rw [List.length_take]
    omega
  obtain ⟨row, last⟩ : ∃ row, ((seek position rows cursor).take limit).getLast? = some row :=
    ⟨_, List.getLast?_eq_some_getLast (List.ne_nil_of_length_pos full)⟩
  have inside := List.mem_of_mem_filter (List.mem_of_mem_take (List.mem_of_getLast? last))
  exact ⟨row, inside, last, by simp [page, more, last]⟩

section walk

variable {τ ε : Type} {encode : κ → τ} {fetch : Nat → Option τ → Except ε (Page α τ)} {table : Nat → List α}

/-- If the rows behind the cursor of a page are still at their positions when
the next page is asked for, the walk from any page on ends, and it yields the
positions behind that page, in order and once. -/
theorem walk_page (sorted : ∀ n, Descending position (table n)) (positive : 0 < limit)
    (serves : ∀ n cursor, (∀ c ∈ cursor, ∃ m, ∃ row ∈ table m, position row = c) →
      fetch n (cursor.map encode) = .ok ((page position (table n) limit cursor).encoded encode))
    (kept : ∀ n next, cursorAt (fun n => page position (table n) limit) (n + 1) = some (some next) →
      (seek position (table (n + 1)) (some next)).map position = (seek position (table n) (some next)).map position)
    {fuel n : Nat} {cursor : Option κ}
    (here : cursorAt (fun n => page position (table n) limit) n = some cursor)
    (known : ∀ c ∈ cursor, ∃ m, ∃ row ∈ table m, position row = c)
    (enough : (seek position (table n) cursor).length < fuel) :
    ∃ items, walk fetch fuel n (cursor.map encode) = .ok (some items) ∧ (∀ item ∈ items, ∃ m, item ∈ table m) ∧
      items.map position = (seek position (table n) cursor).map position := by
  induction fuel generalizing n cursor with
  | zero => omega
  | succ fuel ih =>
    have listed : ∀ item ∈ (seek position (table n) cursor).take limit, ∃ m, item ∈ table m := fun item member =>
      ⟨n, List.mem_of_mem_filter (List.mem_of_mem_take member)⟩
    rw [walk, serves n cursor known]
    by_cases more : limit < (seek position (table n) cursor).length
    · obtain ⟨row, inside, last, next⟩ := page_more positive more
      have behind := seek_next (sorted n) more last
      have after := cursorAt_succ here next
      have same := kept n (position row) after
      have shorter : (seek position (table (n + 1)) (some (position row))).length < fuel := by
        have length := congrArg List.length same
        rw [List.length_map, List.length_map, behind, List.length_drop] at length
        omega
      have seen : ∀ c ∈ some (position row), ∃ m, ∃ other ∈ table m, position other = c := by
        rintro _ ⟨⟩
        exact ⟨n, row, inside, rfl⟩
      obtain ⟨items, walked, stored, places⟩ := ih after seen shorter
      rw [Option.map_some] at walked
      refine ⟨(seek position (table n) cursor).take limit ++ items, ?_, ?_, ?_⟩
      · simp only [Page.encoded, next, Option.map_some, bind, Except.bind, walked]
        rfl
      · exact fun item member => (List.mem_append.mp member).elim (listed item) (stored item)
      · rw [List.map_append, places, same, behind, ← List.map_append, List.take_append_drop]
    · refine ⟨(seek position (table n) cursor).take limit, ?_, listed, by rw [List.take_of_length_le (by omega)]⟩
      simp only [Page.encoded, page, more, if_false, Option.map_none]
      rfl

end walk

/-- A row is on the first page if fewer rows than a page are above it. -/
theorem mem_take_iff (sorted : Descending position rows) {row : α} (member : row ∈ rows) :
    row ∈ rows.take limit ↔ rows.countP (fun other => position row < position other) < limit := by
  obtain ⟨before, after, rfl⟩ := List.append_of_mem member
  obtain ⟨_, below, across⟩ := List.pairwise_append.mp sorted
  have above : before.countP (fun other => position row < position other) = before.length :=
    List.countP_eq_length.mpr fun other inside => by simpa using across other inside row (List.mem_cons_self ..)
  have none : (row :: after).countP (fun other => position row < position other) = 0 := by
    refine List.countP_eq_zero.mpr fun other inside => ?_
    rcases List.mem_cons.mp inside with rfl | inside
    · simp
    · simpa using ((List.pairwise_cons.mp below).1 other inside).le
  rw [List.countP_append, above, none, Nat.add_zero]
  constructor
  · intro taken
    by_contra short
    rw [List.take_append_of_le_length (by omega)] at taken
    have twice := across row (List.mem_of_mem_take taken) row (List.mem_cons_self ..)
    exact lt_irrefl _ twice
  · intro short
    rw [List.take_append, List.mem_append]
    refine Or.inr ?_
    rw [show limit - before.length = (limit - before.length - 1) + 1 by omega, List.take_succ_cons]
    exact List.mem_cons_self ..

end Keyset
