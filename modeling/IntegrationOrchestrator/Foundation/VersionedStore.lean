import Mathlib

/-! Transactions over rows that carry a version. A session reads rows with or
without a lock, changes its copies by operations that may advance the version,
and writes a copy back if the row is still at the version it keeps for it. -/

/-- Rows with a key and a version, the operations on a copy of a row, the row
an update leaves, and the exception of an update that finds no row. -/
structure VersionedRows (ρ κ ω ε : Type) where
  key : ρ → κ
  version : ρ → Int
  apply : ω → ρ → Except ε ρ
  written : ρ → ρ → ρ
  conflict : ρ → ε

namespace VersionedRows

variable {ρ κ ω ε : Type} (R : VersionedRows ρ κ ω ε)

def Derives : ρ → ρ → Prop := Relation.ReflTransGen fun a b => ∃ operation, R.apply operation a = .ok b

structure Lawful : Prop where
  key_apply : ∀ {operation a b}, R.apply operation a = .ok b → R.key b = R.key a
  version_apply : ∀ {operation a b}, R.apply operation a = .ok b → R.version a ≤ R.version b
  written_derived : ∀ {a b}, R.Derives a b → R.written a b = b

variable {R}

end VersionedRows

namespace VersionedStore

/-- A committed row, or one about to be. `basis` counts the committed images
of the row that its writer had seen: the image was computed from the last of
those. -/
structure Image (ρ : Type) where
  row : ρ
  basis : Nat

/-- A copy of a row that a session works on. -/
structure Held (ρ : Type) where
  entity : ρ
  basis : Nat

/-- One unit of work: the versions it keeps, the copies it loaded, in order,
and what it wrote and has not committed. -/
structure Session (ρ κ : Type) where
  tracked : κ → Option Int := fun _ => none
  held : List (Held ρ) := []
  pending : κ → Option (Image ρ) := fun _ => none

/-- Every committed image of every row, oldest first, with the row locks and
the open sessions. -/
structure Store (ρ κ : Type) where
  images : κ → List (Image ρ) := fun _ => []
  locks : κ → Option Nat := fun _ => none
  sessions : Nat → Option (Session ρ κ) := fun _ => none

inductive Action (ρ κ ω : Type) where
  | begin (session : Nat)
  | insert (session : Nat) (row : ρ)
  | load (session : Nat) (key : κ) (forUpdate : Bool)
  | apply (session index : Nat) (operation : ω)
  | update (session index : Nat)
  | commit (session : Nat)
  | rollback (session : Nat)

section Semantics

variable {ρ κ ω ε : Type} [DecidableEq κ] (R : VersionedRows ρ κ ω ε)

def Store.withSession (s : Store ρ κ) (session : Nat) (x : Session ρ κ) : Store ρ κ :=
  { s with sessions := Function.update s.sessions session (some x) }

/-- The end of a session, which gives its locks back. -/
def Store.closed (s : Store ρ κ) (session : Nat) : Store ρ κ :=
  { s with
    locks := fun key => if s.locks key = some session then none else s.locks key
    sessions := Function.update s.sessions session none }

def Store.locked (s : Store ρ κ) (session : Nat) (key : κ) : Store ρ κ :=
  { s with locks := Function.update s.locks key (some session) }

/-- No other session holds the lock of the row. -/
def Store.free (s : Store ρ κ) (session : Nat) (key : κ) : Bool :=
  s.locks key = none || s.locks key = some session

/-- The row a session sees: its own write, or the last committed image. -/
def Store.visible (s : Store ρ κ) (x : Session ρ κ) (key : κ) : Option (Held ρ) :=
  match x.pending key with
  | some image => some ⟨image.row, image.basis⟩
  | none => (s.images key).getLast?.map fun image => ⟨image.row, (s.images key).length⟩

def Session.tracking (x : Session ρ κ) (h : Held ρ) : Session ρ κ :=
  { x with
    tracked := Function.update x.tracked (R.key h.entity) (some (R.version h.entity))
    held := x.held ++ [h] }

/-- The session after it wrote its copy over the row it sees. -/
def Session.writing (x : Session ρ κ) (row : ρ) (h : Held ρ) : Session ρ κ :=
  { x with
    tracked := Function.update x.tracked (R.key h.entity) (some (R.version h.entity))
    pending := Function.update x.pending (R.key h.entity) (some ⟨R.written row h.entity, h.basis⟩) }

/-- The version an update expects to find. -/
def Session.expected (x : Session ρ κ) (entity : ρ) : Int :=
  (x.tracked (R.key entity)).getD (R.version entity - 1)

/-- One step of a session, with the exception it raises, if any; a session
that raises is rolled back. `none` is a step that cannot be taken, or has to
wait for a lock. -/
def step (s : Store ρ κ) : Action ρ κ ω → Option (Store ρ κ × Option ε)
  | .begin session =>
    if (s.sessions session).isNone then some (s.withSession session {}, none) else none
  | .insert session row => do
    let x ← s.sessions session
    if (s.images (R.key row)).isEmpty && (s.locks (R.key row)).isNone then
      let x := x.tracking R ⟨row, 0⟩
      some ((s.withSession session
        { x with pending := Function.update x.pending (R.key row) (some ⟨row, 0⟩) }).locked session (R.key row), none)
    else none
  | .load session key forUpdate => do
    let x ← s.sessions session
    match s.visible x key with
    | none => some (s, none)
    | some h =>
      let loaded := s.withSession session (x.tracking R h)
      if forUpdate then if s.free session key then some (loaded.locked session key, none) else none
      else some (loaded, none)
  | .apply session index operation => do
    let x ← s.sessions session
    let h ← x.held[index]?
    match R.apply operation h.entity with
    | .ok entity => some (s.withSession session { x with held := x.held.set index { h with entity := entity } }, none)
    | .error raised => some (s.closed session, some raised)
  | .update session index => do
    let x ← s.sessions session
    let h ← x.held[index]?
    if s.free session (R.key h.entity) then
      match s.visible x (R.key h.entity) with
      | some current =>
        if R.version current.entity = x.expected R h.entity then
          some ((s.withSession session (x.writing R current.entity h)).locked session (R.key h.entity), none)
        else some (s.closed session, some (R.conflict h.entity))
      | none => some (s.closed session, some (R.conflict h.entity))
    else none
  | .commit session => do
    let x ← s.sessions session
    some ({ s with images := fun key => s.images key ++ (x.pending key).toList }.closed session, none)
  | .rollback session => do
    let _ ← s.sessions session
    some (s.closed session, none)

/-- The stores that sessions reach, from an empty one, by steps that meet a
restriction. -/
inductive Reach (allowed : Store ρ κ → Action ρ κ ω → Prop) : Store ρ κ → Prop
  | start : Reach allowed {}
  | next {s s' : Store ρ κ} {a : Action ρ κ ω} {raised : Option ε} :
      Reach allowed s → allowed s a → step R s a = some (s', raised) → Reach allowed s'

end Semantics

section Discipline

variable {ρ κ ω ε : Type} (R : VersionedRows ρ κ ω ε)

/-- No copy of the row was loaded after this one. -/
def Session.LoadedLast (x : Session ρ κ) (index : Nat) (h : Held ρ) : Prop :=
  ∀ other ∈ x.held.drop (index + 1), R.key other.entity ≠ R.key h.entity

/-- Sessions write back only the copy they loaded last, and only after an
operation that advanced its version. -/
def Disciplined (s : Store ρ κ) : Action ρ κ ω → Prop
  | .update session index => ∀ x ∈ s.sessions session, ∀ h ∈ x.held[index]?,
      x.LoadedLast R index h ∧ ((x.pending (R.key h.entity)).isNone → x.expected R h.entity < R.version h.entity)
  | _ => True

instance [DecidableEq κ] (x : Session ρ κ) (index : Nat) (h : Held ρ) : Decidable (x.LoadedLast R index h) :=
  inferInstanceAs (Decidable (∀ other ∈ x.held.drop (index + 1), R.key other.entity ≠ R.key h.entity))

instance [DecidableEq κ] (s : Store ρ κ) : (a : Action ρ κ ω) → Decidable (Disciplined R s a)
  | .update session index => inferInstanceAs (Decidable (∀ x ∈ s.sessions session, ∀ h ∈ x.held[index]?,
      x.LoadedLast R index h ∧ ((x.pending (R.key h.entity)).isNone → x.expected R h.entity < R.version h.entity)))
  | .begin _ | .insert _ _ | .load _ _ _ | .apply _ _ _ | .commit _ | .rollback _ => inferInstanceAs (Decidable True)

/-- The copy that was loaded last of all copies of its row. -/
def Session.Latest (x : Session ρ κ) (index : Nat) (h : Held ρ) : Prop :=
  x.held[index]? = some h ∧
    ∀ other later, x.held[later]? = some other → index < later → R.key other.entity ≠ R.key h.entity

theorem Session.LoadedLast.latest {x : Session ρ κ} {index : Nat} {h : Held ρ} (last : x.LoadedLast R index h)
    (held : x.held[index]? = some h) : x.Latest R index h := by
  refine ⟨held, fun other later found after => last other (List.mem_iff_getElem?.mpr ⟨later - (index + 1), ?_⟩)⟩
  rw [List.getElem?_drop, show index + 1 + (later - (index + 1)) = later by omega, found]

/-- A later image is at a higher version and was computed from the earlier. -/
def Precedes (old new : Image ρ) : Prop := R.version old.row < R.version new.row ∧ R.Derives old.row new.row

/-- The row a copy was loaded from, or last written to. -/
def Source (images : κ → List (Image ρ)) (x : Session ρ κ) (key : κ) (basis : Nat) (row : ρ) : Prop :=
  match x.pending key with
  | some image => basis = image.basis ∧ row = image.row
  | none => ∃ n image, (images key)[n]? = some image ∧ basis = n + 1 ∧ row = image.row

structure SessionOk (images : κ → List (Image ρ)) (locks : κ → Option Nat) (session : Nat) (x : Session ρ κ) :
    Prop where
  locked : ∀ {key} {image : Image ρ}, x.pending key = some image → locks key = some session
  key : ∀ {key} {image : Image ρ}, x.pending key = some image → R.key image.row = key
  basis : ∀ {key} {image : Image ρ}, x.pending key = some image → image.basis = (images key).length
  tracked : ∀ {key} {image : Image ρ}, x.pending key = some image → x.tracked key = some (R.version image.row)
  precedes : ∀ {key} {image old : Image ρ}, x.pending key = some image → old ∈ images key → Precedes R old image
  source : ∀ {index h}, x.Latest R index h → ∃ row, Source images x (R.key h.entity) h.basis row ∧
    R.Derives row h.entity ∧ x.tracked (R.key h.entity) = some (R.version row) ∧ R.version row ≤ R.version h.entity

structure Coherent (s : Store ρ κ) : Prop where
  key : ∀ {key} {image : Image ρ}, image ∈ s.images key → R.key image.row = key
  basis : ∀ {key n} {image : Image ρ}, (s.images key)[n]? = some image → image.basis = n
  chain : ∀ key, (s.images key).Pairwise (Precedes R)
  sessions : ∀ {session x}, s.sessions session = some x → SessionOk R s.images s.locks session x

variable {R} {s s' : Store ρ κ} {session : Nat} {x : Session ρ κ} {images : κ → List (Image ρ)}
  {locks locks' : κ → Option Nat}

/-- A session minds no lock but those of the rows it wrote. -/
theorem SessionOk.relocked (ok : SessionOk R images locks session x)
    (keeps : ∀ key, locks key = some session → locks' key = some session) : SessionOk R images locks' session x :=
  { ok with locked := fun wrote => keeps _ (ok.locked wrote) }

theorem Coherent.replaced (coherent : Coherent R s)
    (keeps : ∀ key other, other ≠ session → s.locks key = some other → locks' key = some other)
    (own : SessionOk R s.images locks' session x) :
    Coherent R { s with locks := locks', sessions := Function.update s.sessions session (some x) } := by
  refine ⟨coherent.key, coherent.basis, coherent.chain, fun {other y} opened => ?_⟩
  dsimp only at opened
  by_cases same : other = session
  · subst same
    rw [Function.update_self, Option.some.injEq] at opened
    exact opened ▸ own
  · rw [Function.update_of_ne same] at opened
    exact (coherent.sessions opened).relocked fun key => keeps key other same

theorem Coherent.closed (coherent : Coherent R s) (session : Nat) : Coherent R (s.closed session) := by
  refine ⟨coherent.key, coherent.basis, coherent.chain, fun {other y} opened => ?_⟩
  dsimp only [Store.closed] at opened ⊢
  by_cases same : other = session
  · subst same
    rw [Function.update_self] at opened
    cases opened
  · rw [Function.update_of_ne same] at opened
    refine (coherent.sessions opened).relocked fun key holds => ?_
    simp only [holds, Option.some.injEq, same, if_false]

theorem source_written {key : κ} {image : Image ρ} {basis : Nat} {row : ρ} (wrote : x.pending key = some image) :
    Source images x key basis row ↔ basis = image.basis ∧ row = image.row := by
  unfold Source
  rw [wrote]

theorem source_stored {key : κ} {basis : Nat} {row : ρ} (unwritten : x.pending key = none) :
    Source images x key basis row ↔ ∃ n image, (images key)[n]? = some image ∧ basis = n + 1 ∧ row = image.row := by
  unfold Source
  rw [unwritten]

theorem Source.congr {x' : Session ρ κ} {key : κ} {basis : Nat} {row : ρ} (source : Source images x key basis row)
    (same : x'.pending key = x.pending key) : Source images x' key basis row := by
  unfold Source at source ⊢
  rw [same]
  exact source

/-- Of the copies of one row, one was loaded last. -/
theorem Session.Latest.unique {at_ index : Nat} {h h' : Held ρ} (first : x.Latest R at_ h')
    (second : x.Latest R index h) (same : R.key h'.entity = R.key h.entity) : h' = h := by
  rcases lt_trichotomy at_ index with before | equal | after
  · exact absurd same.symm (first.2 h index second.1 before)
  · subst equal
    exact Option.some.inj (first.1.symm.trans second.1)
  · exact absurd same (second.2 h' at_ first.1 after)

theorem source_of_visible {key : κ} {h : Held ρ} (seen : s.visible x key = some h) :
    Source s.images x key h.basis h.entity := by
  unfold Store.visible at seen
  split at seen
  · rename_i image wrote
    cases seen
    exact (source_written wrote).mpr ⟨rfl, rfl⟩
  · rename_i unwritten
    obtain ⟨image, last, rfl⟩ := Option.map_eq_some_iff.mp seen
    have positive : 0 < (s.images key).length := List.length_pos_iff.mpr fun empty => by simp [empty] at last
    rw [List.getLast?_eq_getElem?] at last
    exact (source_stored unwritten).mpr ⟨_, image, last, by dsimp only; omega, rfl⟩

theorem Coherent.source_key (coherent : Coherent R s) (ok : SessionOk R s.images s.locks session x) {key : κ}
    {n : Nat} {row : ρ} (source : Source s.images x key n row) : R.key row = key := by
  cases wrote : x.pending key with
  | none =>
    obtain ⟨_, image, stored, _, rfl⟩ := (source_stored wrote).mp source
    exact coherent.key (List.mem_of_getElem? stored)
  | some image =>
    obtain ⟨_, rfl⟩ := (source_written wrote).mp source
    exact ok.key wrote

theorem SessionOk.applied (lawful : R.Lawful) (ok : SessionOk R images locks session x) {index : Nat} {h : Held ρ}
    {operation : ω} {entity : ρ} (held : x.held[index]? = some h) (run : R.apply operation h.entity = .ok entity) :
    SessionOk R images locks session { x with held := x.held.set index { h with entity := entity } } := by
  refine ⟨ok.locked, ok.key, ok.basis, ok.tracked, ok.precedes, fun {at_ h'} latest => ?_⟩
  obtain ⟨here, last⟩ := latest
  dsimp only at here last
  have sameKey : R.key entity = R.key h.entity := lawful.key_apply run
  -- the keys of all copies are as they were
  have others : ∀ (later : Nat) (other : Held ρ), x.held[later]? = some other →
      ∃ other' : Held ρ, (x.held.set index { h with entity := entity })[later]? = some other' ∧
        R.key other'.entity = R.key other.entity := by
    intro later other found
    by_cases same : later = index
    · subst same
      rw [held] at found
      cases found
      exact ⟨_, List.getElem?_set_self (List.getElem?_eq_some_iff.mp held).1, sameKey⟩
    · exact ⟨other, by rw [List.getElem?_set_ne (Ne.symm same), found], rfl⟩
  have older : ∀ h₀ : Held ρ, R.key h₀.entity = R.key h'.entity → x.held[at_]? = some h₀ → x.Latest R at_ h₀ := by
    intro h₀ alike found
    refine ⟨found, fun other later there after => ?_⟩
    obtain ⟨other', there', alike'⟩ := others later other there
    rw [alike, ← alike']
    exact last other' later there' after
  by_cases same : at_ = index
  · subst same
    rw [List.getElem?_set_self (List.getElem?_eq_some_iff.mp held).1, Option.some.injEq] at here
    subst here
    obtain ⟨row, source, derived, tracked, bound⟩ := ok.source (older h sameKey.symm held)
    exact ⟨row, sameKey ▸ source, derived.tail ⟨operation, run⟩, sameKey ▸ tracked,
      bound.trans (lawful.version_apply run)⟩
  · rw [List.getElem?_set_ne (Ne.symm same)] at here
    exact ok.source (older h' rfl here)

/-- What a commit of other rows leaves a session with. -/
theorem SessionOk.committed (ok : SessionOk R images locks session x) {images' : κ → List (Image ρ)}
    (grown : ∀ key, x.pending key = none → ∃ new, images' key = images key ++ new)
    (kept : ∀ key image, x.pending key = some image → images' key = images key) :
    SessionOk R images' locks session x := by
  refine ⟨ok.locked, ok.key, fun wrote => kept _ _ wrote ▸ ok.basis wrote, ok.tracked,
    fun wrote old => ok.precedes wrote (kept _ _ wrote ▸ old), fun latest => ?_⟩
  obtain ⟨row, source, rest⟩ := ok.source latest
  refine ⟨row, ?_, rest⟩
  cases wrote : x.pending (R.key _) with
  | some image => exact (source_written wrote).mpr ((source_written wrote).mp source)
  | none =>
    obtain ⟨n, image, stored, from_⟩ := (source_stored wrote).mp source
    obtain ⟨new, grew⟩ := grown _ wrote
    refine (source_stored wrote).mpr ⟨n, image, ?_, from_⟩
    rw [grew, List.getElem?_append_left (List.getElem?_eq_some_iff.mp stored).1, stored]

/-- A commit appends to the images of the rows the session wrote. -/
theorem Coherent.committed (coherent : Coherent R s) (opened : s.sessions session = some x) :
    Coherent R ({ s with images := fun key => s.images key ++ (x.pending key).toList }.closed session) := by
  have ok := coherent.sessions opened
  have closed := coherent.closed session
  refine ⟨fun {key image} member => ?_, fun {key n image} found => ?_, fun key => ?_, fun {other y} there => ?_⟩
  · rcases List.mem_append.mp member with old | new
    · exact coherent.key old
    · exact ok.key (Option.mem_toList.mp new)
  · have found : (s.images key ++ (x.pending key).toList)[n]? = some image := found
    rcases Nat.lt_or_ge n (s.images key).length with inside | beyond
    · rw [List.getElem?_append_left inside] at found
      exact coherent.basis found
    · rw [List.getElem?_append_right beyond] at found
      have wrote : x.pending key = some image := Option.mem_toList.mp (List.mem_of_getElem? found)
      rw [wrote, Option.toList_some, List.getElem?_singleton] at found
      split at found
      · have basis := ok.basis wrote
        omega
      · cases found
  · refine List.pairwise_append.mpr ⟨coherent.chain key, ?_, fun old member new added => ?_⟩
    · cases x.pending key <;> simp
    · exact ok.precedes (Option.mem_toList.mp added) member
  · have there : Function.update s.sessions session none other = some y := there
    have differs : other ≠ session := by
      rintro rfl
      rw [Function.update_self] at there
      cases there
    refine (closed.sessions there).committed (fun key _ => ⟨_, rfl⟩) (fun key image wrote => ?_)
    -- the row is locked by its writer, so the committing session did not write it
    rw [Function.update_of_ne differs] at there
    have lock := (coherent.sessions there).locked wrote
    show s.images key ++ (x.pending key).toList = s.images key
    cases mine : x.pending key with
    | none => exact List.append_nil _
    | some image' =>
      rw [ok.locked mine] at lock
      exact absurd (Option.some.inj lock).symm differs

/-- A session that changed in one row only. -/
theorem SessionOk.changed (ok : SessionOk R images locks session x) {x' : Session ρ κ} (k : κ)
    (elsewhere : ∀ key, key ≠ k → x'.pending key = x.pending key ∧ x'.tracked key = x.tracked key)
    (wrote : ∀ image, x'.pending k = some image → locks k = some session ∧ R.key image.row = k ∧
      image.basis = (images k).length ∧ x'.tracked k = some (R.version image.row) ∧
      ∀ old ∈ images k, Precedes R old image)
    (latest : ∀ {index h}, x'.Latest R index h → (x.Latest R index h ∧ R.key h.entity ≠ k) ∨
      (R.key h.entity = k ∧ ∃ row, Source images x' k h.basis row ∧ R.Derives row h.entity ∧
        x'.tracked k = some (R.version row) ∧ R.version row ≤ R.version h.entity)) :
    SessionOk R images locks session x' := by
  have pending : ∀ {key image}, x'.pending key = some image →
      (key = k ∧ x'.pending k = some image) ∨ (key ≠ k ∧ x.pending key = some image) := by
    intro key image found
    by_cases same : key = k
    · exact Or.inl ⟨same, same ▸ found⟩
    · exact Or.inr ⟨same, (elsewhere key same).1 ▸ found⟩
  refine ⟨fun found => ?_, fun found => ?_, fun found => ?_, fun found => ?_, fun found old => ?_, fun here => ?_⟩
  · rcases pending found with ⟨rfl, found⟩ | ⟨_, found⟩
    · exact (wrote _ found).1
    · exact ok.locked found
  · rcases pending found with ⟨rfl, found⟩ | ⟨_, found⟩
    · exact (wrote _ found).2.1
    · exact ok.key found
  · rcases pending found with ⟨rfl, found⟩ | ⟨_, found⟩
    · exact (wrote _ found).2.2.1
    · exact ok.basis found
  · rcases pending found with ⟨rfl, found⟩ | ⟨differs, found⟩
    · exact (wrote _ found).2.2.2.1
    · exact (elsewhere _ differs).2 ▸ ok.tracked found
  · rcases pending found with ⟨rfl, found⟩ | ⟨_, found⟩
    · exact (wrote _ found).2.2.2.2 _ old
    · exact ok.precedes found old
  · rcases latest here with ⟨older, differs⟩ | ⟨same, source⟩
    · obtain ⟨row, source, derived, tracked, bound⟩ := ok.source older
      obtain ⟨samePending, sameTracked⟩ := elsewhere _ differs
      exact ⟨row, source.congr samePending, derived, sameTracked ▸ tracked, bound⟩
    · exact same ▸ source

/-- A copy loaded last is the one just loaded, or a copy of another row. -/
theorem Session.Latest.appended {x' : Session ρ κ} {index : Nat} {h h' : Held ρ} (latest : x'.Latest R index h')
    (grown : x'.held = x.held ++ [h]) :
    h' = h ∨ (x.Latest R index h' ∧ R.key h'.entity ≠ R.key h.entity) := by
  obtain ⟨here, last⟩ := latest
  rw [grown] at here last
  by_cases before : index < x.held.length
  · have differs := last h x.held.length (by simp) before
    rw [List.getElem?_append_left before] at here
    refine Or.inr ⟨⟨here, fun other later found after => last other later ?_ after⟩, differs.symm⟩
    rw [List.getElem?_append_left (List.getElem?_eq_some_iff.mp found).1, found]
  · rw [List.getElem?_append_right (by omega), List.getElem?_singleton] at here
    split at here
    · exact Or.inl (Option.some.inj here).symm
    · cases here

theorem Coherent.precedes_of_lt (coherent : Coherent R s) {key : κ} {i j : Nat} {old new : Image ρ}
    (atOld : (s.images key)[i]? = some old) (atNew : (s.images key)[j]? = some new) (before : i < j) :
    Precedes R old new := by
  obtain ⟨boundOld, rfl⟩ := List.getElem?_eq_some_iff.mp atOld
  obtain ⟨boundNew, rfl⟩ := List.getElem?_eq_some_iff.mp atNew
  exact List.pairwise_iff_getElem.mp (coherent.chain key) i j boundOld boundNew before

/-- What an update compares: the row as it is, with the version of the row
that the copy was loaded from. -/
theorem SessionOk.expected_eq (ok : SessionOk R images locks session x) {index : Nat} {h : Held ρ}
    (latest : x.Latest R index h) : ∃ row, Source images x (R.key h.entity) h.basis row ∧
      R.Derives row h.entity ∧ x.expected R h.entity = R.version row ∧ R.version row ≤ R.version h.entity := by
  obtain ⟨row, source, derived, tracked, bound⟩ := ok.source latest
  exact ⟨row, source, derived, by simp [Session.expected, tracked], bound⟩

/-- A session whose copy is of an older image does not find the version it
expects. -/
theorem Coherent.overtaken (coherent : Coherent R s) (opened : s.sessions session = some x) {index : Nat}
    {h current : Held ρ} (latest : x.Latest R index h) (seen : s.visible x (R.key h.entity) = some current)
    (behind : h.basis < (s.images (R.key h.entity)).length) : R.version current.entity ≠ x.expected R h.entity := by
  have ok := coherent.sessions opened
  obtain ⟨row, source, _, expected, _⟩ := ok.expected_eq latest
  rw [expected]
  cases wrote : x.pending (R.key h.entity) with
  | some image =>
    obtain ⟨same, _⟩ := (source_written wrote).mp source
    have last := ok.basis wrote
    omega
  | none =>
    obtain ⟨n, image, stored, basis, rfl⟩ := (source_stored wrote).mp source
    obtain ⟨m, last, there, length, same⟩ := (source_stored wrote).mp (source_of_visible seen)
    have all : current.basis = (s.images (R.key h.entity)).length := by
      simp only [Store.visible, wrote, Option.map_eq_some_iff] at seen
      obtain ⟨_, _, rfl⟩ := seen
      rfl
    have order := (coherent.precedes_of_lt stored there (by omega)).1
    rw [same]
    omega

/-- An update that finds the version it expects was computed from the last
committed image. -/
theorem Coherent.up_to_date (coherent : Coherent R s) (opened : s.sessions session = some x) {index : Nat}
    {h current : Held ρ} (latest : x.Latest R index h) (seen : s.visible x (R.key h.entity) = some current)
    (advanced : x.pending (R.key h.entity) = none → x.expected R h.entity < R.version h.entity)
    (found : R.version current.entity = x.expected R h.entity) :
    h.basis = (s.images (R.key h.entity)).length ∧ R.Derives current.entity h.entity ∧
      ∀ old ∈ s.images (R.key h.entity), Precedes R old ⟨h.entity, h.basis⟩ := by
  have ok := coherent.sessions opened
  have notBehind : ¬ h.basis < (s.images (R.key h.entity)).length := fun behind =>
    coherent.overtaken opened latest seen behind found
  obtain ⟨row, source, derived, expected, bound⟩ := ok.expected_eq latest
  cases wrote : x.pending (R.key h.entity) with
  | some image =>
    obtain ⟨basis, rfl⟩ := (source_written wrote).mp source
    obtain ⟨_, same⟩ := (source_written wrote).mp (source_of_visible seen)
    refine ⟨basis.trans (ok.basis wrote), same ▸ derived, fun old member => ?_⟩
    have precedes := ok.precedes wrote member
    exact ⟨precedes.1.trans_le bound, precedes.2.trans derived⟩
  | none =>
    obtain ⟨n, image, stored, basis, rfl⟩ := (source_stored wrote).mp source
    have inside := (List.getElem?_eq_some_iff.mp stored).1
    have length : h.basis = (s.images (R.key h.entity)).length := by omega
    have last : current.entity = image.row := by
      simp only [Store.visible, wrote, Option.map_eq_some_iff] at seen
      obtain ⟨final, isLast, rfl⟩ := seen
      rw [List.getLast?_eq_getElem?, show (s.images (R.key h.entity)).length - 1 = n by omega, stored] at isLast
      cases isLast
      rfl
    refine ⟨length, last ▸ derived, fun old member => ?_⟩
    have higher : R.version image.row < R.version h.entity := expected ▸ advanced wrote
    obtain ⟨i, atOld⟩ := List.getElem?_of_mem member
    have bounded := (List.getElem?_eq_some_iff.mp atOld).1
    rcases Nat.lt_or_ge i n with before | after
    · have precedes := coherent.precedes_of_lt atOld stored before
      exact ⟨precedes.1.trans higher, precedes.2.trans derived⟩
    · obtain rfl : i = n := by omega
      obtain rfl : old = image := Option.some.inj (atOld.symm.trans stored)
      exact ⟨higher, derived⟩

variable [DecidableEq κ]

/-- A lock taken where it was free. -/
theorem free_keeps {key : κ} (free : s.free session key = true) (other : κ) (holder : Nat)
    (differs : holder ≠ session) (holds : s.locks other = some holder) :
    (s.locked session key).locks other = some holder := by
  unfold Store.free at free
  show Function.update s.locks key (some session) other = some holder
  by_cases same : other = key
  · subst same
    simp only [holds, reduceCtorEq, decide_false, Bool.false_or, decide_eq_true_eq, Option.some.injEq] at free
    exact absurd free differs
  · rw [Function.update_of_ne same, holds]

theorem locked_keeps (key : κ) {other : κ} (holds : s.locks other = some session) :
    (s.locked session key).locks other = some session := by
  show Function.update s.locks key (some session) other = some session
  by_cases same : other = key
  · rw [same, Function.update_self]
  · rw [Function.update_of_ne same, holds]

/-- A load keeps the version of the row it read. -/
theorem SessionOk.tracking (ok : SessionOk R images locks session x) {h : Held ρ}
    (source : Source images x (R.key h.entity) h.basis h.entity) :
    SessionOk R images locks session (x.tracking R h) := by
  have tracked : (x.tracking R h).tracked (R.key h.entity) = some (R.version h.entity) := Function.update_self ..
  refine ok.changed (R.key h.entity) (fun key differs => ⟨rfl, Function.update_of_ne differs ..⟩)
    (fun image found => ?_) (fun latest => ?_)
  · have found : x.pending (R.key h.entity) = some image := found
    have same := ((source_written found).mp source).2
    exact ⟨ok.locked found, ok.key found, ok.basis found, same ▸ tracked, fun _ => ok.precedes found⟩
  · rcases latest.appended rfl with rfl | older
    · exact Or.inr ⟨rfl, _, source, .refl, tracked, le_rfl⟩
    · exact Or.inl older

/-- An update of the copy loaded last, at a higher version than the row. -/
theorem SessionOk.writing (lawful : R.Lawful) (ok : SessionOk R images locks session x) {index : Nat} {h : Held ρ}
    {row : ρ} (latest : x.Latest R index h) (derived : R.Derives row h.entity)
    (lock : locks (R.key h.entity) = some session) (basis : h.basis = (images (R.key h.entity)).length)
    (precedes : ∀ old ∈ images (R.key h.entity), Precedes R old ⟨h.entity, h.basis⟩) :
    SessionOk R images locks session (x.writing R row h) := by
  have tracked : (x.writing R row h).tracked (R.key h.entity) = some (R.version h.entity) := Function.update_self ..
  have pending : (x.writing R row h).pending (R.key h.entity) = some ⟨h.entity, h.basis⟩ := by
    show Function.update x.pending _ _ _ = _
    rw [Function.update_self, lawful.written_derived derived]
  refine ok.changed (R.key h.entity)
    (fun key differs => ⟨Function.update_of_ne differs .., Function.update_of_ne differs ..⟩)
    (fun image found => ?_) (fun {at_ h'} here => ?_)
  · obtain rfl : ⟨h.entity, h.basis⟩ = image := Option.some.inj (pending.symm.trans found)
    exact ⟨lock, rfl, basis, tracked, precedes⟩
  · have here : x.Latest R at_ h' := here
    by_cases same : R.key h'.entity = R.key h.entity
    · obtain rfl := here.unique latest same
      exact Or.inr ⟨rfl, _, (source_written pending).mpr ⟨rfl, rfl⟩, .refl, tracked, le_rfl⟩
    · exact Or.inl ⟨here, same⟩

/-- A new row that nobody else has. -/
theorem SessionOk.inserted (ok : SessionOk R images locks session x) {row : ρ} (fresh : images (R.key row) = [])
    (lock : locks (R.key row) = some session) :
    SessionOk R images locks session
      { x.tracking R ⟨row, 0⟩ with pending := Function.update x.pending (R.key row) (some ⟨row, 0⟩) } := by
  have tracked : (x.tracking R ⟨row, 0⟩).tracked (R.key row) = some (R.version row) := Function.update_self ..
  have pending : Function.update x.pending (R.key row) (some ⟨row, 0⟩) (R.key row) = some ⟨row, 0⟩ :=
    Function.update_self ..
  refine ok.changed (R.key row)
    (fun key differs => ⟨Function.update_of_ne differs .., Function.update_of_ne differs ..⟩)
    (fun image found => ?_) (fun latest => ?_)
  · obtain rfl : ⟨row, 0⟩ = image := Option.some.inj (pending.symm.trans found)
    exact ⟨lock, rfl, by simp [fresh], tracked, by simp [fresh]⟩
  · rcases latest.appended rfl with rfl | older
    · exact Or.inr ⟨rfl, row, (source_written pending).mpr ⟨rfl, rfl⟩, .refl, tracked, le_rfl⟩
    · exact Or.inl older

/-- One step of disciplined sessions. -/
theorem Coherent.step (lawful : R.Lawful) (coherent : Coherent R s) {a : Action ρ κ ω} {raised : Option ε}
    (disciplined : Disciplined R s a) (run : step R s a = some (s', raised)) : Coherent R s' := by
  cases a with
  | begin session =>
    simp only [VersionedStore.step] at run
    split at run
    · cases run
      exact coherent.replaced (fun _ _ _ holds => holds)
        ⟨nofun, nofun, nofun, nofun, nofun, fun latest => absurd latest.1 (by simp)⟩
    · cases run
  | insert session row =>
    obtain ⟨x, opened, run⟩ := Option.bind_eq_some_iff.mp run
    split at run
    · rename_i fresh
      simp only [Bool.and_eq_true, List.isEmpty_iff, Option.isNone_iff_eq_none] at fresh
      cases run
      have free : s.free session (R.key row) = true := by simp [Store.free, fresh.2]
      have ok := (coherent.sessions opened).relocked fun _ => locked_keeps (R.key row)
      exact coherent.replaced (free_keeps free) (ok.inserted fresh.1 (Function.update_self ..))
    · cases run
  | load session key forUpdate =>
    obtain ⟨x, opened, run⟩ := Option.bind_eq_some_iff.mp run
    have ok := coherent.sessions opened
    split at run
    · cases run
      exact coherent
    · rename_i h seen
      have source := source_of_visible seen
      have ok := ok.tracking (coherent.source_key ok source ▸ source)
      split at run
      · split at run
        · rename_i free
          cases run
          exact coherent.replaced (free_keeps free) (ok.relocked fun _ => locked_keeps key)
        · cases run
      · cases run
        exact coherent.replaced (fun _ _ _ holds => holds) ok
  | apply session index operation =>
    obtain ⟨x, opened, run⟩ := Option.bind_eq_some_iff.mp run
    obtain ⟨h, held, run⟩ := Option.bind_eq_some_iff.mp run
    split at run
    · rename_i entity applied
      cases run
      exact coherent.replaced (fun _ _ _ holds => holds) ((coherent.sessions opened).applied lawful held applied)
    · cases run
      exact coherent.closed session
  | update session index =>
    obtain ⟨x, opened, run⟩ := Option.bind_eq_some_iff.mp run
    obtain ⟨h, held, run⟩ := Option.bind_eq_some_iff.mp run
    obtain ⟨last, advanced⟩ := disciplined x opened h held
    have latest := last.latest R held
    split at run
    · rename_i free
      split at run
      · rename_i current seen
        split at run
        · rename_i found
          cases run
          obtain ⟨basis, derived, precedes⟩ := coherent.up_to_date opened latest seen
            (fun unwritten => advanced (Option.isNone_iff_eq_none.mpr unwritten)) found
          have ok := (coherent.sessions opened).relocked fun _ => locked_keeps (R.key h.entity)
          exact coherent.replaced (free_keeps free)
            (ok.writing lawful latest derived (Function.update_self ..) basis precedes)
        · cases run
          exact coherent.closed session
      · cases run
        exact coherent.closed session
    · cases run
  | commit session =>
    obtain ⟨x, opened, run⟩ := Option.bind_eq_some_iff.mp run
    cases run
    exact coherent.committed opened
  | rollback session =>
    obtain ⟨x, opened, run⟩ := Option.bind_eq_some_iff.mp run
    cases run
    exact coherent.closed session

/-- Every store that disciplined sessions reach is coherent. -/
theorem Reach.coherent (lawful : R.Lawful) (reach : Reach R (Disciplined R) s) : Coherent R s := by
  induction reach with
  | start => exact ⟨nofun, nofun, fun _ => .nil, nofun⟩
  | next _ disciplined run ih => exact ih.step lawful disciplined run

/-- The update of an overtaken copy raises, and every committed image stays
as it is. -/
theorem Reach.update_overtaken (lawful : R.Lawful) (reach : Reach R (Disciplined R) s) {index : Nat} {h : Held ρ}
    {raised : Option ε} (disciplined : Disciplined R s (.update session index)) (opened : s.sessions session = some x)
    (held : x.held[index]? = some h) (behind : h.basis < (s.images (R.key h.entity)).length)
    (run : step R s (.update session index) = some (s', raised)) :
    raised = some (R.conflict h.entity) ∧ s' = s.closed session := by
  have latest := (disciplined x opened h held).1.latest R held
  have overtaken := fun current (seen : s.visible x (R.key h.entity) = some current) =>
    (reach.coherent lawful).overtaken opened latest seen behind
  simp only [step, opened, held, Option.bind_eq_bind, Option.bind_some] at run
  split at run
  · split at run
    · rename_i current seen
      rw [if_neg (overtaken current seen)] at run
      cases run
      exact ⟨rfl, rfl⟩
    · cases run
      exact ⟨rfl, rfl⟩
  · cases run

end Discipline

section Replay

variable {ρ κ ω ε : Type} [DecidableEq κ] (R : VersionedRows ρ κ ω ε) (allowed : Store ρ κ → Action ρ κ ω → Prop)
  [∀ s a, Decidable (allowed s a)]

/-- Carries a list of steps out, if the restriction allows each of them. -/
def replay : List (Action ρ κ ω) → Store ρ κ → Option (Store ρ κ)
  | [], s => some s
  | a :: rest, s =>
    if allowed s a then match step R s a with
      | some (s', _) => replay rest s'
      | none => none
    else none

theorem Reach.replay {actions : List (Action ρ κ ω)} {s s' : Store ρ κ} (reach : Reach R allowed s)
    (run : VersionedStore.replay R allowed actions s = some s') : Reach R allowed s' := by
  induction actions generalizing s with
  | nil =>
    cases run
    exact reach
  | cons a rest ih =>
    unfold VersionedStore.replay at run
    split at run
    · rename_i ok
      split at run
      · rename_i taken
        exact ih (.next reach ok taken) run
      · cases run
    · cases run

end Replay

end VersionedStore
