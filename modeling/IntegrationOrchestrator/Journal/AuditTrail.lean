import IntegrationOrchestrator.Dispatch.Selection
import IntegrationOrchestrator.Foundation.JsonWriter
import IntegrationOrchestrator.Journal.RequestHistory

namespace IntegrationOrchestrator

open JsonWriter (sortKeys sortKeys_perm filter_sortKeys sortKeys_eq_self_iff)

variable {settings : Settings} {s s' : State} {db : Database} {frame : Frame} {c : Config} {ids : Nat → UUID}
  {requestId : UUID} {readings : WorkflowOrchestrator.Readings} {rows : List RequestRecord}

/-- `ORDER BY occurred_at ASC, id ASC`. -/
abbrev AuditKey := Instant ×ₗ UUID

namespace Database

/-- The audit rows about requests with the keys they are read by, in commit
order. The row inserted as number `i` was given the id `ids i`. -/
def auditRows (db : Database) (ids : Nat → UUID) : List (AuditKey × RequestRecord) :=
  db.requestRecords.zipIdx.map fun entry => (toLex (entry.1.occurredAt, ids entry.2), entry.1)

def listForAggregate (db : Database) (ids : Nat → UUID) (requestId : UUID) (limit : Nat) :
    List (AuditKey × RequestRecord) :=
  (sortKeys ((db.auditRows ids).filter (·.2.requestId = requestId))).take limit

/-- The audit rows of a request that record a status change, in commit order. -/
def auditChanges (db : Database) (ids : Nat → UUID) (requestId : UUID) : List (AuditKey × RequestRecord) :=
  (db.auditRows ids).filter fun entry => entry.2.requestId = requestId && entry.2.changes

/-- Each of the rows starts where the one before it ended. -/
def Chained (rows : List RequestRecord) : Prop := rows.IsChain fun a b => b.previous = some a.new

instance (rows : List RequestRecord) : Decidable (Chained rows) := inferInstanceAs (Decidable (List.IsChain _ rows))

/-- The history returned for a request lists its status changes in the order
they were committed, so that each starts where the one before it ended. -/
def ReadsInOrder (db : Database) (ids : Nat → UUID) (requestId : UUID) (limit : Nat) : Prop :=
  let read := (db.listForAggregate ids requestId limit).filter (·.2.changes)
  read <+: db.auditChanges ids requestId ∧ Chained (read.map Prod.snd)

/-- Status changes of the request that bear one time were given ids in the
order they were committed. -/
def TiesInOrder (db : Database) (ids : Nat → UUID) (requestId : UUID) : Prop :=
  (db.auditChanges ids requestId).Pairwise fun a b => a.2.occurredAt = b.2.occurredAt → (ofLex a.1).2 ≤ (ofLex b.1).2

instance (db : Database) (ids : Nat → UUID) (requestId : UUID) : Decidable (db.TiesInOrder ids requestId) :=
  inferInstanceAs (Decidable (List.Pairwise _ _))

theorem auditRows_rows (db : Database) (ids : Nat → UUID) : (db.auditRows ids).map Prod.snd = db.requestRecords := by
  simp [auditRows, Function.comp_def]

theorem auditRows_key {entry : AuditKey × RequestRecord} (member : entry ∈ db.auditRows ids) :
    (ofLex entry.1).1 = entry.2.occurredAt := by
  obtain ⟨_, _, rfl⟩ := List.mem_map.mp member
  rfl

theorem auditRows_distinct (distinct : Function.Injective ids) : ((db.auditRows ids).map Prod.fst).Nodup := by
  have numbers : (((db.auditRows ids).map Prod.fst).map fun key => (ofLex key).2) =
      (db.requestRecords.zipIdx.map Prod.snd).map ids := by
    simp only [auditRows, List.map_map]
    rfl
  refine List.Nodup.of_map _ (numbers ▸ List.Nodup.map distinct ?_)
  rw [List.zipIdx_map_snd]
  exact List.nodup_range'

theorem auditChanges_rows (db : Database) (ids : Nat → UUID) (requestId : UUID) :
    (db.auditChanges ids requestId).map Prod.snd = db.statusChanges requestId := by
  rw [auditChanges, statusChanges, ← auditRows_rows db ids, List.filter_map]
  rfl

/-- The rows of a request, as they are read, with the status changes alone. -/
theorem filter_sorted_changes (distinct : Function.Injective ids) :
    (sortKeys ((db.auditRows ids).filter (·.2.requestId = requestId))).filter (·.2.changes) =
      sortKeys (db.auditChanges ids requestId) := by
  have keys : (((db.auditRows ids).filter (·.2.requestId = requestId)).map Prod.fst).Nodup :=
    (List.filter_sublist.map _).nodup (auditRows_distinct distinct)
  rw [filter_sortKeys keys, List.filter_filter, auditChanges]
  congr 1
  exact List.filter_congr fun entry _ => Bool.and_comm ..

theorem pairwise_auditChanges_iff
    (timely : (db.statusChanges requestId).Pairwise fun a b => a.occurredAt ≤ b.occurredAt) :
    ((db.auditChanges ids requestId).Pairwise fun a b => a.1 ≤ b.1) ↔ db.TiesInOrder ids requestId := by
  rw [← auditChanges_rows db ids, List.pairwise_map] at timely
  have keyed : ∀ entry ∈ db.auditChanges ids requestId, (ofLex entry.1).1 = entry.2.occurredAt :=
    fun entry member => auditRows_key (List.mem_of_mem_filter member)
  constructor
  · intro sorted
    refine sorted.imp_of_mem fun {a b} left right le same => ?_
    rw [Prod.Lex.le_iff, keyed a left, keyed b right] at le
    exact (le.resolve_left same.not_lt).2
  · intro ties
    refine (timely.and ties).imp_of_mem fun {a b} left right ⟨le, tie⟩ => ?_
    rw [Prod.Lex.le_iff, keyed a left, keyed b right]
    rcases le.lt_or_eq with before | same
    · exact .inl before
    · exact .inr ⟨same, tie same⟩

end Database

/-- The runs whose clock does not go back behind a status change it stamped. -/
def steadyClock : Restriction := Restriction.frames fun c input _ =>
  c.state.db.requestRecords.all (fun row => !row.changes || row.occurredAt ≤ input.readings.now) &&
    input.readings.now ≤ input.readings.refreshedAt

instance (c : Config) (a : Action) : Decidable (steadyClock c a) :=
  inferInstanceAs (Decidable (Restriction.frames _ c a))

/-- The status changes bear the times of a clock that never goes back. -/
def State.Timely (s : State) : Prop :=
  (s.db.requestRecords.filter (·.changes)).Pairwise fun a b => a.occurredAt ≤ b.occurredAt

namespace State.Timely

theorem append (held : s.Timely) (steady : readings.now ≤ readings.refreshedAt)
    (past : ∀ row ∈ s.db.requestRecords, row.changes = true → row.occurredAt ≤ readings.now)
    (records : s'.db.requestRecords = s.db.requestRecords ++ rows)
    (stamped : ((rows.filter (·.changes)).map (·.occurredAt)).Sublist [readings.now, readings.refreshedAt]) :
    s'.Timely := by
  have times : [readings.now, readings.refreshedAt].Pairwise (· ≤ ·) := by simpa using steady
  have new := List.pairwise_map.mp (times.sublist stamped)
  rw [State.Timely, records, List.filter_append, List.pairwise_append]
  refine ⟨held, new, fun old before row after => ?_⟩
  obtain ⟨member, changes⟩ := List.mem_filter.mp before
  have first := past old member changes
  have reading := stamped.mem (List.mem_map_of_mem after)
  simp only [List.mem_cons, List.not_mem_nil, or_false] at reading
  rcases reading with same | same
  · rwa [same]
  · rw [same]
    exact first.trans steady

theorem keep (held : s.Timely) (steady : readings.now ≤ readings.refreshedAt)
    (past : ∀ row ∈ s.db.requestRecords, row.changes = true → row.occurredAt ≤ readings.now)
    (journaled : Journaled readings frame s s') : s'.Timely := by
  cases journaled with
  | noted _ records silent =>
    refine held.append steady past records ?_
    rw [List.filter_eq_nil_iff.mpr fun row member => by simp [(silent row member).1]]
    exact List.nil_sublist _
  | @born q actor rows _ _ _ _ _ _ records silent createdAt =>
    refine held.append steady past records ?_
    rw [List.filter_cons_of_pos (creationRecord_changes q actor),
      List.filter_eq_nil_iff.mpr fun row member => by simp [(silent row member).1]]
    simp [creationRecord, createdAt]
  | wrote _ journals _ _ records => exact held.append steady past records journals.stamped

end State.Timely

theorem reachable_timely (reach : ReachableUnder settings steadyClock c) : c.state.Timely := by
  refine reach.state_invariant State.Timely ?_ ?_
  · exact List.Pairwise.nil
  · intro c task input frame rest state pushed _ held allowed atTask ran
    have clock := Restriction.frames_run allowed atTask
    simp only [Bool.and_eq_true, List.all_eq_true, Bool.or_eq_true, Bool.not_eq_true', decide_eq_true_eq] at clock
    refine held.keep clock.2 (fun row member changes => ?_) (Frame.journaled ran)
    exact (clock.1 row member).resolve_left (by simp [changes])

theorem State.Chronicled.chained (held : s.Chronicled) (requestId : UUID) :
    Database.Chained (s.db.statusChanges requestId) := by
  cases found : s.db.requests.get requestId with
  | none =>
    rw [held.unborn found]
    exact .nil
  | some q =>
    obtain ⟨birth, links, changes, _, new, path⟩ := held.path requestId q found
    rw [changes]
    exact Trail.Path.isChain (new ▸ path)

/-- In every run whose clock does not go back, the history of a request reads
back in the order it was committed, whatever the limit, exactly if ids break
the ties between its status changes in that order. -/
theorem audit_history_ordered_iff (reach : ReachableUnder settings steadyClock c) (distinct : Function.Injective ids)
    (requestId : UUID) :
    (∀ limit, c.state.db.ReadsInOrder ids requestId limit) ↔ c.state.db.TiesInOrder ids requestId := by
  have chronicled := reachable_chronicled (reach.mono fun _ _ _ => trivial)
  have timely : (c.state.db.statusChanges requestId).Pairwise fun a b => a.occurredAt ≤ b.occurredAt := by
    have both := (reachable_timely reach).filter (·.requestId = requestId)
    rwa [List.filter_filter] at both
  rw [← Database.pairwise_auditChanges_iff timely, ← sortKeys_eq_self_iff]
  have whole := @Database.filter_sorted_changes c.state.db ids requestId distinct
  constructor
  · intro reads
    have order := (reads (sortKeys ((c.state.db.auditRows ids).filter (·.2.requestId = requestId))).length).1
    rw [Database.listForAggregate, List.take_length, whole] at order
    exact order.eq_of_length (sortKeys_perm _).length_eq
  · intro sorted limit
    have order : ((c.state.db.listForAggregate ids requestId limit).filter (·.2.changes)) <+:
        c.state.db.auditChanges ids requestId := by
      rw [← sorted, ← whole]
      exact (List.take_prefix limit _).filter _
    refine ⟨order, ?_⟩
    have chain := chronicled.chained requestId
    rw [← Database.auditChanges_rows _ ids] at chain
    exact chain.infix (order.map Prod.snd).isInfix

theorem audit_history_ordered_dispatch :
    ∃ c, ReachableUnder Sample.settings steadyClock c ∧
      (c.state.db.statusChanges 200).map RequestRecord.new = [.received, .validating, .dispatching] ∧
      ∀ limit, c.state.db.ReadsInOrder id 200 limit := by
  obtain ⟨c, reach, found⟩ := reachableUnder_replay Sample.settings steadyClock
    (.spawn Sample.create :: Sample.work 0 1 200 2) (fun (c : Config) =>
      (c.state.db.statusChanges 200).map RequestRecord.new = [.received, .validating, .dispatching] &&
      decide (c.state.db.TiesInOrder id 200)) (by decide +kernel)
  simp only [Bool.and_eq_true, decide_eq_true_eq] at found
  exact ⟨c, reach, found.1, (audit_history_ordered_iff reach Function.injective_id 200).mpr found.2⟩

/-- One unit of work validates and claims a request at one reading of the
clock, and the second of its rows is given the smaller id. -/
theorem audit_history_swapped :
    ∃ c, ReachableUnder Sample.settings steadyClock c ∧ Function.Injective (Equiv.swap 2 3) ∧
      (c.state.db.listForAggregate (Equiv.swap 2 3) 200 200).map (fun entry => entry.2.new) =
        [.received, .received, .dispatching, .validating] ∧
      ¬ c.state.db.ReadsInOrder (Equiv.swap 2 3) 200 200 := by
  obtain ⟨c, reach, found⟩ := reachableUnder_replay Sample.settings steadyClock
    (.spawn Sample.create :: Sample.work 0 1 200 2) (fun (c : Config) =>
      let history := c.state.db.listForAggregate (Equiv.swap 2 3) 200 200
      history.map (fun entry => entry.2.new) = [.received, .received, .dispatching, .validating] &&
        !decide (Database.Chained ((history.filter fun entry => entry.2.changes).map Prod.snd))) (by decide +kernel)
  simp only [Bool.and_eq_true, Bool.not_eq_true', decide_eq_true_eq, decide_eq_false_iff_not] at found
  exact ⟨c, reach, (Equiv.swap 2 3).injective, found.1, fun reads => found.2 reads.2⟩

end IntegrationOrchestrator
